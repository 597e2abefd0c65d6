import Conveyor.Decimal.Binary

/-!
# Binary64 numbers as text

## Shortest decimal digits of a binary64 number

Every finite binary64 number `v = m · 2^q` owns the interval of reals that round to
it: halfway to each neighbour, both ends included when `m` is even. The digits
written for `v` are the fewest significant digits whose decimal lies in that
interval, and of two such decimals the nearer to `v`. For each count of digits
`n` only the two decimals next to `v` on the grid `10^(e - n + 1)` need a test:
if any grid point lies in the interval, so does one of those two. All arithmetic
is exact on `Nat`.
-/

namespace Conveyor.Decimal

set_option autoImplicit false

/-- Significant digits `digits` and the place of the decimal point: the number is
`0.d₁d₂… · 10^point`. -/
structure Digits where
  digits : Nat
  point : Int
  deriving Repr

def gridScale (p q : Int) : Nat × Nat :=
  (Nat.pow 10 p.toNat * Nat.pow 2 (2 - q).toNat, Nat.pow 2 (q - 2).toNat * Nat.pow 10 (-p).toNat)

def decimalExponent (m : Nat) (q : Int) : Int :=
  let guess : Int := ((m.log2 : Int) + q) * 30103 / 100000
  let below (e : Int) : Bool :=
    let (a, b) := gridScale e (q + 2)
    a ≤ m * b
  if below (guess + 1) then (if below (guess + 2) then guess + 2 else guess + 1)
  else if below guess then guess
  else if below (guess - 1) then guess - 1
  else guess - 2

def trimZeros (c : Nat) (p : Int) : Nat × Int :=
  go c p (Nat.toDigits 10 c).length
where
  go (c : Nat) (p : Int) : Nat → Nat × Int
    | 0 => (c, p)
    | fuel + 1 => if c % 10 == 0 && c != 0 then go (c / 10) (p + 1) fuel else (c, p)

/-- The decimal for `n` significant digits, if one of the two grid neighbours lies in
the rounding interval: `(c, p)` stands for `c · 10^p`. -/
def candidate (m : Nat) (q : Int) (boundary : Bool) (e : Int) (n : Nat) : Option (Nat × Int) :=
  let p : Int := e - n + 1
  let (a, b) := gridScale p q
  let value := 4 * m * b
  let low := (if boundary then 4 * m - 1 else 4 * m - 2) * b
  let high := (4 * m + 2) * b
  let inclusive := m % 2 == 0
  let inside (c : Nat) : Bool :=
    (low < c * a || (inclusive && low == c * a)) && (c * a < high || (inclusive && c * a == high))
  let down := value / a
  if down * a == value then some (down, p)
  else
    let up := down + 1
    match inside down, inside up with
    | true, true =>
      let belowGap := value - down * a
      let aboveGap := up * a - value
      if belowGap < aboveGap then some (down, p)
      else if aboveGap < belowGap then some (up, p)
      else if down % 2 == 0 then some (down, p) else some (up, p)
    | true, false => some (down, p)
    | false, true => some (up, p)
    | false, false => none

def shortest (m : Nat) (q : Int) : Digits :=
  let boundary := m == Nat.pow 2 52 && q > -1074
  let e := decimalExponent m q
  let found := (List.range 17).findSome? fun k => candidate m q boundary e (k + 1)
  let (c, p) := found.getD (m, q)
  let (c, p) := trimZeros c p
  ⟨c, p + (Nat.toDigits 10 c).length⟩

end Conveyor.Decimal

/-!
## Writing a binary64 number as text

A number's text is built from its shortest digits and one `Layout` record that
fixes where positional notation ends, how the exponent is marked and what a
whole number ends with. `Layout.standard` is the layout of every number in this
program's messages and reports.
-/

namespace Conveyor.Decimal

set_option autoImplicit false

/-- The decisions of a number format that are not about digits. -/
structure Layout where
  /-- Positional notation is used when `lowPoint < point ≤ highPoint`. -/
  lowPoint : Int
  highPoint : Int
  exponentMark : String
  exponentDigits : Nat
  /-- A whole positional number ends with `.0`. -/
  pointZero : Bool
  nanText : String
  infinityText : String

/-- Positional from `0.0001` to below `10^16`, otherwise `d.ddde±XX` with at least two
exponent digits; whole numbers keep `.0`. -/
def Layout.standard : Layout :=
  ⟨-4, 16, "e", 2, true, "nan", "inf"⟩

def padLeft (s : String) (width : Nat) (c : Char) : String :=
  String.ofList (List.replicate (width - s.length) c) ++ s

def Digits.render (layout : Layout) (d : Digits) : String :=
  let ds := Nat.toDigits 10 d.digits
  let n := ds.length
  if layout.lowPoint < d.point && d.point ≤ layout.highPoint then
    if d.point ≤ 0 then
      "0." ++ String.ofList (List.replicate (-d.point).toNat '0') ++ String.ofList ds
    else if n ≤ d.point.toNat then
      String.ofList ds ++ String.ofList (List.replicate (d.point.toNat - n) '0') ++
        (if layout.pointZero then ".0" else "")
    else
      String.ofList (ds.take d.point.toNat) ++ "." ++ String.ofList (ds.drop d.point.toNat)
  else
    let mantissa :=
      match ds with
      | [] => "0"
      | [c] => String.ofList [c]
      | c :: rest => String.ofList [c] ++ "." ++ String.ofList rest
    let exp := d.point - 1
    let sign := if exp < 0 then "-" else "+"
    mantissa ++ layout.exponentMark ++ sign ++ padLeft (toString exp.natAbs) layout.exponentDigits '0'

def render (layout : Layout) (x : Float) : String :=
  match shapeOf x with
  | .nan => layout.nanText
  | .infinite negative => (if negative then "-" else "") ++ layout.infinityText
  | .finite b =>
    let sign := if b.negative then "-" else ""
    if b.significand == 0 then
      sign ++ (if layout.pointZero then "0.0" else "0")
    else
      sign ++ (shortest b.significand b.exponent).render layout

def Float.text (x : Float) : String :=
  render Layout.standard x

end Conveyor.Decimal

/-!
## Numbers with a fixed count of decimals

Two layouts write a binary64 number with a chosen count of digits after the
point, rounding its exact value to the nearest such number, a tie going to the
even last digit:

* *fixed*: all whole digits, a point and `places` digits (`2.500000`);
* *scientific*: one digit, a point, `places` digits, `e`, a sign and at least two
  exponent digits (`1.234568e+07`); zero is `0.000000e+00`.

A negative number, negative zero included, starts with `-`. Infinities are `inf`
and `-inf`, and a value that is not a number is `nan`.
-/

namespace Conveyor.Decimal

set_option autoImplicit false

def Binary.fraction (b : Binary) : Nat × Nat :=
  if 0 ≤ b.exponent then (b.significand * Nat.pow 2 b.exponent.toNat, 1)
  else (b.significand, Nat.pow 2 (-b.exponent).toNat)

def roundFraction (num den : Nat) : Nat :=
  let q := num / den
  let r := num % den
  if 2 * r > den || (2 * r == den && q % 2 == 1) then q + 1 else q

def zeroPadded (n width : Nat) : String :=
  let ds := Nat.toDigits 10 n
  String.ofList (List.replicate (width - ds.length) '0' ++ ds)

def specialText (x : Float) : Option String :=
  match shapeOf x with
  | .nan => some "nan"
  | .infinite negative => some (if negative then "-inf" else "inf")
  | .finite _ => none

def fixedText (places : Nat) (x : Float) : String :=
  match shapeOf x with
  | .finite b =>
    let (num, den) := b.fraction
    let scaled := roundFraction (num * Nat.pow 10 places) den
    let digits := zeroPadded scaled (places + 1)
    let whole := digits.toList.take (digits.length - places)
    let frac := digits.toList.drop (digits.length - places)
    let body := String.ofList whole ++ (if places == 0 then "" else "." ++ String.ofList frac)
    (if b.negative then "-" else "") ++ body
  | _ => (specialText x).getD "nan"

def tenExponent (num den : Nat) : Int :=
  if num ≥ den then ((Nat.toDigits 10 (num / den)).length : Int) - 1
  else
    -- the least `k` with `num · 10^k ≥ den`
    Int.neg (go (Nat.toDigits 10 den).length 1)
where
  go : Nat → Nat → Nat
    | 0, k => k
    | fuel + 1, k => if num * Nat.pow 10 k ≥ den then k else go fuel (k + 1)

def scaledDigits (num den places : Nat) (e : Int) : Nat :=
  let shift := (places : Int) - e
  if 0 ≤ shift then roundFraction (num * Nat.pow 10 shift.toNat) den
  else roundFraction num (den * Nat.pow 10 (-shift).toNat)

def scientificText (places : Nat) (x : Float) : String :=
  match shapeOf x with
  | .finite b =>
    let sign := if b.negative then "-" else ""
    let (num, den) := b.fraction
    let (digits, e) :=
      if num == 0 then (0, (0 : Int))
      else
        let e := tenExponent num den
        let d := scaledDigits num den places e
        if d ≥ Nat.pow 10 (places + 1) then (scaledDigits num den places (e + 1), e + 1) else (d, e)
    let ds := (zeroPadded digits (places + 1)).toList
    let mantissa := String.ofList (ds.take 1) ++
      (if places == 0 then "" else "." ++ String.ofList (ds.drop 1))
    sign ++ mantissa ++ "e" ++ (if e < 0 then "-" else "+") ++ zeroPadded e.natAbs 2
  | _ => (specialText x).getD "nan"

end Conveyor.Decimal

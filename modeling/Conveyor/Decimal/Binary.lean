import Conveyor.Text.Digits

/-!
# Binary64 numbers

## Binary64 numbers as integers

A finite binary64 number is `± m · 2^q` with a 53-bit significand `m`. This module
splits a `Float` into those parts and builds the nearest binary64 number of a
non-negative rational in exact `Nat` arithmetic, ties going to the even
significand. Reading decimal text and widening integers both go through it, so
every conversion rounds once and correctly.
-/

namespace Conveyor.Decimal

set_option autoImplicit false

/-- A finite binary64 number `(-1)^negative · significand · 2^exponent`. -/
structure Binary where
  negative : Bool
  significand : Nat
  exponent : Int
  deriving Repr

/-- What a `Float` is: a finite number, an infinity or not a number. -/
inductive Shape where
  | finite (b : Binary)
  | infinite (negative : Bool)
  | nan

def shapeOf (x : Float) : Shape :=
  let bits : Nat := x.toBits.toNat
  let negative := bits / Nat.pow 2 63 == 1
  let biased : Nat := (bits / Nat.pow 2 52) % 2048
  let fraction : Nat := bits % Nat.pow 2 52
  if biased == 2047 then
    if fraction == 0 then .infinite negative else .nan
  else if biased == 0 then
    .finite ⟨negative, fraction, -1074⟩
  else
    .finite ⟨negative, fraction + Nat.pow 2 52, (biased : Int) - 1075⟩

def scaledFloor (num den : Nat) (k : Int) : Nat :=
  if 0 ≤ k then num / (den * Nat.pow 2 k.toNat) else num * Nat.pow 2 (-k).toNat / den

def scaledNearest (num den : Nat) (k : Int) : Nat :=
  let top := if 0 ≤ k then num else num * Nat.pow 2 (-k).toNat
  let bottom := if 0 ≤ k then den * Nat.pow 2 k.toNat else den
  let q := top / bottom
  let r := top % bottom
  if 2 * r > bottom || (2 * r == bottom && q % 2 == 1) then q + 1 else q

def nearestBits (num den : Nat) : Option Nat :=
  if num == 0 || den == 0 then some 0
  else
    let first : Int := (num.log2 : Int) - (den.log2 : Int) - 52
    let k := if scaledFloor num den first < Nat.pow 2 52 then first - 1 else first
    let k := if k < -1074 then -1074 else k
    let q := scaledNearest num den k
    let (q, k) := if q == Nat.pow 2 53 then (Nat.pow 2 52, k + 1) else (q, k)
    if k + 1075 ≥ 2047 then none
    else some (((k + 1075).toNat) * Nat.pow 2 52 + q - Nat.pow 2 52)

def ofBitsSigned (negative : Bool) (bits : Nat) : Float :=
  Float.ofBits (bits + if negative then Nat.pow 2 63 else 0).toUInt64

def infinity : Float := Float.ofBits 0x7FF0000000000000

def notANumber : Float := Float.ofBits 0x7FF8000000000000

/-- The binary64 number nearest to `± digits · 10^exponent`; infinity when it overflows.
Exponents far outside the binary64 range are settled before any power is formed. -/
def ofDecimal (negative : Bool) (digits : Nat) (exponent : Int) : Float :=
  let width : Int := (Nat.toDigits 10 digits).length
  if digits == 0 then ofBitsSigned negative 0
  else if exponent + width > 311 then (if negative then -infinity else infinity)
  else if exponent + width < -330 then ofBitsSigned negative 0
  else
    let (num, den) :=
      if 0 ≤ exponent then (digits * Nat.pow 10 exponent.toNat, 1) else (digits, Nat.pow 10 (-exponent).toNat)
    match nearestBits num den with
    | some bits => ofBitsSigned negative bits
    | none => if negative then -infinity else infinity

def ofInt? (n : Int) : Option Float :=
  (nearestBits n.natAbs 1).map (ofBitsSigned (n < 0))

end Conveyor.Decimal

/-!
## Rounding binary64 numbers to decimal places

A number is rounded to `p` decimal places by multiplying it by `10^p`, rounding
that to the nearest integer with a tie going to the even one, and dividing by
`10^p` again; each step is a binary64 operation, so a number just below a half
may round up once multiplied. A zero keeps the sign of the number it came from.
-/

namespace Conveyor.Decimal

set_option autoImplicit false

def signBit (x : Float) : Bool :=
  x.toBits >>> 63 == 1

def isEvenWhole (f : Float) : Bool :=
  (f / 2.0).floor * 2.0 == f

def roundHalfEven (x : Float) : Float :=
  let f := x.floor
  let d := x - f
  let r := if d < 0.5 then f else if d > 0.5 then f + 1.0 else if isEvenWhole f then f else f + 1.0
  if r == 0.0 then (if signBit x then -0.0 else 0.0) else r

def roundPlaces (places : Nat) (x : Float) : Float :=
  let scale := ofDecimal false 1 places
  roundHalfEven (x * scale) / scale

end Conveyor.Decimal

/-!
## Reading decimal text as a binary64 number

Text is read in its ASCII form (`Text.numberForm?`). It holds an optional sign and
then either a word, `inf`, `infinity` or `nan` in any case, or a decimal number:
digits with an optional point and at least one digit beside it, and an optional
exponent, `e` or `E` with an optional sign and digits. A single underscore may
stand between two digits anywhere in the text.

The value of a decimal number is the binary64 number nearest to it, a tie going to
the even one (`ofDecimal`): a number past the largest finite one is an infinity, and
one below the least is a zero of its sign.
-/

namespace Conveyor.Decimal

set_option autoImplicit false

def dropDigitUnderscores (before : Char) : List Char → Option (List Char)
  | [] => some []
  | '_' :: c :: rest =>
    if before.isDigit && c.isDigit then (dropDigitUnderscores c rest).map (c :: ·) else none
  | ['_'] => none
  | c :: rest => (dropDigitUnderscores c rest).map (c :: ·)

def digitsValue (ds : List Char) : Nat :=
  ds.foldl (fun acc d => acc * 10 + (d.toNat - 48)) 0

def readExponent (cs : List Char) : Option Int :=
  let (negative, ds) := Text.splitSign cs
  if ds.isEmpty || !ds.all Char.isDigit then none
  else some (if negative then -(digitsValue ds : Int) else digitsValue ds)

def readDecimal (cs : List Char) : Option (Nat × Int) :=
  let whole := cs.takeWhile Char.isDigit
  let (fraction, rest) :=
    match cs.dropWhile Char.isDigit with
    | '.' :: more => (more.takeWhile Char.isDigit, more.dropWhile Char.isDigit)
    | rest => ([], rest)
  if whole.isEmpty && fraction.isEmpty then none
  else
    let digits := digitsValue (whole ++ fraction)
    let shift : Int := fraction.length
    match rest with
    | [] => some (digits, -shift)
    | mark :: more =>
      if mark == 'e' || mark == 'E' then (readExponent more).map fun e => (digits, e - shift)
      else none

def infinityNames : List String := ["inf", "infinity"]

def readFloat? (s : String) : Option Float := do
  let cs ← Text.numberForm? s
  let cs ← if cs.contains '_' then dropDigitUnderscores ' ' cs else some cs
  let (negative, body) := Text.splitSign cs
  let word := String.ofList (body.map Char.toLower)
  if infinityNames.contains word then some (if negative then -infinity else infinity)
  else if word == "nan" then some notANumber
  else
    let (digits, exponent) ← readDecimal body
    some (ofDecimal negative digits exponent)

example : readDecimal "12.5e3".toList = some (125, 2) := by decide
example : readDecimal ".".toList = none := by decide
example : dropDigitUnderscores ' ' "1_000".toList = some "1000".toList := by decide
example : dropDigitUnderscores ' ' "1__0".toList = none := by decide

end Conveyor.Decimal

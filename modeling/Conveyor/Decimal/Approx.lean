import Conveyor.Decimal.Binary

/-!
# Decimal numbers read in binary steps

A quick way of reading decimal digits rounds after each step instead of once, and
the program's numbers depend on those steps, so it is stated here exactly, beside
the reading of number text, which rounds once.

*Parts joined.* A number is read as a whole part, taken exactly as an unsigned
64-bit integer, and at most fifteen fraction digits, taken as a binary64 integer.
Its value is `(whole + fraction · 10^-count) · sign`, each operation rounded in
binary64, where `10^-count` is the nearest binary64 number; an exponent then
multiplies by the nearest binary64 power of ten. Values with few fraction digits
come out exact: `32.875` is `32 + 875 · 0.001`.

*Number text.* Text read as a number is rounded once, to the nearest binary64
number: blanks may surround it, then come a sign, digits with an optional point,
and an optional exponent of at most seventeen digits. A result past the largest
finite number counts as unreadable.
-/

namespace Conveyor.Decimal

set_option autoImplicit false

def powTen (k : Int) : Float :=
  ofDecimal false 1 k

def ofNatNearest (n : Nat) : Float :=
  ofDecimal false n 0

/-- The value of a number read in parts: a whole part, fraction digits read as an
integer with their count (fifteen at most), and a sign, each operation rounded. -/
def joinParts (negative : Bool) (whole : Nat) (fraction : Float) (count : Nat) : Float :=
  let sign : Float := if negative then -1.0 else 1.0
  (ofNatNearest whole + fraction * powTen (-(count : Int))) * sign

def scaleByTen (x : Float) (negative : Bool) (k : Nat) : Float :=
  x * powTen (if negative then -(k : Int) else k)

def isNumberBlank (c : Char) : Bool :=
  c == ' ' || ('\t' ≤ c && c ≤ '\r')

/-- Decimal digits read so far: their value, the power of ten still to apply, and how
many significant digits were taken. -/
structure DigitsRead where
  digits : Nat
  exponent : Int
  taken : Nat

def maxExponentDigits : Nat := 17

def readWhole : DigitsRead → List Char → DigitsRead × List Char
  | s, c :: rest =>
    if c.isDigit then
      readWhole ⟨s.digits * 10 + (c.toNat - '0'.toNat), s.exponent, s.taken + 1⟩ rest
    else (s, c :: rest)
  | s, [] => (s, [])

def readFraction : DigitsRead → List Char → DigitsRead × List Char
  | s, c :: rest =>
    if c.isDigit then
      readFraction ⟨s.digits * 10 + (c.toNat - '0'.toNat), s.exponent - 1, s.taken + 1⟩ rest
    else (s, c :: rest)
  | s, [] => (s, [])

def exponentDigits (cs : List Char) : List Char × List Char :=
  let ds := (cs.takeWhile Char.isDigit).take maxExponentDigits
  (ds, cs.drop ds.length)

def digitsNat (ds : List Char) : Nat :=
  ds.foldl (fun acc c => acc * 10 + (c.toNat - '0'.toNat)) 0

def scaleExponent (cs : List Char) : Int × List Char :=
  match cs with
  | m :: rest =>
    if m == 'e' || m == 'E' then
      let (negative, body) := match rest with
        | '-' :: r => (true, r)
        | '+' :: r => (false, r)
        | r => (false, r)
      let (ds, tail) := exponentDigits body
      if ds.isEmpty then (0, cs)
      else ((if negative then -(digitsNat ds : Int) else digitsNat ds), tail)
    else (0, cs)
  | [] => (0, [])

def isInfinite (x : Float) : Bool :=
  x == infinity || x == -infinity

def readDecimalText (text : String) : Option Float :=
  let cs := text.toList.dropWhile isNumberBlank
  let (negative, body) := match cs with
    | '-' :: r => (true, r)
    | '+' :: r => (false, r)
    | r => (false, r)
  let (whole, afterWhole) := readWhole ⟨0, 0, 0⟩ body
  let (read, afterDigits) := match afterWhole with
    | '.' :: r => readFraction whole r
    | r => (whole, r)
  if read.taken == 0 then none
  else
    let (power, afterExponent) := scaleExponent afterDigits
    let value := ofDecimal negative read.digits (read.exponent + power)
    if isInfinite value then none
    else if (afterExponent.dropWhile isNumberBlank).isEmpty then some value
    else none

def infinityWords : List String := ["inf", "+inf", "-inf", "infinity", "+infinity", "-infinity"]

def readNumberText (text : String) : Option Float :=
  match readDecimalText text with
  | some x => some x
  | none =>
    let lower := String.ofList (text.toList.map Char.toLower)
    if infinityWords.contains lower then
      some (if lower.startsWith "-" then -infinity else infinity)
    else none

end Conveyor.Decimal

import Conveyor.Text.Basic

/-!
# Decimal digits and integer literals

A decimal digit is any character of Unicode general category Nd (Unicode 14).
Those characters come in runs of ten, zero to nine, so the table lists where
each run starts.

Number text is read in its *ASCII form*: a blank beyond ASCII becomes a space, a
decimal digit of any script its ASCII digit, and any other character beyond ASCII
makes the text no number; the ASCII blanks (tab to carriage return, and space)
around it are then dropped. The four information separators are blanks for
trimming text but not around a number. An integer literal, in that form, is an
optional sign and digits with single underscores allowed between two digits.
-/

namespace Conveyor.Text

set_option autoImplicit false

def digitZeros : List Nat := [
  0x30, 0x660, 0x6f0, 0x7c0, 0x966, 0x9e6, 0xa66, 0xae6,
  0xb66, 0xbe6, 0xc66, 0xce6, 0xd66, 0xde6, 0xe50, 0xed0,
  0xf20, 0x1040, 0x1090, 0x17e0, 0x1810, 0x1946, 0x19d0, 0x1a80,
  0x1a90, 0x1b50, 0x1bb0, 0x1c40, 0x1c50, 0xa620, 0xa8d0, 0xa900,
  0xa9d0, 0xa9f0, 0xaa50, 0xabf0, 0xff10, 0x104a0, 0x10d30, 0x11066,
  0x110f0, 0x11136, 0x111d0, 0x112f0, 0x11450, 0x114d0, 0x11650, 0x116c0,
  0x11730, 0x118e0, 0x11950, 0x11c50, 0x11d50, 0x11da0, 0x16a60, 0x16ac0,
  0x16b50, 0x1d7ce, 0x1d7d8, 0x1d7e2, 0x1d7ec, 0x1d7f6, 0x1e140, 0x1e2f0,
  0x1e950, 0x1fbf0]

def digitValue? (c : Char) : Option Nat :=
  let n := c.toNat
  (digitZeros.find? fun z => z ≤ n && n < z + 10).map fun z => n - z

def readDigits : List Char → Option Nat :=
  go 0 false
where
  go (acc : Nat) (afterUnderscore : Bool) : List Char → Option Nat
    | [] => if afterUnderscore then none else some acc
    | '_' :: rest => if afterUnderscore then none else goUnderscore acc rest
    | c :: rest =>
      match digitValue? c with
      | some d => go (acc * 10 + d) false rest
      | none => none
  goUnderscore (acc : Nat) : List Char → Option Nat
    | c :: rest =>
      match digitValue? c with
      | some d => go (acc * 10 + d) false rest
      | none => none
    | [] => none

def isAsciiBlank (c : Char) : Bool :=
  c == ' ' || (9 ≤ c.toNat && c.toNat ≤ 13)

def numberChar? (c : Char) : Option Char :=
  if c.toNat < 127 then some c
  else if isBlank c then some ' '
  else (digitValue? c).map fun d => Char.ofNat (48 + d)

/-- The ASCII form of number text without the ASCII blanks around it; `none` when a
character beyond ASCII is neither a blank nor a decimal digit. -/
def numberForm? (s : String) : Option (List Char) :=
  (s.toList.mapM numberChar?).map fun cs =>
    ((cs.dropWhile isAsciiBlank).reverse.dropWhile isAsciiBlank).reverse

def splitSign : List Char → Bool × List Char
  | '-' :: rest => (true, rest)
  | '+' :: rest => (false, rest)
  | cs => (false, cs)

def readInt? (s : String) : Option Int := do
  let (negative, body) := splitSign (← numberForm? s)
  match body with
  | [] => none
  | '_' :: _ => none
  | _ => (readDigits body).map fun n => if negative then -(n : Int) else n

def maxDecimalDigits : Nat := 4300

/-- How decimal text reads as a whole number: its value, no integer literal, or a
literal with more digits than are accepted, with their number. -/
inductive WholeReading where
  | value (n : Int)
  | invalid
  | tooManyDigits (count : Nat)

/-- Reads decimal text as whole-number conversion does: the literal rule first
(`readInt?`), then the limit on its digits, underscores not counted. -/
def readWholeText (s : String) : WholeReading :=
  match readInt? s, numberForm? s with
  | some n, some form =>
    let count := (form.filter fun c => c.isDigit).length
    if maxDecimalDigits < count then .tooManyDigits count else .value n
  | _, _ => .invalid

def readWhole? (s : String) : Option Int :=
  match readWholeText s with
  | .value n => some n
  | _ => none

def tooManyDigitsMessage (count : Nat) : String :=
  "Exceeds the limit (" ++ toString maxDecimalDigits ++
    " digits) for integer string conversion: value has " ++ toString count ++
    " digits; use sys.set_int_max_str_digits() to increase the limit"

def asciiDigitValue? (c : Char) : Option Nat :=
  if c.isDigit then some (c.toNat - 48)
  else if c.isLower then some (c.toNat - 87)
  else if c.isUpper then some (c.toNat - 55)
  else none

def readDigitsIn (base : Nat) : List Char → Option Nat :=
  go 0 true
where
  go (acc : Nat) (needDigit : Bool) : List Char → Option Nat
    | [] => if needDigit then none else some acc
    | '_' :: rest => if needDigit then none else go acc true rest
    | c :: rest =>
      match asciiDigitValue? c with
      | some d => if d < base then go (acc * base + d) false rest else none
      | none => none

def baseMark? : Nat → Option Char
  | 2 => some 'b'
  | 8 => some 'o'
  | 16 => some 'x'
  | _ => none

def dropBaseMark (base : Nat) (cs : List Char) : List Char :=
  match baseMark? base, cs with
  | some m, '0' :: c :: rest =>
    if c.toLower == m then
      match rest with
      | '_' :: more => more
      | more => more
    else cs
  | _, _ => cs

/-- Reads an integer literal in a base from two to thirty-six, as whole-number conversion
of text accepts it: the ASCII form, an optional sign, the base's mark where it has one,
then digits and single underscores. -/
def readIntIn? (base : Nat) (s : String) : Option Int := do
  let (negative, body) := splitSign (← numberForm? s)
  let n ← readDigitsIn base (dropBaseMark base body)
  pure (if negative then -(n : Int) else n)

example : digitZeros.length = 66 := by decide

end Conveyor.Text

import Conveyor.Value.Basic
import Conveyor.Decimal.Binary
import Conveyor.Decimal.Approx

/-!
# Cells of a table

A table of runs holds values in its cells. A cell is *missing* when it holds
nothing or a binary64 number that is not a number; missing cells are left out of
sorting, grouping and averages.

Cells compare the way values of the program compare:

* truth values, integers and binary64 numbers are all numbers and compare by
  their exact value (`1` equals `1.0` and `True`; a value that is not a number is
  neither below nor above anything);
* texts compare character by character, by code point;
* sequences compare item by item: the first items that differ decide, and a
  sequence that runs out first is the smaller;
* any other pair has no order, and asking for one is a type error naming the two
  kinds, the left one first.

The numeric reading of a cell, used for averages, takes numbers as they are,
reads text as a decimal number with optional blanks around it, and leaves every
other cell missing.
-/

namespace Conveyor.Table

set_option autoImplicit false

open Conveyor.Decimal

def isMissing : Value → Bool
  | .null => true
  | .float x => x != x
  | _ => false

def orderExact (n : Int) (b : Binary) : Ordering :=
  let m : Int := if b.negative then -(b.significand : Int) else b.significand
  if 0 ≤ b.exponent then compare n (m * Int.pow 2 b.exponent.toNat)
  else compare (n * Int.pow 2 (-b.exponent).toNat) m

def orderIntFloat (n : Int) (x : Float) : Ordering :=
  match shapeOf x with
  | .finite b => orderExact n b
  | .infinite negative => if negative then .gt else .lt
  | .nan => .eq

def orderFloats (x y : Float) : Ordering :=
  if x < y then .lt else if y < x then .gt else .eq

def truthInt (b : Bool) : Int :=
  if b then 1 else 0

def numberView : Value → Option (Int ⊕ Float)
  | .bool b => some (.inl (truthInt b))
  | .int n => some (.inl n)
  | .float x => some (.inr x)
  | _ => none

def orderNumbers : Int ⊕ Float → Int ⊕ Float → Ordering
  | .inl a, .inl b => compare a b
  | .inl a, .inr y => orderIntFloat a y
  | .inr x, .inl b => (orderIntFloat b x).swap
  | .inr x, .inr y => orderFloats x y

mutual
/-- Whether two cells are equal: numbers by exact value, texts by characters, sequences
and mappings item by item. -/
def same : Value → Value → Bool
  | .null, .null => true
  | .str a, .str b => a == b
  | .list xs, .list ys => sameItems xs ys
  | .object fs, .object gs => fs.length == gs.length && sameFields fs gs
  | a, b =>
    match numberView a, numberView b with
    | some x, some y => orderNumbers x y == .eq && !(isMissing a) && !(isMissing b)
    | _, _ => false

def sameItems : List Value → List Value → Bool
  | [], [] => true
  | x :: xs, y :: ys => same x y && sameItems xs ys
  | _, _ => false

def sameFields : List (String × Value) → List (String × Value) → Bool
  | [], _ => true
  | (k, v) :: rest, other =>
    (match other.lookup k with
      | some w => same v w
      | none => false) && sameFields rest other
end

/-- Two kinds that have no order between them. -/
structure Unordered where
  left : String
  right : String

def Unordered.message (u : Unordered) : String :=
  "'<' not supported between instances of '" ++ u.left ++ "' and '" ++ u.right ++ "'"

mutual
def order : Value → Value → Except Unordered Ordering
  | .str a, .str b => pure (if a < b then .lt else if a == b then .eq else .gt)
  | .list xs, .list ys => orderItems xs ys
  | a, b =>
    match numberView a, numberView b with
    | some x, some y => pure (orderNumbers x y)
    | _, _ => .error ⟨a.kindName, b.kindName⟩

def orderItems : List Value → List Value → Except Unordered Ordering
  | [], [] => pure .eq
  | [], _ :: _ => pure .lt
  | _ :: _, [] => pure .gt
  | x :: xs, y :: ys => if same x y then orderItems xs ys else order x y
end

/-- The numeric reading of a cell: numbers as they are, text read as a decimal number, and
anything else missing. -/
def numeric? : Value → Option Float
  | .bool b => some (if b then 1.0 else 0.0)
  | .int n => some ((ofInt? n).getD (if n < 0 then -infinity else infinity))
  | .float x => if x != x then none else some x
  | .str s => readNumberText s
  | _ => none

end Conveyor.Table

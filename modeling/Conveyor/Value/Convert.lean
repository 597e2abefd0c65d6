import Conveyor.Value.Basic
import Conveyor.Decimal.Binary
import Conveyor.Fault
import Conveyor.Value.Show
import Conveyor.Text.Digits

/-!
# Keys and conversions of values

## Mapping keys

A mapping read from a document may have keys that are not text. Two keys are the
same key when they are equal text, both nothing, equal numbers (a truth value counts
as 0 or 1, and a binary64 number equals an integer it holds exactly), equal bytes,
equal dates, or the same moment (`Moment.same`); keys of different shapes are never
the same otherwise. Setting a key that is already there keeps the first key and its
place and takes the new value; a new key goes last.

A mapping whose keys are all text is an `object`; any other is `keyed`. Both are seen
through their *entries*, the pairs of key and value in order.
-/

namespace Conveyor.Value

set_option autoImplicit false

open Conveyor.Decimal

/-- The number a key stands for, when it is a number: truth values count as 0 and 1. -/
inductive KeyNumber where
  | whole (n : Int)
  | binary (x : Float)

def keyNumber? : Value → Option KeyNumber
  | .bool b => some (.whole (if b then 1 else 0))
  | .int n => some (.whole n)
  | .float x => some (.binary x)
  | _ => none

def floatIsInt (x : Float) (n : Int) : Bool :=
  match shapeOf x with
  | .finite b =>
    let magnitude : Option Nat :=
      if 0 ≤ b.exponent then some (b.significand * Nat.pow 2 b.exponent.toNat)
      else
        let scale := Nat.pow 2 (-b.exponent).toNat
        if b.significand % scale == 0 then some (b.significand / scale) else none
    match magnitude with
    | some m => (if b.negative then -(m : Int) else m) == n
    | none => false
  | _ => false

def sameKey (a b : Value) : Bool :=
  match a, b with
  | .str x, .str y => x == y
  | .null, .null => true
  | .bytes x, .bytes y => x == y
  | .date x, .date y => x == y
  | .moment x, .moment y => x.same y
  | _, _ =>
    match keyNumber? a, keyNumber? b with
    | some (.whole x), some (.whole y) => x == y
    | some (.binary x), some (.binary y) => x == y
    | some (.whole n), some (.binary x) => floatIsInt x n
    | some (.binary x), some (.whole n) => floatIsInt x n
    | _, _ => false

/-- Sets a key of entries: a key already there keeps its place and takes the value; a
new key goes last. -/
def setKey (pairs : List (Value × Value)) (k v : Value) : List (Value × Value) :=
  if pairs.any (fun p => sameKey p.1 k) then
    pairs.map fun p => if sameKey p.1 k then (p.1, v) else p
  else pairs ++ [(k, v)]

def isMapping : Value → Bool
  | .object _ | .keyed _ => true
  | _ => false

def entries? : Value → Option (List (Value × Value))
  | .object fields => some (fields.map fun (k, v) => (.str k, v))
  | .keyed pairs => some pairs
  | _ => none

def sequence? : Value → Option (List Value)
  | .list items | .tuple items => some items
  | _ => none

def textFields? : List (Value × Value) → Option (List (String × Value))
  | [] => some []
  | (.str k, v) :: rest => ((k, v) :: ·) <$> textFields? rest
  | _ => none

def ofEntries (pairs : List (Value × Value)) : Value :=
  match textFields? pairs with
  | some fields => .object fields
  | none => .keyed pairs

def splitKeys (pairs : List (Value × Value)) : List (String × Value) × List Value :=
  pairs.foldr (fun (k, v) (fields, others) =>
    match k with
    | .str s => ((s, v) :: fields, others)
    | other => (fields, other :: others)) ([], [])

example : sameKey (.int 1) (.bool true) = true := by decide
example : sameKey (.str "1") (.int 1) = false := by decide

end Conveyor.Value

/-!
## Converting values to numbers

Whole-number conversion takes integers as they are, truth values as `0` and `1`,
binary64 numbers toward zero, and text and ASCII bytes through the integer literal rule
(`Text.readWholeText`, which also limits the digits); anything else is refused. Binary64 conversion rounds an
integer to the nearest binary64 number and refuses one past the largest, and
reads text as a decimal number (`readFloat?`). A refused text is quoted in the
message, whole-number conversion keeping the first 200 characters of the quote.
Also here: the elements a value yields when it is walked item by item, and mapping
conversion, which reads the items of anything else as pairs.
-/

namespace Conveyor.Value

set_option autoImplicit false

open Conveyor.Decimal

def Binary.truncate (b : Binary) : Int :=
  let magnitude : Nat :=
    if 0 ≤ b.exponent then b.significand * Nat.pow 2 b.exponent.toNat
    else b.significand / Nat.pow 2 (-b.exponent).toNat
  if b.negative then -(magnitude : Int) else magnitude

def toInt : Value → Except Fault Int
  | .int n => .ok n
  | .bool b => .ok (if b then 1 else 0)
  | .float x =>
    match shapeOf x with
    | .finite b => .ok (Binary.truncate b)
    | .infinite _ => .error ⟨.overflow, "cannot convert float infinity to integer"⟩
    | .nan => .error (.value "cannot convert float NaN to integer")
  | .str s =>
    match Text.readWholeText s with
    | .value n => .ok n
    | .tooManyDigits count => .error (.value (Text.tooManyDigitsMessage count))
    | .invalid => .error (.value ("invalid literal for int() with base 10: " ++
        String.ofList ((Text.quote s).toList.take 200)))
  | .bytes data =>
    let refused : Fault := .value ("invalid literal for int() with base 10: " ++
      String.ofList ((bytesLiteral data).toList.take 200))
    if data.all (· < 128) then
      match Text.readWholeText (String.ofList (data.map fun b => Char.ofNat b.toNat)) with
      | .value n => .ok n
      | .tooManyDigits count => .error (.value (Text.tooManyDigitsMessage count))
      | .invalid => .error refused
    else .error refused
  | v => .error (.type
      ("int() argument must be a string, a bytes-like object or a real number, not " ++
        Text.quote v.kindName))

def toFloat : Value → Except Fault Float
  | .float x => .ok x
  | .int n =>
    match ofInt? n with
    | some x => .ok x
    | none => .error ⟨.overflow, "int too large to convert to float"⟩
  | .bool b => .ok (if b then 1.0 else 0.0)
  | .str s =>
    match readFloat? s with
    | some x => .ok x
    | none => .error (.value ("could not convert string to float: " ++ Text.quote s))
  | v => .error (.type ("float() argument must be a string or a real number, not " ++
      Text.quote v.kindName))

/-- The elements of a value walked item by item: the characters of text, the items of
a sequence, the keys of a mapping; `none` for a value that cannot be walked. -/
def elements? : Value → Option (List Value)
  | .str s => some (s.toList.map fun c => .str (String.ofList [c]))
  | .list items | .tuple items | .set items => some items
  | .object fields => some (fields.map fun entry => .str entry.1)
  | .keyed pairs => some (pairs.map (·.1))
  | .bytes data => some (data.map fun b => .int b.toNat)
  | _ => none

def notIterable (v : Value) : Fault :=
  .type (Text.quote v.kindName ++ " object is not iterable")

def elements (v : Value) : Except Fault (List Value) :=
  match v.elements? with
  | some items => .ok items
  | none => .error (notIterable v)

def isHashable : Value → Bool
  | .list _ | .object _ | .keyed _ | .set _ | .cycle _ => false
  | .tuple items => items.attach.all fun ⟨v, _⟩ => isHashable v
  | _ => true

def pairsFrom (index : Nat) (acc : List (Value × Value)) : List Value → Except Fault (List (Value × Value))
  | [] => .ok acc
  | item :: rest =>
    match item.elements? with
    | none => .error (.type ("cannot convert dictionary update sequence element #" ++ toString index ++
        " to a sequence"))
    | some [k, v] =>
      if isHashable k then pairsFrom (index + 1) (setKey acc k v) rest
      else .error (.type ("unhashable type: " ++ Text.quote k.kindName))
    | some parts => .error (.value ("dictionary update sequence element #" ++ toString index ++
        " has length " ++ toString parts.length ++ "; 2 is required"))

/-- Mapping conversion: a mapping is kept; any other value is walked, and its items read
as pairs (`pairsFrom`). -/
def toMapping (v : Value) : Except Fault Value :=
  if v.isMapping then .ok v
  else do
    let items ← elements v
    ofEntries <$> pairsFrom 0 [] items

/-- The whole number of a value written in decimal: an integer, or a truth value as one
or zero; numbers with a fraction and text have no decimal form, and other values no
format at all. -/
def toWhole : Value → Except Fault Int
  | .int n => .ok n
  | .bool b => .ok (if b then 1 else 0)
  | v@(.float _) | v@(.str _) =>
    .error (.value ("Unknown format code 'd' for object of type " ++ Text.quote v.kindName))
  | v => .error (.type ("unsupported format string passed to " ++ v.kindName ++ ".__format__"))

end Conveyor.Value

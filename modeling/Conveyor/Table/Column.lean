import Conveyor.Table.Cell
import Conveyor.Fault

/-!
# Columns and groups of a table

## Columns and their kinds

When a table is built from records, each column takes the narrowest kind that
holds all its cells, and its cells are then stored as that kind holds them:

* *whole numbers* when every cell is an integer of 64 bits;
* *binary64 numbers* when the cells are numbers with at least one binary64 number
  or one missing cell among them, or when every cell is a missing binary64 number;
  integers are then rounded to the nearest binary64 number and a missing cell
  becomes a value that is not a number;
* *truth values* when every cell is one;
* otherwise *mixed*, each cell as it is. Text, sequences and mappings make a column
  mixed, and so do truth values beside anything else, integers beyond 64 bits, and
  a column whose cells are all nothing.
-/

namespace Conveyor.Table

set_option autoImplicit false

open Conveyor.Decimal

/-- The kind of cells a column stores. -/
inductive ColumnKind where
  | whole
  | binary
  | truth
  | mixed
  deriving DecidableEq, Repr

/-- What the cells of a column were found to hold. -/
structure Seen where
  nothing : Bool := false
  notNumber : Bool := false
  binary : Bool := false
  whole : Bool := false
  negative : Bool := false
  large : Bool := false
  truth : Bool := false
  other : Bool := false

def wholeMin : Int := -(Int.pow 2 63)

def wholeMax : Int := Int.pow 2 63 - 1

def unsignedMax : Int := Int.pow 2 64 - 1

def Seen.add (s : Seen) : Value → Seen
  | .null => { s with nothing := true }
  | .float x => if x != x then { s with notNumber := true } else { s with binary := true }
  | .int n =>
    if n < wholeMin || n > unsignedMax then { s with other := true }
    else { s with whole := true, negative := s.negative || n < 0, large := s.large || n > wholeMax }
  | .bool _ => { s with truth := true }
  | _ => { s with other := true }

def Seen.kind (s : Seen) : ColumnKind :=
  let numbers := s.binary || s.whole
  if s.other || (s.negative && s.large) then .mixed
  else if s.truth then
    if numbers || s.nothing || s.notNumber then .mixed else .truth
  else if s.nothing || s.notNumber then
    if numbers || s.notNumber then .binary else .mixed
  else if s.binary then .binary
  else if s.whole then .whole
  else .mixed

def ColumnKind.of (cells : List Value) : ColumnKind :=
  (cells.foldl Seen.add {}).kind

def ColumnKind.store : ColumnKind → Value → Value
  | .binary, .int n => .float ((ofInt? n).getD infinity)
  | .binary, .null => .float notANumber
  | _, v => v

def storeColumn (cells : List Value) : List Value :=
  let kind := ColumnKind.of cells
  cells.map kind.store

/-- The cells of a table of records, each column stored by its own kind. Every record
holds one cell per column. -/
def storeTable (width : Nat) (records : List (List Value)) : List (List Value) :=
  let kinds := (List.range width).map fun i => ColumnKind.of (records.map fun r => r.getD i .null)
  records.map fun r => (r.zip kinds).map fun (v, k) => k.store v

end Conveyor.Table

/-!
## Grouping rows by a key

Rows are grouped by the cell of a key column. Rows whose key is missing belong to
no group. Keys are equal as cells are (`1`, `1.0` and `True` are one key), a group
is named by the first key that formed it, and its rows keep their order. A
sequence or a mapping cannot be a key: the first such cell fails the grouping.

Groups come in the order of their keys: numbers by value first, then texts by
character.
-/

namespace Conveyor.Table

set_option autoImplicit false

variable {α : Type}

def keyFault? : Value → Option Fault
  | .list _ => some (.type "unhashable type: 'list'")
  | .object _ => some (.type "unhashable type: 'dict'")
  | _ => none

/-- Adds a row to the group of its key, or starts a group. Groups are kept in the order of
their first rows, each with its rows last first. -/
def addToGroup (key : Value) (row : α) : List (Value × List α) → List (Value × List α)
  | [] => [(key, [row])]
  | (k, rows) :: rest =>
    if same k key then (k, row :: rows) :: rest else (k, rows) :: addToGroup key row rest

def keyRank (v : Value) : Nat :=
  match numberView v with
  | some _ => 0
  | none => 1

def keyBefore (a b : Value) : Bool :=
  if keyRank a != keyRank b then keyRank a < keyRank b
  else
    match order a b with
    | .ok o => o == .lt
    | .error _ => false

def groupBy (key : α → Value) (rows : List α) : Except Fault (List (Value × List α)) := do
  let groups ← rows.foldlM (fun acc row => do
    let k := key row
    match keyFault? k with
    | some f => throw f
    | none => pure (if isMissing k then acc else addToGroup k row acc)) []
  let ordered := groups.mergeSort fun g h => keyBefore g.1 h.1 || !keyBefore h.1 g.1
  pure (ordered.map fun (k, rs) => (k, rs.reverse))

end Conveyor.Table

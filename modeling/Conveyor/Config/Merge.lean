import Conveyor.Fault
import Conveyor.Value.Convert
import Conveyor.Value.Show

/-!
# Merging configuration overlays

An overlay is merged onto a base configuration: mappings merge key by key, in
the base's key order with new keys last (keys are matched by `Value.sameKey`, and a
matched key keeps the base's spelling); lists and scalars are replaced whole, a tuple
by a list of its items; an explicit nothing in the overlay clears the value, and a
base of nothing takes the overlay as it is. Changing the kind of a value (mapping,
list or scalar) is refused, naming the dotted key where it happened; a key that is not
text is named by its text.
-/

namespace Conveyor.Config

set_option autoImplicit false

/-- The three kinds of configuration values. -/
inductive Shape where
  | mapping
  | list
  | scalar
  deriving DecidableEq, Repr

def Shape.word : Shape → String
  | .mapping => "mapping"
  | .list => "list"
  | .scalar => "scalar"

def Value.shape : Value → Shape
  | .object _ | .keyed _ | .cycle true => .mapping
  | .list _ | .tuple _ | .cycle false => .list
  | _ => .scalar

/-- A merge that would change the kind of a value: where, the base's kind and the
overlay's type. -/
structure MergeError where
  path : String
  base : Shape
  overlay : String

def MergeError.message (e : MergeError) : String :=
  "Invalid config overlay merge at " ++ (if e.path.isEmpty then "<root>" else e.path) ++
    ": base is " ++ e.base.word ++ " but overlay is " ++ e.overlay

def MergeError.toFault (e : MergeError) : Fault :=
  .value e.message

def childPath (path key : String) : String :=
  if path.isEmpty then key else path ++ "." ++ key

def lookupKey (entries : List (Value × Value)) (k : Value) : Option Value :=
  (entries.find? fun p => Value.sameKey p.1 k).map (·.2)

/-- An overlay that is not merged into a mapping: it replaces the base when their kinds
agree (a tuple as a list), or when the base is nothing. -/
def replaceWith (path : String) (base overlay : Value) : Except MergeError Value :=
  if base.isNull then .ok overlay
  else if Value.shape base != Value.shape overlay then .error ⟨path, Value.shape base, overlay.kindName⟩
  else
    match overlay with
    | .tuple items => .ok (.list items)
    | other => .ok other

mutual
def mergeAt (path : String) (base : Value) : Value → Except MergeError Value
  | .null => .ok .null
  | .object o =>
    match base.entries? with
    | some b => (mergeFields path b b o).map Value.ofEntries
    | none => replaceWith path base (.object o)
  | .keyed o =>
    match base.entries? with
    | some b => (mergePairs path b b o).map Value.ofEntries
    | none => replaceWith path base (.keyed o)
  | overlay => replaceWith path base overlay
termination_by structural overlay => overlay

def mergeFields (path : String) (base merged : List (Value × Value)) :
    List (String × Value) → Except MergeError (List (Value × Value))
  | [] => .ok merged
  | (k, v) :: rest => do
    let nv ← match lookupKey base (.str k) with
      | some b => mergeAt (childPath path k) b v
      | none => .ok v
    mergeFields path base (Value.setKey merged (.str k) nv) rest
termination_by structural fields => fields

def mergePairs (path : String) (base merged : List (Value × Value)) :
    List (Value × Value) → Except MergeError (List (Value × Value))
  | [] => .ok merged
  | (k, v) :: rest => do
    let nv ← match lookupKey base k with
      | some b => mergeAt (childPath path k.text) b v
      | none => .ok v
    mergePairs path base (Value.setKey merged k nv) rest
termination_by structural pairs => pairs
end

end Conveyor.Config

import Conveyor.Fault
import Conveyor.Value.Convert
import Conveyor.Text.Basic

/-!
# Configuration sections read key by key

A section is a mapping that is read one key at a time. Every key read is marked
*consumed*; a key left unread at the end is reported with its dotted path, which
catches typos and stale keys. Keys are looked up as text, so a key that is not text
is never read: it is always reported, by its text. A key read as a nested section, or as a list of
sections, becomes a child that is read the same way; the children hang in a tree
addressed from the root by a path of `Step`s.

The values read are recorded as the section's *effective* values: what the
program went on to use, defaults included. A child contributes its effective
values when it has any; a list of sections always contributes its list.

Every reader returns its result together with the updated section, also when it
fails: a key is consumed as soon as it is looked up, even if its value is then
refused.
-/

namespace Conveyor.Config

set_option autoImplicit false

open Conveyor.Text (sortTexts)

/-- A mapping being read key by key, with what was read so far: its entries with text
keys, the texts of its other keys, its path, the keys read, the nested sections and
lists of sections, and the values recorded. -/
inductive Section where
  | mk (data : List (String × Value)) (others : List String) (path : String)
      (consumed : List String) (children : List (String × Section))
      (items : List (String × List Section)) (effective : List (String × Value))
  deriving Inhabited

namespace Section

def data : Section → List (String × Value)
  | mk d _ _ _ _ _ _ => d

def others : Section → List String
  | mk _ o _ _ _ _ _ => o

def path : Section → String
  | mk _ _ p _ _ _ _ => p

def consumed : Section → List String
  | mk _ _ _ c _ _ _ => c

def children : Section → List (String × Section)
  | mk _ _ _ _ ch _ _ => ch

def items : Section → List (String × List Section)
  | mk _ _ _ _ _ it _ => it

def effective : Section → List (String × Value)
  | mk _ _ _ _ _ _ e => e

def ofFields (data : List (String × Value)) (path : String) : Section :=
  mk data [] path [] [] [] []

def ofEntries (entries : List (Value × Value)) (path : String) : Section :=
  let (fields, others) := Value.splitKeys entries
  mk fields (others.map Value.text) path [] [] [] []

def withConsumed (s : Section) (c : List String) : Section :=
  mk s.data s.others s.path c s.children s.items s.effective

def withChildren (s : Section) (ch : List (String × Section)) : Section :=
  mk s.data s.others s.path s.consumed ch s.items s.effective

def withItems (s : Section) (it : List (String × List Section)) : Section :=
  mk s.data s.others s.path s.consumed s.children it s.effective

def withEffective (s : Section) (e : List (String × Value)) : Section :=
  mk s.data s.others s.path s.consumed s.children s.items e

end Section

def joinPath (parent key : String) : String :=
  if parent.isEmpty then key else parent ++ "." ++ key

def listOrNone (xs : List String) : String :=
  if xs.isEmpty then "<none>" else ", ".intercalate xs

/-- Why reading a section failed. -/
inductive ConfigError where
  | blankKey
  | keyNotText (kind : String)
  | nestedAlready (path : String)
  | missingKey (path : String)
  | missingSection (path : String)
  | sectionDefault (path : String)
  | notSection (path kind : String)
  | sectionListDefault (path : String)
  | notSectionList (path kind : String)
  | itemNotSection (path kind : String)
  | empty (path : String)
  | boolDefault (path : String)
  | notBool (path kind : String)
  | floatDefault (path : String)
  | notFloat (path kind : String)
  | tooLarge
  | belowMinimum (path : String) (minimum value : Float)
  | unconvertible (fault : Fault)
  | textDefault (path : String)
  | notText (path kind : String)
  | notChoice (path : String) (allowed : List String) (value : String)
  | textListDefault (path : String)
  | notTextList (path kind : String)
  | itemNotText (path : String) (index : Nat) (kind : String)
  | emptyItem (path : String) (index : Nat)
  | unknownKeys (path : String) (unknown consumed : List String)

def ConfigError.message : ConfigError → String
  | .blankKey => "ConfigNamespace key must be a non-empty string"
  | .keyNotText kind => Text.quote kind ++ " object has no attribute 'strip'"
  | .nestedAlready path => path ++ " already accessed as a nested namespace"
  | .missingKey path => "Missing required config key: " ++ path
  | .missingSection path => "Missing required config namespace: " ++ path
  | .sectionDefault path => "default for " ++ path ++ " must be a mapping or None"
  | .notSection path kind => path ++ " must be a mapping (type=" ++ kind ++ ")"
  | .sectionListDefault path => path ++ " default must be a list of mappings"
  | .notSectionList path kind => path ++ " must be a list of mappings (type=" ++ kind ++ ")"
  | .itemNotSection path kind => path ++ " must be a mapping (type=" ++ kind ++ ")"
  | .empty path => path ++ " cannot be empty"
  | .boolDefault path => path ++ " default must be a boolean"
  | .notBool path kind => path ++ " must be a boolean (type=" ++ kind ++ ")"
  | .floatDefault path => path ++ " default must be a float"
  | .notFloat path kind => path ++ " must be a float (type=" ++ kind ++ ")"
  | .tooLarge => "int too large to convert to float"
  | .unconvertible fault => fault.message
  | .belowMinimum path minimum value =>
    path ++ " must be >= " ++ Decimal.Float.text minimum ++ " (got " ++ Decimal.Float.text value ++ ")"
  | .textDefault path => path ++ " default must be a string or None"
  | .notText path kind => path ++ " must be a string (type=" ++ kind ++ ")"
  | .notChoice path allowed value =>
    path ++ " must be one of: " ++ listOrNone allowed ++ " (got " ++ Text.quote value ++ ")"
  | .textListDefault path => path ++ " default must be a list[str]"
  | .notTextList path kind => path ++ " must be a list[str] (type=" ++ kind ++ ")"
  | .itemNotText path index kind =>
    path ++ "[" ++ toString index ++ "] must be a string (type=" ++ kind ++ ")"
  | .emptyItem path index => path ++ "[" ++ toString index ++ "] cannot be empty"
  | .unknownKeys path unknown consumed =>
    "Unknown config keys under " ++ (if path.isEmpty then "<root>" else path) ++ ": " ++
      ", ".intercalate unknown ++ " (consumed: " ++ listOrNone consumed ++ ")"

def ConfigError.kind : ConfigError → FaultKind
  | .blankKey | .sectionDefault _ | .notSection _ _ | .sectionListDefault _
  | .notSectionList _ _ | .itemNotSection _ _ | .boolDefault _ | .notBool _ _
  | .floatDefault _ | .notFloat _ _ | .textDefault _ | .notText _ _ | .textListDefault _
  | .notTextList _ _ | .itemNotText _ _ _ => .typeError
  | .keyNotText _ => .attributeError
  | .tooLarge => .overflow
  | .unconvertible fault => fault.kind
  | _ => .valueError

def ConfigError.toFault (e : ConfigError) : Fault :=
  ⟨e.kind, e.message⟩

/-- A step from a section to a nested one: a child, or an item of a list of sections. -/
inductive Step where
  | child (key : String)
  | item (key : String) (index : Nat)
  deriving BEq, Repr

abbrev Read (α : Type) := Except ConfigError α × Section

def assocSet {β : Type} (xs : List (String × β)) (key : String) (v : β) : List (String × β) :=
  if xs.any (fun entry => entry.1 == key) then
    xs.map fun entry => if entry.1 == key then (key, v) else entry
  else xs ++ [(key, v)]

namespace Section

/-- Runs a reader on the section at an address below this one; `none` if there is no
section there. -/
def focus {α : Type} : List Step → (Section → Read α) → Section → Option (Read α)
  | [], f, s => some (f s)
  | .child key :: rest, f, s =>
    match s.children.lookup key with
    | none => none
    | some c =>
      (focus rest f c).map fun (r, c2) => (r, s.withChildren (assocSet s.children key c2))
  | .item key i :: rest, f, s =>
    match s.items.lookup key with
    | none => none
    | some list =>
      match list[i]? with
      | none => none
      | some c =>
        (focus rest f c).map fun (r, c2) => (r, s.withItems (assocSet s.items key (list.set i c2)))

def consume (s : Section) (key : String) : Section :=
  if s.consumed.contains key then s else s.withConsumed (s.consumed ++ [key])

def record (s : Section) (key : String) (v : Value) : Section :=
  s.withEffective (assocSet s.effective key v)

def consumedKeys (s : Section) : List String :=
  sortTexts s.consumed

def unconsumedKeys (s : Section) : List String :=
  sortTexts (((s.data.map (·.1)).filter fun k => !s.consumed.contains k) ++ s.others)

def trimKey (key : Value) : Except ConfigError String :=
  match key with
  | .str k => .ok (Text.strip k)
  | other => .error (.keyNotText other.kindName)

/-- Looks a key up: refuses a blank key or one already read as a nested section, marks it
consumed, and gives its value, the default when it is absent, or refuses a missing
required key. -/
def raw (s : Section) (key : Value) (default : Option Value) : Read Value :=
  match key with
  | .str k =>
    let k := Text.strip k
    if k.isEmpty then (.error .blankKey, s)
    else if (s.children.lookup k).isSome || (s.items.lookup k).isSome then
      (.error (.nestedAlready (joinPath s.path k)), s)
    else
      match s.data.lookup k with
      | some v => (.ok v, s.consume k)
      | none =>
        match default with
        | some d => (.ok d, s.consume k)
        | none => (.error (.missingKey (joinPath s.path k)), s)
  | _ => (.error .blankKey, s)

def defaultFault (s : Section) (key : Value) (mk : String → ConfigError) : ConfigError :=
  match trimKey key with
  | .ok k => mk (joinPath s.path k)
  | .error e => e

def getBool (s : Section) (key : Value) (default : Option Value) : Read Bool :=
  match default with
  | some d => if d matches .bool _ then go else (.error (s.defaultFault key .boolDefault), s)
  | none => go
where
  go : Read Bool :=
    match s.raw key default with
    | (.error e, s2) => (.error e, s2)
    | (.ok (.bool b), s2) =>
      let k := match key with | .str k => Text.strip k | _ => ""
      (.ok b, s2.record k (.bool b))
    | (.ok v, s2) =>
      let k := match key with | .str k => Text.strip k | _ => ""
      (.error (.notBool (joinPath s.path k) v.kindName), s2)

def isNumber : Value → Bool
  | .int _ | .float _ => true
  | _ => false

/-- Reads a binary64 number, widening an integer, and checks it against a minimum. The
minimum is converted like any value given as a number (`Value.toFloat`) once the number
is read; nothing is no minimum. -/
def getFloat (s : Section) (key : Value) (default : Option Value) (minimum : Option Value) :
    Read Float :=
  match default with
  | some d => if isNumber d then go else (.error (s.defaultFault key .floatDefault), s)
  | none => go
where
  go : Read Float :=
    let k := match key with | .str k => Text.strip k | _ => ""
    match s.raw key default with
    | (.error e, s2) => (.error e, s2)
    | (.ok v, s2) =>
      if !isNumber v then (.error (.notFloat (joinPath s.path k) v.kindName), s2)
      else
        match v.toFloat with
        | .error _ => (.error .tooLarge, s2)
        | .ok x =>
          match minimum with
          | none | some .null => (.ok x, s2.record k (.float x))
          | some given =>
            match given.toFloat with
            | .error f => (.error (.unconvertible f), s2)
            | .ok m =>
              if x < m then (.error (.belowMinimum (joinPath s.path k) m x), s2)
              else (.ok x, s2.record k (.float x))

/-- Reads text: trimmed, non-empty unless allowed, one of the choices when given; nothing
stays nothing. The choices are the elements of the value given (`Value.elements`),
compared after trimming their texts, and blank ones are dropped; nothing is no choices. -/
def getText (s : Section) (key : Value) (default : Option Value) (allowEmpty : Bool)
    (choices : Option Value) : Read (Option String) :=
  match default with
  | some (.str _) | some .null | none => go
  | some _ => (.error (s.defaultFault key .textDefault), s)
where
  go : Read (Option String) :=
    let k := match key with | .str k => Text.strip k | _ => ""
    let path := joinPath s.path k
    match s.raw key default with
    | (.error e, s2) => (.error e, s2)
    | (.ok .null, s2) => (.ok none, s2.record k .null)
    | (.ok (.str raw), s2) =>
      let v := Text.strip raw
      if v.isEmpty && !allowEmpty then (.error (.empty path), s2)
      else
        match choices with
        | none | some .null => (.ok (some v), s2.record k (.str v))
        | some given =>
          match given.elements with
          | .error f => (.error (.unconvertible f), s2)
          | .ok cs =>
            let allowed := sortTexts ((cs.map fun c => Text.strip c.text).filter (!·.isEmpty)).eraseDups
            if allowed.contains v then (.ok (some v), s2.record k (.str v))
            else (.error (.notChoice path allowed v), s2)
    | (.ok other, s2) => (.error (.notText path other.kindName), s2)

def textItems (path : String) : Nat → List Value → Except ConfigError (List String)
  | _, [] => .ok []
  | i, .str t :: rest =>
    let t := Text.strip t
    if t.isEmpty then .error (.emptyItem path i)
    else (textItems path (i + 1) rest).map (t :: ·)
  | i, v :: _ => .error (.itemNotText path i v.kindName)

/-- Reads a list of texts, each trimmed and non-empty; the list itself non-empty unless
allowed. Nothing counts as an empty list. -/
def getTexts (s : Section) (key : Value) (default : Option Value) (allowEmpty : Bool) :
    Read (List String) :=
  match default with
  | some (.list _) | none => go
  | some _ => (.error (s.defaultFault key .textListDefault), s)
where
  go : Read (List String) :=
    let k := match key with | .str k => Text.strip k | _ => ""
    let path := joinPath s.path k
    match s.raw key default with
    | (.error e, s2) => (.error e, s2)
    | (.ok v, s2) =>
      let v := if v matches .null then .list [] else v
      match v.sequence? with
      | some raw =>
        match textItems path 0 raw with
        | .error e => (.error e, s2)
        | .ok texts =>
          if texts.isEmpty && !allowEmpty then (.error (.empty path), s2)
          else (.ok texts, s2.record k (Value.strs texts))
      | none => (.error (.notTextList path v.kindName), s2)

/-- Opens a nested section: an existing child is returned as it is; a missing or empty
value takes the default mapping (or an empty one), and a required one is refused. -/
def openChild (s : Section) (key : Value) (default : Option Value) : Read String :=
  let trimmed : Except ConfigError String :=
    if key.isFalsy then .ok "" else trimKey key
  match trimmed with
  | .error e => (.error e, s)
  | .ok k =>
    if k.isEmpty then (.error .blankKey, s)
    else
      let path := joinPath s.path k
      match s.children.lookup k with
      | some _ => (.ok k, s)
      | none =>
        let found := (s.data.lookup k).getD .null
        let entries : Except ConfigError (List (Value × Value)) :=
          match found with
          | .null =>
            match default with
            | none => .error (.missingSection path)
            | some .null => .ok []
            | some d =>
              match d.entries? with
              | some e => .ok e
              | none => .error (.sectionDefault path)
          | other =>
            match other.entries? with
            | some e => .ok e
            | none => .error (.notSection path other.kindName)
        match entries with
        | .error e => (.error e, s)
        | .ok d =>
          let s2 := s.consume k
          (.ok k, s2.withChildren (assocSet s2.children k (ofEntries d path)))

/-- Opens a list of nested sections, `key[0]`, `key[1]`, …; nothing counts as an empty
list, which is refused unless allowed. -/
def sectionList (s : Section) (key : Value) (default : Option Value) (allowEmpty : Bool) :
    Read Nat :=
  match default with
  | some (.list _) | none => go
  | some _ => (.error (s.defaultFault key .sectionListDefault), s)
where
  go : Read Nat :=
    let k := match key with | .str k => Text.strip k | _ => ""
    let path := joinPath s.path k
    match s.raw key default with
    | (.error e, s2) => (.error e, s2)
    | (.ok v, s2) =>
      let v := if v matches .null then .list [] else v
      match v.sequence? with
      | some raw =>
        let built : Except ConfigError (List Section) := raw.zipIdx.mapM fun (item, i) =>
          let itemPath := path ++ "[" ++ toString i ++ "]"
          match item.entries? with
          | some d => Except.ok (ofEntries d itemPath)
          | none => Except.error (ConfigError.itemNotSection itemPath item.kindName)
        match built with
        | .error e => (.error e, s2)
        | .ok sections =>
          if sections.isEmpty && !allowEmpty then (.error (.empty path), s2)
          else (.ok sections.length, s2.withItems (assocSet s2.items k sections))
      | none => (.error (.notSectionList path v.kindName), s2)

mutual
def assertConsumed : Section → Except ConfigError Unit
  | s@(mk _ _ _ _ children items _) => do
    let unknown := s.unconsumedKeys
    if !unknown.isEmpty then throw (.unknownKeys s.path unknown s.consumedKeys)
    assertChildren children
    assertItems items

def assertChildren : List (String × Section) → Except ConfigError Unit
  | [] => .ok ()
  | (_, c) :: rest => do assertConsumed c; assertChildren rest

def assertItems : List (String × List Section) → Except ConfigError Unit
  | [] => .ok ()
  | (_, list) :: rest => do assertList list; assertItems rest

def assertList : List Section → Except ConfigError Unit
  | [] => .ok ()
  | c :: rest => do assertConsumed c; assertList rest
end

mutual
/-- The values the program used: its own, then each child that has any, then each list
of sections. -/
def effectiveValues : Section → List (String × Value)
  | mk _ _ _ _ children items own =>
    itemsEffective (childrenEffective own children) items

def childrenEffective : List (String × Value) → List (String × Section) → List (String × Value)
  | out, [] => out
  | out, (k, c) :: rest =>
    let e := effectiveValues c
    childrenEffective (if e.isEmpty then out else assocSet out k (.object e)) rest

def itemsEffective : List (String × Value) → List (String × List Section) → List (String × Value)
  | out, [] => out
  | out, (k, list) :: rest => itemsEffective (assocSet out k (.list (listEffective list))) rest

def listEffective : List Section → List Value
  | [] => []
  | c :: rest => .object (effectiveValues c) :: listEffective rest
end

end Section

end Conveyor.Config

import Mathlib
import Conveyor.Proofs.Sections

/-!
# Addresses in a configuration

A configuration is a mapping whose values may be mappings again, or lists of mappings. An
address is a list of `Step`s: a step to a child goes to the value at a text key, a step to
an item goes to one item of the list at a key. `Value.valueAt` follows an address through a
value, and `Section.sectionAt` follows it through the sections opened so far.

`Value.addAt` adds an entry at the end of the mapping at an address; `Section.addAt` does the
same to a section, both in the mapping each section on the way reads from and in the
sections on the way already opened. The two agree: a section opened over a mapping with an
entry added is the section opened over the mapping, with the entry added
(`Section.of_entries_add_at`). An entry added at an address leaves every key that the address
does not pass through as it was, and commutes with everything reading does
(`Section.add_at_after`).
-/

namespace Conveyor.Config

set_option autoImplicit false

def Step.key : Step → String
  | .child key | .item key _ => key

def Step.pathFrom (parent : String) : Step → String
  | .child key => joinPath parent key
  | .item key i => joinPath parent key ++ "[" ++ toString i ++ "]"

def dottedPath (parent : String) (address : List Step) : String :=
  address.foldl Step.pathFrom parent

@[simp] theorem dotted_path_nil (parent : String) : dottedPath parent [] = parent := rfl

@[simp] theorem dotted_path_cons (parent : String) (step : Step) (rest : List Step) :
    dottedPath parent (step :: rest) = dottedPath (step.pathFrom parent) rest := rfl

def mapAt {β : Type} (key : String) (f : β → β) (xs : List (String × β)) : List (String × β) :=
  xs.map fun entry => if entry.1 = key then (entry.1, f entry.2) else entry

section MapAt

variable {β : Type}

@[simp] theorem map_at_nil (key : String) (f : β → β) : mapAt key f [] = [] := rfl

theorem lookup_map_at_self (key : String) (f : β → β) (xs : List (String × β)) :
    (mapAt key f xs).lookup key = (xs.lookup key).map f := by
  induction xs with
  | nil => rfl
  | cons entry rest ih =>
    obtain ⟨k, b⟩ := entry
    by_cases same : k = key
    · subst same
      simp [mapAt, List.lookup]
    · have differs : (key == k) = false := beq_false_of_ne (Ne.symm same)
      simp only [mapAt, List.map_cons, same, if_false, List.lookup, differs] at ih ⊢
      exact ih

theorem lookup_map_at_of_ne {key k : String} (f : β → β) (xs : List (String × β)) (differs : k ≠ key) :
    (mapAt key f xs).lookup k = xs.lookup k := by
  induction xs with
  | nil => rfl
  | cons entry rest ih =>
    obtain ⟨k', b⟩ := entry
    by_cases same : k' = key
    · subst same
      have other : (k == k') = false := beq_false_of_ne differs
      simp only [mapAt, List.map_cons, if_true, List.lookup, other] at ih ⊢
      exact ih
    · simp only [mapAt, List.map_cons, same, if_false, List.lookup] at ih ⊢
      split <;> simp_all

theorem map_fst_map_at (key : String) (f : β → β) (xs : List (String × β)) :
    (mapAt key f xs).map Prod.fst = xs.map Prod.fst := by
  simp only [mapAt, List.map_map]
  congr 1
  funext entry
  by_cases same : entry.1 = key <;> simp [same]

theorem any_map_at (key : String) (f : β → β) (xs : List (String × β)) (p : String → Bool) :
    (mapAt key f xs).any (fun entry => p entry.1) = xs.any (fun entry => p entry.1) := by
  have keys := congrArg (fun ks => ks.any p) (map_fst_map_at key f xs)
  simpa only [List.any_map, Function.comp_def] using keys

theorem map_at_assoc_set_self (key : String) (f : β → β) (xs : List (String × β)) (v : β) :
    mapAt key f (assocSet xs key v) = assocSet (mapAt key f xs) key (f v) := by
  unfold assocSet
  rw [any_map_at key f xs (· == key)]
  split
  · simp only [mapAt, List.map_map]
    congr 1
    funext entry
    by_cases same : entry.1 = key <;> simp [same]
  · simp [mapAt]

theorem map_at_assoc_set_of_ne {key k : String} (f : β → β) (xs : List (String × β)) (v : β)
    (differs : k ≠ key) : mapAt key f (assocSet xs k v) = assocSet (mapAt key f xs) k v := by
  unfold assocSet
  rw [any_map_at key f xs (· == k)]
  split
  · simp only [mapAt, List.map_map]
    congr 1
    funext entry
    by_cases same : entry.1 = k
    · simp [same, differs]
    · by_cases atKey : entry.1 = key <;> simp [same, atKey, Ne.symm differs]
  · simp [mapAt, differs]

end MapAt

end Conveyor.Config

namespace Conveyor.Value

open Conveyor.Config

set_option autoImplicit false

def entryAt (v : Value) (key : String) : Option Value :=
  v.entries?.bind fun es => (splitKeys es).1.lookup key

/-- The value at an address: a step to a child goes to the value at its key, a step to an
item to that item of the list or tuple at its key. -/
def valueAt : Value → List Step → Option Value
  | v, [] => some v
  | v, .child key :: rest => (v.entryAt key).bind (·.valueAt rest)
  | v, .item key i :: rest => ((v.entryAt key).bind fun w => w.sequence?.bind (·[i]?)).bind (·.valueAt rest)

def mapPair (key : String) (f : Value → Value) (entry : Value × Value) : Value × Value :=
  if entry.1.str? = some key then (entry.1, f entry.2) else entry

def mapEntry (key : String) (f : Value → Value) : Value → Value
  | .object fields => .object (mapAt key f fields)
  | .keyed pairs => .keyed (pairs.map (mapPair key f))
  | v => v

def mapItem (i : Nat) (f : Value → Value) : Value → Value
  | .list items => .list (items.modify i f)
  | .tuple items => .tuple (items.modify i f)
  | v => v

def addAt : Value → List Step → Value → Value → Value
  | m, [], k, v =>
    match m.entries? with
    | some es => ofEntries (es ++ [(k, v)])
    | none => m
  | m, .child key :: rest, k, v => m.mapEntry key fun w => w.addAt rest k v
  | m, .item key i :: rest, k, v => m.mapEntry key (mapItem i fun w => w.addAt rest k v)

/-! ## Entries -/

@[simp] theorem split_keys_nil : splitKeys [] = ([], []) := rfl

theorem split_keys_cons_str (key : String) (v : Value) (rest : List (Value × Value)) :
    splitKeys ((.str key, v) :: rest) = ((key, v) :: (splitKeys rest).1, (splitKeys rest).2) := rfl

theorem eq_str_of_str? {k : Value} {key : String} (text : k.str? = some key) : k = .str key := by
  cases k with
  | str s => cases text; rfl
  | _ => cases text

theorem split_keys_cons_other {k : Value} (notText : k.str? = none) (v : Value)
    (rest : List (Value × Value)) :
    splitKeys ((k, v) :: rest) = ((splitKeys rest).1, k :: (splitKeys rest).2) := by
  cases k <;> first | rfl | cases notText

theorem split_keys_append (xs ys : List (Value × Value)) :
    splitKeys (xs ++ ys) =
      ((splitKeys xs).1 ++ (splitKeys ys).1, (splitKeys xs).2 ++ (splitKeys ys).2) := by
  induction xs with
  | nil => rfl
  | cons entry rest ih =>
    obtain ⟨k, v⟩ := entry
    cases text : k.str? with
    | none => simp [List.cons_append, split_keys_cons_other text, ih]
    | some key =>
      obtain rfl := eq_str_of_str? text
      simp [List.cons_append, split_keys_cons_str, ih]

/-- The entries of a mapping whose keys are all text split into those entries and nothing
else. -/
theorem split_keys_fields (fields : List (String × Value)) :
    splitKeys (fields.map fun (k, v) => (Value.str k, v)) = (fields, []) := by
  induction fields with
  | nil => rfl
  | cons entry rest ih =>
    obtain ⟨k, v⟩ := entry
    simp [split_keys_cons_str, ih]

theorem text_fields?_some {pairs : List (Value × Value)} {fields : List (String × Value)}
    (h : textFields? pairs = some fields) : (fields.map fun (k, v) => (Value.str k, v)) = pairs := by
  induction pairs generalizing fields with
  | nil =>
    cases h
    rfl
  | cons entry rest ih =>
    obtain ⟨k, v⟩ := entry
    cases k with
    | str key =>
      obtain ⟨restFields, found, rfl⟩ : ∃ restFields, textFields? rest = some restFields ∧
          fields = (key, v) :: restFields := by
        simp only [textFields?, Functor.map] at h
        cases found : textFields? rest with
        | none => simp [found] at h
        | some restFields => simp_all
      simp [ih found]
    | _ => cases h

@[simp] theorem entries?_of_entries (pairs : List (Value × Value)) :
    (ofEntries pairs).entries? = some pairs := by
  unfold ofEntries
  split
  · rename_i fields found
    simp [entries?, text_fields?_some found]
  · rfl

theorem entries?_map_entry {w : Value} {es : List (Value × Value)} (h : w.entries? = some es)
    (key : String) (f : Value → Value) : (w.mapEntry key f).entries? = some (es.map (mapPair key f)) := by
  cases w with
  | object fields =>
    cases h
    simp only [mapEntry, entries?, mapAt, List.map_map, Option.some.injEq]
    congr 1
    funext entry
    by_cases same : entry.1 = key <;> simp [mapPair, same, str?]
  | keyed pairs =>
    cases h
    rfl
  | _ => cases h

theorem split_keys_map_map_pair (key : String) (f : Value → Value) (es : List (Value × Value)) :
    splitKeys (es.map (mapPair key f)) = (mapAt key f (splitKeys es).1, (splitKeys es).2) := by
  induction es with
  | nil => rfl
  | cons entry rest ih =>
    obtain ⟨k, v⟩ := entry
    cases text : k.str? with
    | none =>
      have kept : mapPair key f (k, v) = (k, v) := by simp [mapPair, text]
      rw [List.map_cons, kept, split_keys_cons_other text, split_keys_cons_other text, ih]
    | some name =>
      obtain rfl := eq_str_of_str? text
      by_cases same : name = key
      · subst same
        simp [mapPair, str?, split_keys_cons_str, ih, mapAt]
      · have kept : mapPair key f (.str name, v) = (.str name, v) := by simp [mapPair, str?, same]
        simp [kept, split_keys_cons_str, ih, mapAt, same]

theorem sequence?_map_item {w : Value} {xs : List Value} (h : w.sequence? = some xs) (i : Nat)
    (f : Value → Value) : (w.mapItem i f).sequence? = some (xs.modify i f) := by
  cases w with
  | list items => cases h; rfl
  | tuple items => cases h; rfl
  | _ => cases h

@[simp] theorem entry_at_object (fields : List (String × Value)) (key : String) :
    (Value.object fields).entryAt key = fields.lookup key := by
  simp [entryAt, entries?, split_keys_fields]

theorem split_keys_single_other {k : Value} (notText : k.str? = none) (v : Value) :
    splitKeys [(k, v)] = ([], [k]) :=
  split_keys_cons_other notText v []

theorem entries?_of_value_at_cons {w m : Value} {step : Step} {rest : List Step}
    (found : w.valueAt (step :: rest) = some m) : ∃ es, w.entries? = some es := by
  cases entries : w.entries? with
  | none => cases step <;> simp [valueAt, entryAt, entries] at found
  | some es => exact ⟨es, rfl⟩

theorem value_at_congr {v w : Value} (same : ∀ key, v.entryAt key = w.entryAt key) (step : Step)
    (rest : List Step) : v.valueAt (step :: rest) = w.valueAt (step :: rest) := by
  cases step <;> simp only [valueAt, same]

end Conveyor.Value

namespace Conveyor.Config

set_option autoImplicit false

open Conveyor.Value (splitKeys)

namespace Section

def sectionAt : Section → List Step → Option Section
  | s, [] => some s
  | s, .child key :: rest => (s.children.lookup key).bind (·.sectionAt rest)
  | s, .item key i :: rest => ((s.items.lookup key).bind (·[i]?)).bind (·.sectionAt rest)

/-- The section with an entry added at the end of its own mapping: under its text when the
key is text, among the other keys otherwise. -/
def addEntry (s : Section) (k v : Value) : Section :=
  match k with
  | .str key => mk (s.data ++ [(key, v)]) s.others s.path s.consumed s.children s.items s.effective
  | other => mk s.data (s.others ++ [other.text]) s.path s.consumed s.children s.items s.effective

theorem add_entry_other (s : Section) {k : Value} (notText : k.str? = none) (v : Value) :
    s.addEntry k v = mk s.data (s.others ++ [k.text]) s.path s.consumed s.children s.items s.effective := by
  cases k <;> first | rfl | cases notText

/-- The section with an entry added at the end of the mapping at an address: in the mapping
read at each step on the way, and in the sections on the way opened so far. -/
def addAt : Section → List Step → Value → Value → Section
  | s, [], k, v => s.addEntry k v
  | s, .child key :: rest, k, v =>
    mk (mapAt key (fun w : Value => w.addAt rest k v) s.data) s.others s.path s.consumed
      (mapAt key (fun c : Section => c.addAt rest k v) s.children) s.items s.effective
  | s, .item key i :: rest, k, v =>
    mk (mapAt key (Value.mapItem i fun w : Value => w.addAt rest k v) s.data) s.others s.path
      s.consumed s.children
      (mapAt key (fun list : List Section => list.modify i fun c => c.addAt rest k v) s.items)
      s.effective

/-- The addresses below a section at which its mapping holds a mapping, and the section
itself. -/
def Reaches (s : Section) : List Step → Prop
  | [] => True
  | step :: rest => ∃ m es, (Value.object s.data).valueAt (step :: rest) = some m ∧ m.entries? = some es

theorem of_entries_eq (es : List (Value × Value)) (path : String) :
    ofEntries es path = mk (splitKeys es).1 ((splitKeys es).2.map Value.text) path [] [] [] [] := rfl

@[simp] theorem path_add_at (s : Section) (p : List Step) (k v : Value) :
    (s.addAt p k v).path = s.path := by
  rcases p with _ | ⟨_ | _, _⟩
  · cases k <;> rfl
  · rfl
  · rfl

@[simp] theorem consumed_add_at (s : Section) (p : List Step) (k v : Value) :
    (s.addAt p k v).consumed = s.consumed := by
  rcases p with _ | ⟨_ | _, _⟩
  · cases k <;> rfl
  · rfl
  · rfl

@[simp] theorem effective_add_at (s : Section) (p : List Step) (k v : Value) :
    (s.addAt p k v).effective = s.effective := by
  rcases p with _ | ⟨_ | _, _⟩
  · cases k <;> rfl
  · rfl
  · rfl

@[simp] theorem items_add_at_child (s : Section) (key : String) (rest : List Step) (k v : Value) :
    (s.addAt (.child key :: rest) k v).items = s.items := rfl

@[simp] theorem children_add_at_item (s : Section) (key : String) (i : Nat) (rest : List Step)
    (k v : Value) : (s.addAt (.item key i :: rest) k v).children = s.children := rfl

/-! ## What an added entry leaves alone -/

/-- An address and a key to add that leave the text key `K` of a section alone: the address
passes through another key, or the entry is added right here under another key. -/
def Clear (K : String) : List Step → Value → Prop
  | [], k => k ≠ .str K
  | step :: _, _ => step.key ≠ K

theorem lookup_data_add_at {K : String} {p : List Step} {k : Value} (clear : Clear K p k)
    (s : Section) (v : Value) : (s.addAt p k v).data.lookup K = s.data.lookup K := by
  rcases p with _ | ⟨_ | _, _⟩
  · cases k with
    | str key =>
      have differs : key ≠ K := fun same => clear (same ▸ rfl)
      simp only [addAt, addEntry, data_mk, List.lookup_append]
      cases s.data.lookup K <;> simp [List.lookup, beq_false_of_ne (Ne.symm differs)]
    | _ => rfl
  · simp only [addAt, data_mk]
    exact lookup_map_at_of_ne _ _ (Ne.symm clear)
  · simp only [addAt, data_mk]
    exact lookup_map_at_of_ne _ _ (Ne.symm clear)

theorem lookup_children_add_at {K : String} {p : List Step} {k : Value} (clear : Clear K p k)
    (s : Section) (v : Value) : (s.addAt p k v).children.lookup K = s.children.lookup K := by
  rcases p with _ | ⟨_ | _, _⟩
  · cases k <;> rfl
  · simp only [addAt, children_mk]
    exact lookup_map_at_of_ne _ _ (Ne.symm clear)
  · rfl

theorem lookup_items_add_at {K : String} {p : List Step} {k : Value} (clear : Clear K p k)
    (s : Section) (v : Value) : (s.addAt p k v).items.lookup K = s.items.lookup K := by
  rcases p with _ | ⟨_ | _, _⟩
  · cases k <;> rfl
  · rfl
  · simp only [addAt, items_mk]
    exact lookup_map_at_of_ne _ _ (Ne.symm clear)

theorem consume_add_at (s : Section) (key : String) (p : List Step) (k v : Value) :
    (s.addAt p k v).consume key = (s.consume key).addAt p k v := by
  unfold consume
  rw [consumed_add_at]
  split
  · rfl
  · rcases p with _ | ⟨_ | _, _⟩
    · cases k <;> rfl
    · rfl
    · rfl

theorem record_add_at (s : Section) (key : String) (y : Value) (p : List Step) (k v : Value) :
    (s.addAt p k v).record key y = (s.record key y).addAt p k v := by
  unfold record
  rw [effective_add_at]
  rcases p with _ | ⟨_ | _, _⟩
  · cases k <;> rfl
  · rfl
  · rfl

theorem hang_child_add_at (t : Section) {key : String} (inner : Section) {p : List Step} {k : Value}
    (clear : Clear key p k) (v : Value) :
    (t.withChildren (assocSet t.children key inner)).addAt p k v =
      (t.addAt p k v).withChildren (assocSet (t.addAt p k v).children key inner) := by
  cases p with
  | nil => cases k <;> rfl
  | cons step rest =>
    cases step with
    | child other =>
      have differs : key ≠ other := Ne.symm clear
      simp [addAt, map_at_assoc_set_of_ne _ _ _ differs]
    | item other i => rfl

theorem hang_items_add_at (t : Section) {key : String} (inner : List Section) {p : List Step}
    {k : Value} (clear : Clear key p k) (v : Value) :
    (t.withItems (assocSet t.items key inner)).addAt p k v =
      (t.addAt p k v).withItems (assocSet (t.addAt p k v).items key inner) := by
  cases p with
  | nil => cases k <;> rfl
  | cons step rest =>
    cases step with
    | child other => rfl
    | item other i =>
      have differs : key ≠ other := Ne.symm clear
      simp [addAt, map_at_assoc_set_of_ne _ _ _ differs]

theorem add_at_after (s : Section) (e : Effect) {p : List Step} {k : Value} (clear : Clear e.key p k)
    (v : Value) : (s.after e).addAt p k v = (s.addAt p k v).after e := by
  cases e with
  | value key y => rw [after, after, consume_add_at, record_add_at]
  | child key inner =>
    rw [after, after, consume_add_at, hang_child_add_at _ _ (show Clear key p k from clear)]
  | items key inner =>
    rw [after, after, consume_add_at, hang_items_add_at _ _ (show Clear key p k from clear)]

theorem add_at_after_child (s : Section) (key : String) (inner : Section) (rest : List Step)
    (k v : Value) :
    (s.after (.child key inner)).addAt (.child key :: rest) k v =
      (s.addAt (.child key :: rest) k v).after (.child key (inner.addAt rest k v)) := by
  rw [after, after, consume_add_at]
  simp [addAt, map_at_assoc_set_self]

/-- An entry added below an item of a list of sections hung by an effect is added to that
item. -/
theorem add_at_after_items (s : Section) (key : String) (inner : List Section) (i : Nat)
    (rest : List Step) (k v : Value) :
    (s.after (.items key inner)).addAt (.item key i :: rest) k v =
      (s.addAt (.item key i :: rest) k v).after
        (.items key (inner.modify i fun c => c.addAt rest k v)) := by
  rw [after, after, consume_add_at]
  simp [addAt, map_at_assoc_set_self]

theorem lookup_data_add_at_child (s : Section) (key : String) (rest : List Step) (k v : Value) :
    (s.addAt (.child key :: rest) k v).data.lookup key = (s.data.lookup key).map (·.addAt rest k v) := by
  simp only [addAt, data_mk]
  exact lookup_map_at_self _ _ _

theorem lookup_children_add_at_child (s : Section) (key : String) (rest : List Step) (k v : Value) :
    (s.addAt (.child key :: rest) k v).children.lookup key =
      (s.children.lookup key).map (·.addAt rest k v) := by
  simp only [addAt, children_mk]
  exact lookup_map_at_self _ _ _

theorem lookup_data_add_at_item (s : Section) (key : String) (i : Nat) (rest : List Step)
    (k v : Value) :
    (s.addAt (.item key i :: rest) k v).data.lookup key =
      (s.data.lookup key).map (Value.mapItem i (·.addAt rest k v)) := by
  simp only [addAt, data_mk]
  exact lookup_map_at_self _ _ _

theorem lookup_items_add_at_item (s : Section) (key : String) (i : Nat) (rest : List Step)
    (k v : Value) :
    (s.addAt (.item key i :: rest) k v).items.lookup key =
      (s.items.lookup key).map (·.modify i fun c => c.addAt rest k v) := by
  simp only [addAt, items_mk]
  exact lookup_map_at_self _ _ _

/-! ## Sections at an address -/

theorem section_at_after_of_ne (s : Section) (e : Effect) (step : Step) (rest : List Step)
    (differs : step.key ≠ e.key) : (s.after e).sectionAt (step :: rest) = s.sectionAt (step :: rest) := by
  cases step with
  | child key =>
    cases e with
    | child k inner =>
      have other : key ≠ k := differs
      simp [sectionAt, after, consume_eq, lookup_assoc_set_of_ne _ _ other]
    | _ => simp [sectionAt, after, consume_eq, record_eq]
  | item key i =>
    cases e with
    | items k inner =>
      have other : key ≠ k := differs
      simp [sectionAt, after, consume_eq, lookup_assoc_set_of_ne _ _ other]
    | _ => simp [sectionAt, after, consume_eq, record_eq]

theorem section_at_after_all_of_ne (s : Section) (effects : List Effect) (step : Step) (rest : List Step)
    (differs : ∀ e ∈ effects, step.key ≠ e.key) :
    (s.afterAll effects).sectionAt (step :: rest) = s.sectionAt (step :: rest) := by
  induction effects generalizing s with
  | nil => rfl
  | cons e more ih =>
    rw [after_all_cons, ih _ fun e' mem => differs e' (List.mem_cons_of_mem _ mem),
      section_at_after_of_ne s e step rest (differs e List.mem_cons_self)]

theorem section_at_after_child (s : Section) (key : String) (inner : Section) (rest : List Step) :
    (s.after (.child key inner)).sectionAt (.child key :: rest) = inner.sectionAt rest := by
  simp [sectionAt, after, consume_eq]

theorem section_at_after_items (s : Section) (key : String) (inner : List Section) (i : Nat)
    (rest : List Step) :
    (s.after (.items key inner)).sectionAt (.item key i :: rest) = inner[i]?.bind (·.sectionAt rest) := by
  simp [sectionAt, after, consume_eq]

/-! ## Opening a section over a mapping -/

/-- A section opened over a mapping with an entry added at an address is the section opened
over the mapping, with the entry added. -/
theorem of_entries_add_at {w : Value} {es : List (Value × Value)} (h : w.entries? = some es)
    (p : List Step) (k v : Value) (path : String) :
    ∃ es', (w.addAt p k v).entries? = some es' ∧
      ofEntries es' path = (ofEntries es path).addAt p k v := by
  cases p with
  | nil =>
    refine ⟨es ++ [(k, v)], by simp [Value.addAt, h], ?_⟩
    rw [of_entries_eq, of_entries_eq, Value.split_keys_append]
    cases text : k.str? with
    | none => simp [addAt, add_entry_other _ text, Value.split_keys_single_other text]
    | some key =>
      obtain rfl := Value.eq_str_of_str? text
      simp [addAt, addEntry, Value.split_keys_cons_str]
  | cons step rest =>
    cases step with
    | child key =>
      refine ⟨es.map (Value.mapPair key fun w => w.addAt rest k v), Value.entries?_map_entry h _ _, ?_⟩
      rw [of_entries_eq, of_entries_eq, Value.split_keys_map_map_pair]
      rfl
    | item key i =>
      refine ⟨es.map (Value.mapPair key (Value.mapItem i fun w => w.addAt rest k v)),
        Value.entries?_map_entry h _ _, ?_⟩
      rw [of_entries_eq, of_entries_eq, Value.split_keys_map_map_pair]
      rfl

/-- Past the section itself, a section opened over a mapping sees the same values at an
address as the mapping. -/
theorem value_at_of_entries_data {x : Value} {es : List (Value × Value)} (h : x.entries? = some es)
    (path : String) (step : Step) (rest : List Step) :
    (Value.object (ofEntries es path).data).valueAt (step :: rest) = x.valueAt (step :: rest) := by
  apply Value.value_at_congr
  intro key
  rw [of_entries_eq, data_mk, Value.entry_at_object]
  simp [Value.entryAt, h]

theorem reaches_of_entries {x : Value} {es : List (Value × Value)} (h : x.entries? = some es)
    (path : String) {rest : List Step} {m : Value} {ms : List (Value × Value)}
    (found : x.valueAt rest = some m) (mapping : m.entries? = some ms) :
    (ofEntries es path).Reaches rest := by
  cases rest with
  | nil => trivial
  | cons step more => exact ⟨m, ms, (value_at_of_entries_data h path step more).trans found, mapping⟩

theorem Reaches.child {s : Section} {key : String} {rest : List Step}
    (reaches : s.Reaches (.child key :: rest)) :
    ∃ w es, s.data.lookup key = some w ∧ w.entries? = some es ∧
      ∀ path, (ofEntries es path).Reaches rest := by
  obtain ⟨m, ms, found, mapping⟩ := reaches
  simp only [Value.valueAt, Value.entry_at_object, Option.bind_eq_some_iff] at found
  obtain ⟨w, atKey, below⟩ := found
  obtain ⟨es, entries⟩ : ∃ es, w.entries? = some es := by
    cases rest with
    | nil =>
      cases below
      exact ⟨ms, mapping⟩
    | cons step more => exact Value.entries?_of_value_at_cons below
  exact ⟨w, es, atKey, entries, fun path => reaches_of_entries entries path below mapping⟩

theorem Reaches.item {s : Section} {key : String} {i : Nat} {rest : List Step}
    (reaches : s.Reaches (.item key i :: rest)) :
    ∃ w xs x es, s.data.lookup key = some w ∧ w.sequence? = some xs ∧ xs[i]? = some x ∧
      x.entries? = some es ∧ ∀ path, (ofEntries es path).Reaches rest := by
  obtain ⟨m, ms, found, mapping⟩ := reaches
  simp only [Value.valueAt, Value.entry_at_object, Option.bind_eq_some_iff] at found
  obtain ⟨x, ⟨w, atKey, xs, sequence, item⟩, below⟩ := found
  obtain ⟨es, entries⟩ : ∃ es, x.entries? = some es := by
    cases rest with
    | nil =>
      cases below
      exact ⟨ms, mapping⟩
    | cons step more => exact Value.entries?_of_value_at_cons below
  exact ⟨w, xs, x, es, atKey, sequence, item, entries,
    fun path => reaches_of_entries entries path below mapping⟩

end Section

end Conveyor.Config

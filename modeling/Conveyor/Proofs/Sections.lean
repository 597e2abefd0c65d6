import Mathlib
import Conveyor.Config.Run

/-!
# What reading does to a configuration section

Reading a section changes it in three ways only. A key read as a value is marked read and
the value is recorded; a key opened as a nested section, or as a list of them, is marked
read and the sections hang under it. `Effect` names these three, `Section.after` carries one
out, and a reading from start to end is `Section.afterAll` of its effects. The mapping a
section reads from, its other keys and its path never change.

From that description alone follow the facts the proofs about whole configurations need.
For a section read from scratch under distinct keys, the keys consumed are the keys of the
effects in order, and its effective values are its recorded values, then the effective
values of its nested sections that have any, then its lists (`effective_values_after_all`).
A section whose mapping holds only keys it read and whose nested sections are clean in turn
passes the final check for unread keys (`assert_consumed_after_all`).
-/

namespace Conveyor.Config

open Conveyor.Text

set_option autoImplicit false

/-! ## Association lists -/

section Assoc

variable {β : Type}

theorem lookup_eq_none_of_any {xs : List (String × β)} {key : String}
    (absent : xs.any (fun entry => entry.1 == key) = false) : xs.lookup key = none := by
  induction xs with
  | nil => rfl
  | cons entry rest ih =>
    obtain ⟨k, w⟩ := entry
    rw [List.any_cons, Bool.or_eq_false_iff] at absent
    have differs : key ≠ k := fun same => by simp [same] at absent
    rw [List.lookup_cons, beq_false_of_ne differs]
    exact ih absent.2

theorem any_eq_false_of_lookup {xs : List (String × β)} {key : String}
    (absent : xs.lookup key = none) : xs.any (fun entry => entry.1 == key) = false := by
  induction xs with
  | nil => rfl
  | cons entry rest ih =>
    obtain ⟨k, w⟩ := entry
    have differs : key ≠ k := fun same => by simp [same] at absent
    rw [List.lookup_cons, beq_false_of_ne differs] at absent
    rw [List.any_cons, ih absent, Bool.or_false]
    exact beq_false_of_ne (Ne.symm differs)

theorem assoc_set_of_lookup_none (xs : List (String × β)) (key : String) (v : β)
    (absent : xs.lookup key = none) : assocSet xs key v = xs ++ [(key, v)] := by
  unfold assocSet
  rw [any_eq_false_of_lookup absent, if_neg Bool.false_ne_true]

theorem lookup_map_set_self (xs : List (String × β)) (key : String) (v : β)
    (present : xs.any (fun entry => entry.1 == key) = true) :
    (xs.map fun entry => if entry.1 == key then (key, v) else entry).lookup key = some v := by
  induction xs with
  | nil => simp at present
  | cons entry rest ih =>
    obtain ⟨k, w⟩ := entry
    rw [List.map_cons]
    by_cases same : k = key
    · subst same
      simp only [beq_self_eq_true, if_true, List.lookup_cons]
    · have differs : (k == key) = false := beq_false_of_ne same
      simp only [differs, Bool.false_eq_true, if_false]
      rw [List.lookup_cons, beq_false_of_ne (Ne.symm same)]
      rw [List.any_cons, differs, Bool.false_or] at present
      exact ih present

theorem lookup_map_set_of_ne (xs : List (String × β)) {key k : String} (v : β) (differs : k ≠ key) :
    (xs.map fun entry => if entry.1 == key then (key, v) else entry).lookup k = xs.lookup k := by
  induction xs with
  | nil => rfl
  | cons entry rest ih =>
    obtain ⟨k', w⟩ := entry
    rw [List.map_cons]
    by_cases same : k' = key
    · subst same
      simp only [beq_self_eq_true, if_true]
      rw [List.lookup_cons, List.lookup_cons, beq_false_of_ne differs]
      exact ih
    · simp only [beq_false_of_ne same, Bool.false_eq_true, if_false]
      rw [List.lookup_cons, List.lookup_cons, ih]

@[simp] theorem lookup_assoc_set_self (xs : List (String × β)) (key : String) (v : β) :
    (assocSet xs key v).lookup key = some v := by
  unfold assocSet
  split
  · rename_i present
    exact lookup_map_set_self xs key v present
  · rename_i absent
    rw [List.lookup_append, lookup_eq_none_of_any (Bool.eq_false_iff.mpr absent)]
    simp

theorem lookup_assoc_set_of_ne (xs : List (String × β)) {key k : String} (v : β) (differs : k ≠ key) :
    (assocSet xs key v).lookup k = xs.lookup k := by
  unfold assocSet
  split
  · exact lookup_map_set_of_ne xs v differs
  · rw [List.lookup_append, List.lookup_cons, beq_false_of_ne differs, List.lookup_nil,
      Option.or_none]

end Assoc

namespace Section

/-! ## The parts of a section -/

@[simp] theorem data_mk (d : List (String × Value)) (o : List String) (p : String) (c : List String)
    (ch : List (String × Section)) (it : List (String × List Section)) (e : List (String × Value)) :
    (mk d o p c ch it e).data = d := rfl
@[simp] theorem others_mk (d : List (String × Value)) (o : List String) (p : String) (c : List String)
    (ch : List (String × Section)) (it : List (String × List Section)) (e : List (String × Value)) :
    (mk d o p c ch it e).others = o := rfl
@[simp] theorem path_mk (d : List (String × Value)) (o : List String) (p : String) (c : List String)
    (ch : List (String × Section)) (it : List (String × List Section)) (e : List (String × Value)) :
    (mk d o p c ch it e).path = p := rfl
@[simp] theorem consumed_mk (d : List (String × Value)) (o : List String) (p : String) (c : List String)
    (ch : List (String × Section)) (it : List (String × List Section)) (e : List (String × Value)) :
    (mk d o p c ch it e).consumed = c := rfl
@[simp] theorem children_mk (d : List (String × Value)) (o : List String) (p : String) (c : List String)
    (ch : List (String × Section)) (it : List (String × List Section)) (e : List (String × Value)) :
    (mk d o p c ch it e).children = ch := rfl
@[simp] theorem items_mk (d : List (String × Value)) (o : List String) (p : String) (c : List String)
    (ch : List (String × Section)) (it : List (String × List Section)) (e : List (String × Value)) :
    (mk d o p c ch it e).items = it := rfl
@[simp] theorem effective_mk (d : List (String × Value)) (o : List String) (p : String) (c : List String)
    (ch : List (String × Section)) (it : List (String × List Section)) (e : List (String × Value)) :
    (mk d o p c ch it e).effective = e := rfl

theorem eta (s : Section) :
    s = mk s.data s.others s.path s.consumed s.children s.items s.effective := by
  cases s
  rfl

theorem consume_eq (s : Section) (key : String) :
    s.consume key = mk s.data s.others s.path
      (if key ∈ s.consumed then s.consumed else s.consumed ++ [key]) s.children s.items s.effective := by
  unfold consume
  by_cases read : key ∈ s.consumed
  · rw [if_pos (by simpa using read), if_pos read]
    exact eta s
  · rw [if_neg (by simpa using read), if_neg read]
    rfl

theorem record_eq (s : Section) (key : String) (v : Value) :
    s.record key v = mk s.data s.others s.path s.consumed s.children s.items
      (assocSet s.effective key v) := rfl

@[simp] theorem with_children_eq (s : Section) (ch : List (String × Section)) :
    s.withChildren ch = mk s.data s.others s.path s.consumed ch s.items s.effective := rfl

@[simp] theorem with_items_eq (s : Section) (it : List (String × List Section)) :
    s.withItems it = mk s.data s.others s.path s.consumed s.children it s.effective := rfl

/-- A section nothing has been read from yet. -/
structure Unread (s : Section) : Prop where
  consumed : s.consumed = []
  children : s.children = []
  items : s.items = []
  effective : s.effective = []

theorem unread_of_entries (entries : List (Value × Value)) (path : String) :
    (ofEntries entries path).Unread :=
  ⟨rfl, rfl, rfl, rfl⟩

/-! ## Effects -/

end Section

/-- One change reading makes to a section, at a key. -/
inductive Effect where
  /-- The key read as a value, with the value recorded for it. -/
  | value (key : String) (recorded : Value)
  /-- The key opened as a nested section, as that section stands once read. -/
  | child (key : String) (inner : Section)
  /-- The key opened as a list of nested sections, each as it stands once read. -/
  | items (key : String) (inner : List Section)

namespace Effect

def key : Effect → String
  | value key _ | child key _ | items key _ => key

def recorded? : Effect → Option (String × Value)
  | value key v => some (key, v)
  | _ => none

def child? : Effect → Option (String × Section)
  | child key inner => some (key, inner)
  | _ => none

def items? : Effect → Option (String × List Section)
  | items key inner => some (key, inner)
  | _ => none

theorem key_of_recorded? {e : Effect} {entry : String × Value} (h : e.recorded? = some entry) :
    entry.1 = e.key := by
  cases e with
  | value => cases h; rfl
  | child => cases h
  | items => cases h

theorem key_of_child? {e : Effect} {entry : String × Section} (h : e.child? = some entry) :
    entry.1 = e.key := by
  cases e with
  | value => cases h
  | child => cases h; rfl
  | items => cases h

theorem key_of_items? {e : Effect} {entry : String × List Section} (h : e.items? = some entry) :
    entry.1 = e.key := by
  cases e with
  | value => cases h
  | child => cases h
  | items => cases h; rfl

theorem eq_child_of_child? {e : Effect} {entry : String × Section} (h : e.child? = some entry) :
    e = .child entry.1 entry.2 := by
  cases e with
  | value => cases h
  | child => cases h; rfl
  | items => cases h

theorem eq_items_of_items? {e : Effect} {entry : String × List Section}
    (h : e.items? = some entry) : e = .items entry.1 entry.2 := by
  cases e with
  | value => cases h
  | child => cases h
  | items => cases h; rfl

end Effect

namespace Section

/-- The section after one effect: its key marked read, and its value recorded or its
sections hung under it. -/
def after (s : Section) : Effect → Section
  | .value key v => (s.consume key).record key v
  | .child key inner => (s.consume key).withChildren (assocSet (s.consume key).children key inner)
  | .items key inner => (s.consume key).withItems (assocSet (s.consume key).items key inner)

def afterAll (s : Section) (effects : List Effect) : Section :=
  effects.foldl after s

@[simp] theorem after_all_nil (s : Section) : s.afterAll [] = s := rfl

@[simp] theorem after_all_cons (s : Section) (e : Effect) (effects : List Effect) :
    s.afterAll (e :: effects) = (s.after e).afterAll effects := rfl

theorem after_all_append (s : Section) (first second : List Effect) :
    s.afterAll (first ++ second) = (s.afterAll first).afterAll second := by
  simp [afterAll, List.foldl_append]

@[simp] theorem data_after (s : Section) (e : Effect) : (s.after e).data = s.data := by
  cases e <;> simp [after, consume_eq, record_eq]

@[simp] theorem others_after (s : Section) (e : Effect) : (s.after e).others = s.others := by
  cases e <;> simp [after, consume_eq, record_eq]

@[simp] theorem path_after (s : Section) (e : Effect) : (s.after e).path = s.path := by
  cases e <;> simp [after, consume_eq, record_eq]

@[simp] theorem data_after_all (s : Section) (effects : List Effect) :
    (s.afterAll effects).data = s.data := by
  induction effects generalizing s with
  | nil => rfl
  | cons e rest ih => rw [after_all_cons, ih, data_after]

@[simp] theorem others_after_all (s : Section) (effects : List Effect) :
    (s.afterAll effects).others = s.others := by
  induction effects generalizing s with
  | nil => rfl
  | cons e rest ih => rw [after_all_cons, ih, others_after]

@[simp] theorem path_after_all (s : Section) (effects : List Effect) :
    (s.afterAll effects).path = s.path := by
  induction effects generalizing s with
  | nil => rfl
  | cons e rest ih => rw [after_all_cons, ih, path_after]

/-- Effects at keys not yet touched extend each part of a section by what they add: the keys
read, the values recorded, the sections and the lists hung. -/
theorem after_all_parts (s : Section) (effects : List Effect)
    (distinct : (effects.map Effect.key).Nodup)
    (untouched : ∀ e ∈ effects, e.key ∉ s.consumed ∧ s.effective.lookup e.key = none ∧
      s.children.lookup e.key = none ∧ s.items.lookup e.key = none) :
    (s.afterAll effects).consumed = s.consumed ++ effects.map Effect.key ∧
      (s.afterAll effects).effective = s.effective ++ effects.filterMap Effect.recorded? ∧
      (s.afterAll effects).children = s.children ++ effects.filterMap Effect.child? ∧
      (s.afterAll effects).items = s.items ++ effects.filterMap Effect.items? := by
  induction effects generalizing s with
  | nil => simp
  | cons e rest ih =>
    obtain ⟨fresh, restDistinct⟩ := List.nodup_cons.mp distinct
    obtain ⟨unread, unrecorded, unopened, unlisted⟩ := untouched e List.mem_cons_self
    have stepParts : (s.after e).consumed = s.consumed ++ [e.key] ∧
        (s.after e).effective = s.effective ++ e.recorded?.toList ∧
        (s.after e).children = s.children ++ e.child?.toList ∧
        (s.after e).items = s.items ++ e.items?.toList := by
      clear ih untouched
      cases e with
      | value key v =>
        have unread' : key ∉ s.consumed := unread
        refine ⟨?_, ?_, ?_, ?_⟩ <;>
          simp only [after, consume_eq, record_eq, Effect.key, Effect.recorded?, Effect.child?,
            Effect.items?, consumed_mk, effective_mk, children_mk, items_mk, if_neg unread',
            assoc_set_of_lookup_none s.effective key v unrecorded, Option.toList_some,
            Option.toList_none, List.append_nil]
      | child key inner =>
        have unread' : key ∉ s.consumed := unread
        refine ⟨?_, ?_, ?_, ?_⟩ <;>
          simp only [after, consume_eq, with_children_eq, Effect.key, Effect.recorded?,
            Effect.child?, Effect.items?, consumed_mk, effective_mk, children_mk, items_mk,
            if_neg unread', assoc_set_of_lookup_none s.children key inner unopened,
            Option.toList_some, Option.toList_none, List.append_nil]
      | items key inner =>
        have unread' : key ∉ s.consumed := unread
        refine ⟨?_, ?_, ?_, ?_⟩ <;>
          simp only [after, consume_eq, with_items_eq, Effect.key, Effect.recorded?,
            Effect.child?, Effect.items?, consumed_mk, effective_mk, children_mk, items_mk,
            if_neg unread', assoc_set_of_lookup_none s.items key inner unlisted,
            Option.toList_some, Option.toList_none, List.append_nil]
    have restUntouched : ∀ e' ∈ rest, e'.key ∉ (s.after e).consumed ∧
        (s.after e).effective.lookup e'.key = none ∧ (s.after e).children.lookup e'.key = none ∧
        (s.after e).items.lookup e'.key = none := by
      intro e' mem
      have other : e'.key ≠ e.key := fun same => fresh (same ▸ List.mem_map_of_mem mem)
      obtain ⟨u₁, u₂, u₃, u₄⟩ := untouched e' (List.mem_cons_of_mem _ mem)
      obtain ⟨c, ef, ch, it⟩ := stepParts
      refine ⟨by simp [c, u₁, other], ?_, ?_, ?_⟩
      · rw [ef, List.lookup_append, u₂]
        cases h : e.recorded? with
        | none => rfl
        | some entry =>
          have := Effect.key_of_recorded? h
          simp [this, other]
      · rw [ch, List.lookup_append, u₃]
        cases h : e.child? with
        | none => rfl
        | some entry =>
          have := Effect.key_of_child? h
          simp [this, other]
      · rw [it, List.lookup_append, u₄]
        cases h : e.items? with
        | none => rfl
        | some entry =>
          have := Effect.key_of_items? h
          simp [this, other]
    obtain ⟨c, ef, ch, it⟩ := ih (s.after e) restDistinct restUntouched
    obtain ⟨c₀, ef₀, ch₀, it₀⟩ := stepParts
    refine ⟨?_, ?_, ?_, ?_⟩
    · rw [after_all_cons, c, c₀]
      simp
    · rw [after_all_cons, ef, ef₀, List.filterMap_cons]
      cases e.recorded? <;> simp
    · rw [after_all_cons, ch, ch₀, List.filterMap_cons]
      cases e.child? <;> simp
    · rw [after_all_cons, it, it₀, List.filterMap_cons]
      cases e.items? <;> simp

/-! ## Effective values -/

theorem effective_values_eq (s : Section) :
    effectiveValues s = itemsEffective (childrenEffective s.effective s.children) s.items := by
  cases s
  rfl

theorem list_effective_eq (list : List Section) :
    listEffective list = list.map fun c => .object (effectiveValues c) := by
  induction list with
  | nil => rfl
  | cons c rest ih => rw [listEffective, ih, List.map_cons]

/-- The entry a nested section leaves among its parent's effective values: none when it
has no effective values of its own. -/
def childEntry (entry : String × Section) : Option (String × Value) :=
  if (effectiveValues entry.2).isEmpty then none else some (entry.1, .object (effectiveValues entry.2))

def itemsEntry (entry : String × List Section) : String × Value :=
  (entry.1, .list (entry.2.map fun c => .object (effectiveValues c)))

theorem children_effective_of_fresh (out : List (String × Value)) (children : List (String × Section))
    (distinct : (children.map (·.1)).Nodup) (fresh : ∀ entry ∈ children, out.lookup entry.1 = none) :
    childrenEffective out children = out ++ children.filterMap childEntry := by
  induction children generalizing out with
  | nil => simp [childrenEffective]
  | cons entry rest ih =>
    obtain ⟨k, c⟩ := entry
    obtain ⟨notLater, restDistinct⟩ := List.nodup_cons.mp distinct
    have absent : out.lookup k = none := fresh (k, c) List.mem_cons_self
    rw [childrenEffective, List.filterMap_cons]
    unfold childEntry
    by_cases empty : (effectiveValues c).isEmpty
    · simp only [empty, if_true]
      exact ih out restDistinct fun e mem => fresh e (List.mem_cons_of_mem _ mem)
    · simp only [empty, Bool.false_eq_true, if_false]
      rw [assoc_set_of_lookup_none out k _ absent, ih _ restDistinct, List.append_assoc,
        List.singleton_append]
      · rfl
      · intro e mem
        have other : e.1 ≠ k := fun same =>
          notLater (same ▸ List.mem_map_of_mem (f := fun x => x.1) mem)
        rw [List.lookup_append, fresh e (List.mem_cons_of_mem _ mem), Option.none_or,
          List.lookup_cons, beq_false_of_ne other, List.lookup_nil]

theorem items_effective_of_fresh (out : List (String × Value)) (items : List (String × List Section))
    (distinct : (items.map (·.1)).Nodup) (fresh : ∀ entry ∈ items, out.lookup entry.1 = none) :
    itemsEffective out items = out ++ items.map itemsEntry := by
  induction items generalizing out with
  | nil => simp [itemsEffective]
  | cons entry rest ih =>
    obtain ⟨k, list⟩ := entry
    obtain ⟨notLater, restDistinct⟩ := List.nodup_cons.mp distinct
    have absent : out.lookup k = none := fresh (k, list) List.mem_cons_self
    rw [itemsEffective, assoc_set_of_lookup_none out k _ absent, ih _ restDistinct,
      list_effective_eq, List.map_cons, List.append_assoc, List.singleton_append]
    · rfl
    · intro e mem
      have other : e.1 ≠ k := fun same =>
        notLater (same ▸ List.mem_map_of_mem (f := fun x => x.1) mem)
      rw [List.lookup_append, fresh e (List.mem_cons_of_mem _ mem), Option.none_or,
        List.lookup_cons, beq_false_of_ne other, List.lookup_nil]

theorem lookup_filter_map_of_absent {β : Type} (f : Effect → Option (String × β))
    (keyed : ∀ e entry, f e = some entry → entry.1 = e.key) {effects : List Effect} {k : String}
    (absent : ∀ e ∈ effects, e.key ≠ k) : (effects.filterMap f).lookup k = none := by
  induction effects with
  | nil => rfl
  | cons e rest ih =>
    rw [List.filterMap_cons]
    have later := ih fun e' mem => absent e' (List.mem_cons_of_mem _ mem)
    cases found : f e with
    | none => exact later
    | some entry =>
      have differs : k ≠ entry.1 := by
        rw [keyed e entry found]
        exact Ne.symm (absent e List.mem_cons_self)
      obtain ⟨k', v⟩ := entry
      rw [List.lookup_cons, beq_false_of_ne differs]
      exact later

theorem lookup_filter_map_key {β : Type} (f : Effect → Option (String × β))
    (keyed : ∀ e entry, f e = some entry → entry.1 = e.key) {effects : List Effect}
    (distinct : (effects.map Effect.key).Nodup) {e : Effect} (mem : e ∈ effects) :
    (effects.filterMap f).lookup e.key = (f e).map (·.2) := by
  induction effects with
  | nil => cases mem
  | cons e₀ rest ih =>
    obtain ⟨notLater, restDistinct⟩ := List.nodup_cons.mp distinct
    rw [List.filterMap_cons]
    rcases List.mem_cons.mp mem with rfl | later
    · -- the effect itself comes first, and no later one shares its key
      have absent : ∀ e' ∈ rest, e'.key ≠ e.key := fun e' mem' same =>
        notLater (same ▸ List.mem_map_of_mem mem')
      cases found : f e with
      | none => exact lookup_filter_map_of_absent f keyed absent
      | some entry =>
        obtain ⟨k, v⟩ := entry
        have atKey : k = e.key := keyed e (k, v) found
        rw [List.lookup_cons, atKey, beq_self_eq_true]
        rfl
    · have differs : e.key ≠ e₀.key := fun same =>
        notLater (same ▸ List.mem_map_of_mem later)
      cases found : f e₀ with
      | none => exact ih restDistinct later
      | some entry =>
        obtain ⟨k, v⟩ := entry
        have atKey : k = e₀.key := keyed e₀ (k, v) found
        rw [List.lookup_cons, atKey, beq_false_of_ne differs]
        exact ih restDistinct later

theorem keys_filter_map_sublist {β : Type} (f : Effect → Option (String × β))
    (keyed : ∀ e entry, f e = some entry → entry.1 = e.key) (effects : List Effect) :
    ((effects.filterMap f).map (·.1)).Sublist (effects.map Effect.key) := by
  induction effects with
  | nil => exact List.Sublist.slnil
  | cons e rest ih =>
    rw [List.filterMap_cons, List.map_cons]
    cases found : f e with
    | none => exact ih.cons _
    | some entry =>
      rw [List.map_cons, keyed e entry found]
      exact ih.cons_cons _

end Section

/-- The value an effect leaves among the effective values of its section: the value
recorded, the nested section's effective values, or the list of them. -/
def Effect.form : Effect → Value
  | .value _ v => v
  | .child _ inner => .object (Section.effectiveValues inner)
  | .items _ inner => .list (inner.map fun c => .object (Section.effectiveValues c))

/-- An effect that leaves its entry among the effective values: a nested section does only
when it has effective values of its own. -/
def Effect.Leaves : Effect → Prop
  | .child _ inner => Section.effectiveValues inner ≠ []
  | _ => True

namespace Section

theorem child_entry_keyed (e : Effect) (entry : String × Value)
    (found : (e.child?.bind childEntry) = some entry) : entry.1 = e.key := by
  obtain ⟨inner, innerFound, entryFound⟩ := Option.bind_eq_some_iff.mp found
  rw [← Effect.key_of_child? innerFound]
  unfold childEntry at entryFound
  split at entryFound
  · cases entryFound
  · cases entryFound
    rfl

theorem items_entry_keyed (e : Effect) (entry : String × Value)
    (found : (e.items?.map itemsEntry) = some entry) : entry.1 = e.key := by
  obtain ⟨inner, innerFound, rfl⟩ := Option.map_eq_some_iff.mp found
  exact Effect.key_of_items? innerFound

/-- The effective values of a section read from scratch: the values recorded, then the
nested sections that have effective values, then the lists, each in the order read. -/
theorem effective_values_after_all (s : Section) (effects : List Effect) (unread : s.Unread)
    (distinct : (effects.map Effect.key).Nodup) :
    effectiveValues (s.afterAll effects) =
      effects.filterMap Effect.recorded? ++ (effects.filterMap Effect.child?).filterMap childEntry ++
        (effects.filterMap Effect.items?).map itemsEntry := by
  obtain ⟨consumed, effective, children, items⟩ := after_all_parts s effects distinct
    (fun e _ => by simp [unread.consumed, unread.effective, unread.children, unread.items])
  rw [effective_values_eq, effective, children, items, unread.effective, unread.children,
    unread.items, List.nil_append, List.nil_append, List.nil_append]
  rw [children_effective_of_fresh, items_effective_of_fresh]
  · exact (keys_filter_map_sublist _ (fun _ _ => Effect.key_of_items?) effects).nodup distinct
  · intro entry mem
    obtain ⟨e, memE, found⟩ := List.mem_filterMap.mp mem
    rw [List.lookup_append]
    have notValue : e.recorded? = none := by rw [Effect.eq_items_of_items? found]; rfl
    have notChild : (e.child?.bind childEntry) = none := by
      rw [Effect.eq_items_of_items? found]; rfl
    rw [Effect.key_of_items? found, lookup_filter_map_key _ (fun _ _ => Effect.key_of_recorded?)
      distinct memE, notValue, List.filterMap_filterMap,
      lookup_filter_map_key _ child_entry_keyed distinct memE, notChild]
    rfl
  · exact (keys_filter_map_sublist _ (fun _ _ => Effect.key_of_child?) effects).nodup distinct
  · intro entry mem
    obtain ⟨e, memE, found⟩ := List.mem_filterMap.mp mem
    have notValue : e.recorded? = none := by rw [Effect.eq_child_of_child? found]; rfl
    rw [Effect.key_of_child? found, lookup_filter_map_key _ (fun _ _ => Effect.key_of_recorded?)
      distinct memE, notValue]
    rfl

/-- Every effect of a reading from scratch can be read back from the section's effective
values, at its own key, as the value it leaves there. -/
theorem lookup_effective_values_after_all (s : Section) (effects : List Effect) (unread : s.Unread)
    (distinct : (effects.map Effect.key).Nodup) {e : Effect} (mem : e ∈ effects) (leaves : e.Leaves) :
    (effectiveValues (s.afterAll effects)).lookup e.key = some e.form := by
  rw [effective_values_after_all s effects unread distinct, List.filterMap_filterMap,
    List.map_filterMap, List.lookup_append, List.lookup_append,
    lookup_filter_map_key _ (fun _ _ => Effect.key_of_recorded?) distinct mem,
    lookup_filter_map_key _ child_entry_keyed distinct mem,
    lookup_filter_map_key _ items_entry_keyed distinct mem]
  cases e with
  | value key v => rfl
  | child key inner =>
    have nonempty : (effectiveValues inner).isEmpty = false := by
      simpa [Effect.Leaves] using leaves
    simp [Effect.recorded?, Effect.child?, Effect.items?, childEntry, nonempty, Effect.form]
  | items key inner => rfl

/-! ## The check for unread keys -/

theorem assert_children_ok (children : List (String × Section))
    (clean : ∀ entry ∈ children, entry.2.assertConsumed = .ok ()) : assertChildren children = .ok () := by
  induction children with
  | nil => rfl
  | cons entry rest ih =>
    obtain ⟨k, c⟩ := entry
    rw [assertChildren, clean (k, c) List.mem_cons_self]
    exact ih fun e mem => clean e (List.mem_cons_of_mem _ mem)

theorem assert_items_ok (items : List (String × List Section))
    (clean : ∀ entry ∈ items, assertList entry.2 = .ok ()) : assertItems items = .ok () := by
  induction items with
  | nil => rfl
  | cons entry rest ih =>
    obtain ⟨k, list⟩ := entry
    rw [assertItems, clean (k, list) List.mem_cons_self]
    exact ih fun e mem => clean e (List.mem_cons_of_mem _ mem)

end Section

def Effect.Clean : Effect → Prop
  | .value _ _ => True
  | .child _ inner => inner.assertConsumed = .ok ()
  | .items _ inner => Section.assertList inner = .ok ()

namespace Section

/-- A section read from scratch, whose mapping holds only keys it read and whose nested
sections pass the check in turn, passes the check for unread keys. -/
theorem assert_consumed_after_all (s : Section) (effects : List Effect) (unread : s.Unread)
    (noOthers : s.others = []) (covered : ∀ entry ∈ s.data, entry.1 ∈ effects.map Effect.key)
    (distinct : (effects.map Effect.key).Nodup) (clean : ∀ e ∈ effects, e.Clean) :
    (s.afterAll effects).assertConsumed = .ok () := by
  obtain ⟨consumed, -, children, items⟩ := after_all_parts s effects distinct
    (fun e _ => by simp [unread.consumed, unread.effective, unread.children, unread.items])
  have known : (s.afterAll effects).unconsumedKeys = [] := by
    unfold unconsumedKeys
    rw [consumed, others_after_all, noOthers, data_after_all, unread.consumed, List.nil_append,
      List.append_nil, List.filter_eq_nil_iff.mpr, sortTexts, List.mergeSort_nil]
    intro k mem
    obtain ⟨entry, memData, rfl⟩ := List.mem_map.mp mem
    simpa using covered entry memData
  rw [eta (s.afterAll effects), assertConsumed]
  simp only [← eta (s.afterAll effects), known, List.isEmpty_nil, Bool.not_true,
    Bool.false_eq_true, if_false]
  rw [children, items, unread.children, unread.items, List.nil_append, List.nil_append]
  rw [assert_children_ok, assert_items_ok]
  · rfl
  · intro entry mem
    obtain ⟨e, memE, found⟩ := List.mem_filterMap.mp mem
    have cleanE := clean e memE
    cases e with
    | value => cases found
    | child => cases found
    | items key inner =>
      cases found
      exact cleanE
  · intro entry mem
    obtain ⟨e, memE, found⟩ := List.mem_filterMap.mp mem
    have cleanE := clean e memE
    cases e with
    | value => cases found
    | child key inner =>
      cases found
      exact cleanE
    | items => cases found

end Section

/-! ## Reading again -/

/-- How an effect of a second reading answers one of a first: the same value at the same
key, or nested sections at the same key with the same effective values that pass the check
for unread keys. -/
inductive Effect.Echo : Effect → Effect → Prop
  | value (key : String) (v : Value) : Echo (.value key v) (.value key v)
  | child (key : String) {inner inner' : Section}
      (same : Section.effectiveValues inner' = Section.effectiveValues inner)
      (clean : inner'.assertConsumed = .ok ()) : Echo (.child key inner) (.child key inner')
  | items (key : String) {inner inner' : List Section}
      (same : inner'.map Section.effectiveValues = inner.map Section.effectiveValues)
      (clean : Section.assertList inner' = .ok ()) : Echo (.items key inner) (.items key inner')

namespace Effect.Echo

variable {e e' : Effect}

theorem key_eq (echo : Echo e e') : e'.key = e.key := by
  cases echo <;> rfl

theorem clean (echo : Echo e e') : e'.Clean := by
  cases echo with
  | value => trivial
  | child _ _ clean => exact clean
  | items _ _ clean => exact clean

theorem leaves (echo : Echo e e') (leaves : e.Leaves) : e'.Leaves := by
  cases echo with
  | value => trivial
  | child _ same => simpa only [Effect.Leaves, same] using leaves
  | items => trivial

theorem recorded_eq (echo : Echo e e') : e'.recorded? = e.recorded? := by
  cases echo <;> rfl

theorem child_entry_eq (echo : Echo e e') :
    e'.child?.bind Section.childEntry = e.child?.bind Section.childEntry := by
  cases echo with
  | value => rfl
  | child _ same => simp only [Effect.child?, Option.bind_some, Section.childEntry, same]
  | items => rfl

theorem items_entry_eq (echo : Echo e e') :
    e'.items?.map Section.itemsEntry = e.items?.map Section.itemsEntry := by
  cases echo with
  | value => rfl
  | child => rfl
  | items _ same =>
    simp only [Effect.items?, Option.map_some, Section.itemsEntry, Option.some.injEq,
      Prod.mk.injEq, true_and]
    congr 1
    have objects := congrArg (List.map Value.object) same
    rw [List.map_map, List.map_map] at objects
    exact objects

end Effect.Echo

theorem filter_map_echo {β : Type} (f : Effect → Option β) (respects : ∀ e e', Effect.Echo e e' → f e' = f e)
    {effects effects' : List Effect} (echo : List.Forall₂ Effect.Echo effects effects') :
    effects'.filterMap f = effects.filterMap f := by
  induction echo with
  | nil => rfl
  | cons head _ ih => rw [List.filterMap_cons, List.filterMap_cons, respects _ _ head, ih]

theorem keys_echo {effects effects' : List Effect} (echo : List.Forall₂ Effect.Echo effects effects') :
    effects'.map Effect.key = effects.map Effect.key := by
  induction echo with
  | nil => rfl
  | cons head _ ih => rw [List.map_cons, List.map_cons, head.key_eq, ih]

namespace Section

/-- A second reading from scratch whose effects echo the first leaves the same effective
values. -/
theorem effective_values_after_all_echo {s s' : Section} (unread : s.Unread) (unread' : s'.Unread)
    {effects effects' : List Effect} (distinct : (effects.map Effect.key).Nodup)
    (echo : List.Forall₂ Effect.Echo effects effects') :
    effectiveValues (s'.afterAll effects') = effectiveValues (s.afterAll effects) := by
  rw [effective_values_after_all s effects unread distinct,
    effective_values_after_all s' effects' unread' (keys_echo echo ▸ distinct),
    List.filterMap_filterMap, List.filterMap_filterMap, List.map_filterMap, List.map_filterMap,
    filter_map_echo _ (fun _ _ h => h.recorded_eq) echo,
    filter_map_echo _ (fun _ _ h => h.child_entry_eq) echo,
    filter_map_echo _ (fun _ _ h => h.items_entry_eq) echo]

end Section

end Conveyor.Config

import Mathlib
import Conveyor.Proofs.Addresses

/-!
# The check for unread keys, along an address

`assertConsumed` walks a tree of sections depth first and refuses the first section with a
key left unread. A tree that passes the check passes it at every section it holds; and in a
tree that passes it, an entry added at one address under a key that section never read is
refused there, with that section's path and the keys it read.
-/

namespace Conveyor.Config

set_option autoImplicit false

open Conveyor.Text

theorem mem_of_lookup {β : Type} {xs : List (String × β)} {key : String} {b : β}
    (found : xs.lookup key = some b) : (key, b) ∈ xs := by
  obtain ⟨l₁, l₂, rfl, -⟩ := List.lookup_eq_some_iff.mp found
  simp

namespace Section

/-! ## Unfolding the check -/

theorem assert_consumed_of_known {s : Section} (known : s.unconsumedKeys = []) :
    s.assertConsumed = (assertChildren s.children).bind fun _ => assertItems s.items := by
  rw [eta s, assertConsumed]
  simp only [← eta s, known, List.isEmpty_nil, Bool.not_true, Bool.false_eq_true, if_false]
  rfl

theorem assert_consumed_of_unknown {s : Section} (unknown : s.unconsumedKeys ≠ []) :
    s.assertConsumed = .error (.unknownKeys s.path s.unconsumedKeys s.consumedKeys) := by
  have refused : (!s.unconsumedKeys.isEmpty) = true := by simpa using unknown
  rw [eta s, assertConsumed]
  simp only [← eta s, refused, if_true]
  rfl

theorem assert_children_eq_ok {children : List (String × Section)} :
    assertChildren children = .ok () ↔ ∀ entry ∈ children, entry.2.assertConsumed = .ok () := by
  induction children with
  | nil => simp [assertChildren]
  | cons entry rest ih =>
    obtain ⟨k, c⟩ := entry
    rw [assertChildren, List.forall_mem_cons, ← ih]
    cases c.assertConsumed <;> simp [bind, Except.bind]

theorem assert_list_eq_ok {list : List Section} :
    assertList list = .ok () ↔ ∀ c ∈ list, c.assertConsumed = .ok () := by
  induction list with
  | nil => simp [assertList]
  | cons c rest ih =>
    rw [assertList, List.forall_mem_cons, ← ih]
    cases c.assertConsumed <;> simp [bind, Except.bind]

theorem assert_items_eq_ok {items : List (String × List Section)} :
    assertItems items = .ok () ↔ ∀ entry ∈ items, assertList entry.2 = .ok () := by
  induction items with
  | nil => simp [assertItems]
  | cons entry rest ih =>
    obtain ⟨k, list⟩ := entry
    rw [assertItems, List.forall_mem_cons, ← ih]
    cases assertList list <;> simp [bind, Except.bind]

/-- A section passes the check when it has read every key of its own and every section
hung in it passes in turn. -/
theorem assert_consumed_eq_ok {s : Section} :
    s.assertConsumed = .ok () ↔
      s.unconsumedKeys = [] ∧ (∀ entry ∈ s.children, entry.2.assertConsumed = .ok ()) ∧
        ∀ entry ∈ s.items, ∀ c ∈ entry.2, c.assertConsumed = .ok () := by
  by_cases known : s.unconsumedKeys = []
  · rw [assert_consumed_of_known known, ← assert_children_eq_ok]
    simp only [← assert_list_eq_ok, ← assert_items_eq_ok, known, true_and]
    cases assertChildren s.children <;> simp [Except.bind]
  · simp [assert_consumed_of_unknown known, known]

/-- A section has read every key of its own when every text key of its mapping is among the
keys read and its mapping has no other key. -/
theorem unconsumed_keys_eq_nil {s : Section} :
    s.unconsumedKeys = [] ↔ (∀ entry ∈ s.data, entry.1 ∈ s.consumed) ∧ s.others = [] := by
  rw [unconsumedKeys, sortTexts, ← List.length_eq_zero_iff, List.length_mergeSort,
    List.length_eq_zero_iff, List.append_eq_nil_iff, List.filter_eq_nil_iff]
  simp

/-! ## Sections inside a tree that passes -/

theorem assert_consumed_section_at {s n : Section} {p : List Step} (clean : s.assertConsumed = .ok ())
    (found : s.sectionAt p = some n) : n.assertConsumed = .ok () := by
  induction p generalizing s with
  | nil =>
    cases found
    exact clean
  | cons step rest ih =>
    obtain ⟨-, cleanChildren, cleanItems⟩ := assert_consumed_eq_ok.mp clean
    cases step with
    | child key =>
      simp only [sectionAt, Option.bind_eq_some_iff] at found
      obtain ⟨c, atKey, below⟩ := found
      exact ih (cleanChildren _ (mem_of_lookup atKey)) below
    | item key i =>
      simp only [sectionAt, Option.bind_eq_some_iff] at found
      obtain ⟨c, ⟨list, atKey, atI⟩, below⟩ := found
      exact ih (cleanItems _ (mem_of_lookup atKey) c (List.mem_of_getElem? atI)) below

/-! ## An entry added to a tree that passes -/

theorem assert_children_map_at {children : List (String × Section)} {key : String}
    {f : Section → Section} {c : Section} {e : ConfigError}
    (clean : ∀ entry ∈ children, entry.2.assertConsumed = .ok ())
    (found : children.lookup key = some c) (refused : (f c).assertConsumed = .error e) :
    assertChildren (mapAt key f children) = .error e := by
  induction children with
  | nil => cases found
  | cons entry rest ih =>
    obtain ⟨k, c'⟩ := entry
    simp only [mapAt, List.map_cons] at ih ⊢
    by_cases same : k = key
    · -- the first section at the key is the one changed, and it is refused
      subst same
      simp only [List.lookup_cons_self, Option.some.injEq] at found
      subst found
      simp [assertChildren, refused, bind, Except.bind]
    · have differs : (key == k) = false := beq_false_of_ne (Ne.symm same)
      simp only [List.lookup, differs] at found
      have cleanHead : c'.assertConsumed = .ok () := clean (k, c') List.mem_cons_self
      simp only [same, if_false, assertChildren, cleanHead]
      exact ih (fun entry mem => clean entry (List.mem_cons_of_mem _ mem)) found

theorem assert_list_modify {list : List Section} {i : Nat} {f : Section → Section} {c : Section}
    {e : ConfigError} (clean : ∀ c ∈ list, c.assertConsumed = .ok ()) (found : list[i]? = some c)
    (refused : (f c).assertConsumed = .error e) : assertList (list.modify i f) = .error e := by
  induction list generalizing i with
  | nil => cases found
  | cons head rest ih =>
    cases i with
    | zero =>
      cases found
      simp [List.modify_zero_cons, assertList, refused, bind, Except.bind]
    | succ j =>
      rw [List.modify_succ_cons, assertList, clean head List.mem_cons_self]
      exact ih (fun c mem => clean c (List.mem_cons_of_mem _ mem)) found

theorem assert_items_map_at {items : List (String × List Section)} {key : String}
    {f : List Section → List Section} {list : List Section} {e : ConfigError}
    (clean : ∀ entry ∈ items, assertList entry.2 = .ok ())
    (found : items.lookup key = some list) (refused : assertList (f list) = .error e) :
    assertItems (mapAt key f items) = .error e := by
  induction items with
  | nil => cases found
  | cons entry rest ih =>
    obtain ⟨k, list'⟩ := entry
    simp only [mapAt, List.map_cons] at ih ⊢
    by_cases same : k = key
    · subst same
      simp only [List.lookup_cons_self, Option.some.injEq] at found
      subst found
      simp [assertItems, refused, bind, Except.bind]
    · have differs : (key == k) = false := beq_false_of_ne (Ne.symm same)
      simp only [List.lookup, differs] at found
      have cleanHead : assertList list' = .ok () := clean (k, list') List.mem_cons_self
      simp only [same, if_false, assertItems, cleanHead]
      exact ih (fun entry mem => clean entry (List.mem_cons_of_mem _ mem)) found

theorem unconsumed_keys_add_at_cons (s : Section) (step : Step) (rest : List Step) (k v : Value) :
    (s.addAt (step :: rest) k v).unconsumedKeys = s.unconsumedKeys := by
  cases step <;> simp [unconsumedKeys, addAt, map_fst_map_at]

/-- In a tree that passes the check, an entry added at an address is refused where the
section at that address refuses it. -/
theorem assert_consumed_add_at {s n : Section} {p : List Step} {k v : Value} {e : ConfigError}
    (clean : s.assertConsumed = .ok ()) (found : s.sectionAt p = some n)
    (refused : (n.addEntry k v).assertConsumed = .error e) :
    (s.addAt p k v).assertConsumed = .error e := by
  induction p generalizing s with
  | nil =>
    cases found
    exact refused
  | cons step rest ih =>
    obtain ⟨known, cleanChildren, cleanItems⟩ := assert_consumed_eq_ok.mp clean
    rw [assert_consumed_of_known (by rw [unconsumed_keys_add_at_cons, known])]
    cases step with
    | child key =>
      simp only [sectionAt, Option.bind_eq_some_iff] at found
      obtain ⟨c, atKey, below⟩ := found
      simp only [addAt, children_mk]
      rw [assert_children_map_at cleanChildren atKey (ih (cleanChildren _ (mem_of_lookup atKey)) below)]
      rfl
    | item key i =>
      simp only [sectionAt, Option.bind_eq_some_iff] at found
      obtain ⟨c, ⟨list, atKey, atI⟩, below⟩ := found
      have cleanList : ∀ c ∈ list, c.assertConsumed = .ok () := cleanItems _ (mem_of_lookup atKey)
      simp only [addAt, children_mk, items_mk]
      rw [assert_children_eq_ok.mpr cleanChildren]
      exact assert_items_map_at (fun entry mem => assert_list_eq_ok.mpr (cleanItems entry mem)) atKey
        (assert_list_modify cleanList atI (ih (cleanList c (List.mem_of_getElem? atI)) below))

/-- A section that passes the check refuses an entry added under a key it never read, with its
path and the keys it read. -/
theorem assert_consumed_add_entry {n : Section} {k v : Value} (clean : n.assertConsumed = .ok ())
    (unread : ∀ key ∈ n.consumed, k ≠ .str key) :
    (n.addEntry k v).assertConsumed = .error (.unknownKeys n.path [k.text] n.consumedKeys) := by
  obtain ⟨known, -, -⟩ := assert_consumed_eq_ok.mp clean
  obtain ⟨covered, noOthers⟩ := unconsumed_keys_eq_nil.mp known
  have unreadKeys : (n.data.map fun entry => entry.1).filter (fun key => !decide (key ∈ n.consumed)) = [] := by
    rw [List.filter_eq_nil_iff]
    intro key mem
    obtain ⟨entry, memData, rfl⟩ := List.mem_map.mp mem
    simpa using covered entry memData
  have added : (n.addEntry k v).unconsumedKeys = [k.text] := by
    cases k with
    | str key =>
      have fresh : key ∉ n.consumed := fun mem => unread key mem rfl
      simp [addEntry, unconsumedKeys, unreadKeys, noOthers, fresh, sortTexts, Value.text]
    | _ => simp [addEntry, unconsumedKeys, unreadKeys, noOthers, sortTexts]
  rw [assert_consumed_of_unknown (by simp [added]), added]
  cases k <;> rfl

end Section

end Conveyor.Config

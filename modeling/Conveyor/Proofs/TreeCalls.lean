import Conveyor.Proofs.Calls

/-!
# Calls across a tree of sections

A call made at an address changes the section there and nothing that is read elsewhere in
the tree (`read_keys_section_at_modify_at`). Made one after another on a tree read from
scratch, the calls leave each section with exactly the keys some call on it consumed
(`Section.consumed_after_calls`), and its nested sections in the order they were opened
(`Section.keys_after_calls_prefix`).
-/

namespace Conveyor.Config

set_option autoImplicit false

open Conveyor.Text

namespace Section

/-- The tree with the section at an address replaced by `g` of it; the tree as it was where
no section hangs at the address. -/
def modifyAt (g : Section → Section) : List Step → Section → Section
  | [], s => g s
  | .child key :: rest, s =>
    match s.children.lookup key with
    | none => s
    | some c => s.withChildren (assocSet s.children key (modifyAt g rest c))
  | .item key i :: rest, s =>
    match s.items.lookup key with
    | none => s
    | some list =>
      match list[i]? with
      | none => s
      | some c => s.withItems (assocSet s.items key (list.set i (modifyAt g rest c)))

theorem focus_eq_modify_at {α : Type} (r : Except ConfigError α) (g : Section → Section)
    (address : List Step) (s : Section) :
    s.focus address (fun n => (r, g n)) = (s.sectionAt address).map fun _ => (r, s.modifyAt g address) := by
  induction address generalizing s with
  | nil => rfl
  | cons step rest ih =>
    cases step with
    | child key =>
      simp only [focus, sectionAt, modifyAt]
      cases s.children.lookup key with
      | none => rfl
      | some c => simp [ih, Option.map_map, Function.comp_def]
    | item key i =>
      simp only [focus, sectionAt, modifyAt]
      cases atKey : s.items.lookup key with
      | none => rfl
      | some list =>
        cases atIndex : list[i]? with
        | none => simp [atIndex]
        | some c => simp [atIndex, ih, Option.map_map, Function.comp_def]

theorem section_at_append (s : Section) (address rest : List Step) :
    s.sectionAt (address ++ rest) = (s.sectionAt address).bind (·.sectionAt rest) := by
  induction address generalizing s with
  | nil => rfl
  | cons step more ih =>
    cases step with
    | child key => simp [sectionAt, ih, Option.bind_assoc]
    | item key i => simp [sectionAt, ih, Option.bind_assoc]

theorem map_fst_assoc_set {β : Type} {xs : List (String × β)} {key : String} {old : β}
    (present : xs.lookup key = some old) (v : β) : (assocSet xs key v).map (·.1) = xs.map (·.1) := by
  have there : xs.any (fun entry => entry.1 == key) = true := by
    cases any : xs.any (fun entry => entry.1 == key) with
    | true => rfl
    | false => simp [lookup_eq_none_of_any any] at present
  unfold assocSet
  rw [if_pos there, List.map_map]
  congr 1
  funext entry
  by_cases same : entry.1 = key <;> simp [same]

/-- What a section has read, by key: the keys consumed, and the keys of its nested sections
and of its lists of them, in order. -/
def readKeys (s : Section) : List String × List String × List String :=
  (s.consumed, s.children.map (·.1), s.items.map (·.1))

theorem consumed_eq_of_read_keys {s t : Section} (same : t.readKeys = s.readKeys) :
    t.consumed = s.consumed :=
  congrArg (·.1) same

theorem children_read_of_read_keys {s t : Section} (same : t.readKeys = s.readKeys)
    (read : s.ChildrenRead) : t.ChildrenRead := by
  simp only [readKeys, Prod.mk.injEq] at same
  obtain ⟨sameConsumed, sameChildren, -⟩ := same
  intro entry mem
  have keyed : entry.1 ∈ s.children.map (·.1) := by
    rw [← sameChildren]
    exact List.mem_map_of_mem mem
  obtain ⟨entry', mem', sameKey⟩ := List.mem_map.mp keyed
  rw [sameConsumed, ← sameKey]
  exact read entry' mem'

section ModifyAt

variable (g : Section → Section)

theorem section_at_modify_at_append {s n : Section} {address : List Step}
    (found : s.sectionAt address = some n) (rest : List Step) :
    (s.modifyAt g address).sectionAt (address ++ rest) = (g n).sectionAt rest := by
  induction address generalizing s with
  | nil =>
    cases found
    rfl
  | cons step more ih =>
    cases step with
    | child key =>
      simp only [sectionAt, Option.bind_eq_some_iff] at found
      obtain ⟨c, atKey, below⟩ := found
      simp only [modifyAt, atKey, List.cons_append, sectionAt, with_children_eq, children_mk,
        lookup_assoc_set_self, Option.bind_some]
      exact ih below
    | item key i =>
      simp only [sectionAt, Option.bind_eq_some_iff] at found
      obtain ⟨c, ⟨list, atKey, atIndex⟩, below⟩ := found
      have inRange : i < list.length := (List.getElem?_eq_some_iff.mp atIndex).1
      simp only [modifyAt, atKey, atIndex, List.cons_append, sectionAt, with_items_eq, items_mk,
        lookup_assoc_set_self, Option.bind_some, List.getElem?_set_self inRange]
      exact ih below

theorem read_keys_section_at_modify_at {address target : List Step} (off : ¬ address <+: target)
    (s : Section) :
    ((s.modifyAt g address).sectionAt target).map readKeys = (s.sectionAt target).map readKeys := by
  induction address generalizing s target with
  | nil => exact absurd (List.nil_prefix) off
  | cons step more ih =>
    cases step with
    | child key =>
      cases atKey : s.children.lookup key with
      | none => simp [modifyAt, atKey]
      | some c =>
        simp only [modifyAt, atKey]
        cases target with
        | nil => simp [sectionAt, readKeys, map_fst_assoc_set atKey]
        | cons step' rest =>
          cases step' with
          | child key' =>
            by_cases same : key' = key
            · subst same
              have offRest : ¬ more <+: rest := fun on => off (List.cons_prefix_cons.mpr ⟨rfl, on⟩)
              simp only [sectionAt, with_children_eq, children_mk, lookup_assoc_set_self, atKey,
                Option.bind_some]
              exact ih offRest c
            · simp [sectionAt, lookup_assoc_set_of_ne _ _ same]
          | item key' j => simp [sectionAt]
    | item key i =>
      cases atKey : s.items.lookup key with
      | none => simp [modifyAt, atKey]
      | some list =>
        cases atIndex : list[i]? with
        | none => simp [modifyAt, atKey, atIndex]
        | some c =>
          have inRange : i < list.length := (List.getElem?_eq_some_iff.mp atIndex).1
          simp only [modifyAt, atKey, atIndex]
          cases target with
          | nil => simp [sectionAt, readKeys, map_fst_assoc_set atKey]
          | cons step' rest =>
            cases step' with
            | child key' => simp [sectionAt]
            | item key' j =>
              by_cases same : key' = key
              · subst same
                by_cases sameIndex : j = i
                · subst sameIndex
                  have offRest : ¬ more <+: rest :=
                    fun on => off (List.cons_prefix_cons.mpr ⟨rfl, on⟩)
                  simp only [sectionAt, with_items_eq, items_mk, lookup_assoc_set_self, atKey,
                    Option.bind_some, List.getElem?_set_self inRange, atIndex]
                  exact ih offRest c
                · simp [sectionAt, atKey, List.getElem?_set_ne (Ne.symm sameIndex)]
              · simp [sectionAt, lookup_assoc_set_of_ne _ _ same]

end ModifyAt

def AllChildrenRead (s : Section) : Prop :=
  ∀ address n, s.sectionAt address = some n → n.ChildrenRead

theorem Unread.all_children_read {s : Section} (fresh : s.Unread) : s.AllChildrenRead := by
  intro address n found
  rw [fresh.eq_of_section_at found]
  simp [ChildrenRead, fresh.children]

end Section

namespace Call

open Section

/-- Makes a call on the section at an address of a tree, as a reader run there; where no
section hangs at the address, nothing happens. -/
def applyAt (c : Call) (address : List Step) (s : Section) : Section :=
  ((s.focus address fun n => ((.ok () : Except ConfigError Unit), c.apply n)).map (·.2)).getD s

theorem apply_at_eq (c : Call) (address : List Step) (s : Section) :
    c.applyAt address s = ((s.sectionAt address).map fun _ => s.modifyAt c.apply address).getD s := by
  rw [applyAt, focus_eq_modify_at]
  cases s.sectionAt address <;> rfl

section Step

variable (c : Call) {s : Section} (read : s.AllChildrenRead) (address : List Step)
include read

theorem exists_section_at_apply_at {target : List Step} {n : Section} (found : s.sectionAt target = some n) :
    ∃ m, (c.applyAt address s).sectionAt target = some m ∧ (target = address → m = c.apply n) ∧
      (target ≠ address → m.readKeys = n.readKeys) := by
  rw [apply_at_eq]
  cases atAddress : s.sectionAt address with
  | none =>
    have differs : target ≠ address := fun same => by simp [same, atAddress] at found
    exact ⟨n, found, fun same => absurd same differs, fun _ => rfl⟩
  | some nb =>
    simp only [Option.map_some, Option.getD_some]
    by_cases below : address <+: target
    · obtain ⟨rest, rfl⟩ := below
      rw [section_at_append, atAddress, Option.bind_some] at found
      rw [section_at_modify_at_append c.apply atAddress]
      cases rest with
      | nil =>
        cases found
        exact ⟨_, rfl, fun _ => rfl, fun differs => absurd (List.append_nil _) differs⟩
      | cons step more =>
        have leaves := Call.leaves c nb (read address nb atAddress)
        refine ⟨n, leaves.section_at_kept found, fun same => ?_, fun _ => rfl⟩
        simpa using congrArg List.length same
    · have same := read_keys_section_at_modify_at c.apply below s
      rw [found] at same
      obtain ⟨m, atTarget, keys⟩ := Option.map_eq_some_iff.mp same
      exact ⟨m, atTarget, fun same => absurd (same ▸ List.prefix_refl address) below, fun _ => keys⟩

theorem section_at_apply_at_cases {target : List Step} {m : Section}
    (found : (c.applyAt address s).sectionAt target = some m) :
    (∃ n, s.sectionAt target = some n ∧ (target = address → m = c.apply n) ∧
      (target ≠ address → m.readKeys = n.readKeys)) ∨ (s.sectionAt target = none ∧ m.Unread) := by
  rw [apply_at_eq] at found
  cases atAddress : s.sectionAt address with
  | none =>
    rw [atAddress] at found
    have differs : target ≠ address := fun same => by simp [same, atAddress] at found
    exact .inl ⟨m, found, fun same => absurd same differs, fun _ => rfl⟩
  | some nb =>
    simp only [atAddress, Option.map_some, Option.getD_some] at found
    by_cases below : address <+: target
    · obtain ⟨rest, rfl⟩ := below
      rw [section_at_modify_at_append c.apply atAddress] at found
      rw [section_at_append, atAddress, Option.bind_some]
      cases rest with
      | nil =>
        cases found
        exact .inl ⟨nb, rfl, fun _ => rfl, fun differs => absurd (List.append_nil _) differs⟩
      | cons step more =>
        have leaves := Call.leaves c nb (read address nb atAddress)
        have longer : address ++ step :: more ≠ address := fun same => by
          simpa using congrArg List.length same
        cases old : nb.sectionAt (step :: more) with
        | some n =>
          rw [leaves.section_at_kept old] at found
          cases found
          exact .inl ⟨_, rfl, fun same => absurd same longer, fun _ => rfl⟩
        | none => exact .inr ⟨rfl, leaves.section_at_new found old⟩
    · have same := read_keys_section_at_modify_at c.apply below s
      rw [found, Option.map_some] at same
      obtain ⟨n, atTarget, keys⟩ := Option.map_eq_some_iff.mp same.symm
      exact .inl ⟨n, atTarget, fun same => absurd (same ▸ List.prefix_refl address) below,
        fun _ => keys.symm⟩

theorem all_children_read_apply_at : (c.applyAt address s).AllChildrenRead := by
  intro target m found
  rcases section_at_apply_at_cases c read address found with ⟨n, old, atAddress, elsewhere⟩ |
    ⟨-, fresh⟩
  · by_cases same : target = address
    · rw [atAddress same]
      exact (Call.leaves c n (read target n old)).children_read (read target n old)
    · exact children_read_of_read_keys (elsewhere same) (read target n old)
  · exact fresh.all_children_read [] m rfl

theorem consumed_apply_at (target : List Step) (k : String) :
    (∃ m, (c.applyAt address s).sectionAt target = some m ∧ k ∈ m.consumed) ↔
      (∃ n, s.sectionAt target = some n ∧ k ∈ n.consumed) ∨
        (target = address ∧ ∃ n, s.sectionAt target = some n ∧ c.Consumes n k) := by
  constructor
  · rintro ⟨m, found, mem⟩
    rcases section_at_apply_at_cases c read address found with ⟨n, old, atAddress, elsewhere⟩ |
      ⟨-, fresh⟩
    · by_cases same : target = address
      · rw [atAddress same, ((Call.leaves c n (read target n old)).consumed k)] at mem
        rcases mem with mem | consumes
        · exact .inl ⟨n, old, mem⟩
        · exact .inr ⟨same, n, old, consumes⟩
      · rw [consumed_eq_of_read_keys (elsewhere same)] at mem
        exact .inl ⟨n, old, mem⟩
    · simp [fresh.consumed] at mem
  · rintro (⟨n, old, mem⟩ | ⟨same, n, old, consumes⟩)
    · obtain ⟨m, found, atAddress, elsewhere⟩ := exists_section_at_apply_at c read address old
      refine ⟨m, found, ?_⟩
      by_cases same : target = address
      · rw [atAddress same, (Call.leaves c n (read target n old)).consumed k]
        exact .inl mem
      · rw [consumed_eq_of_read_keys (elsewhere same)]
        exact mem
    · obtain ⟨m, found, atAddress, -⟩ := exists_section_at_apply_at c read address old
      refine ⟨m, found, ?_⟩
      rw [atAddress same, (Call.leaves c n (read target n old)).consumed k]
      exact .inr consumes

theorem keys_apply_at_prefix {target : List Step} {n m : Section} (old : s.sectionAt target = some n)
    (found : (c.applyAt address s).sectionAt target = some m) :
    n.children.map (·.1) <+: m.children.map (·.1) ∧ n.items.map (·.1) <+: m.items.map (·.1) := by
  obtain ⟨m', found', atAddress, elsewhere⟩ := exists_section_at_apply_at c read address old
  rw [found, Option.some.injEq] at found'
  subst found'
  by_cases same : target = address
  · have leaves := Call.leaves c n (read target n old)
    rw [atAddress same]
    constructor
    · rcases leaves.children with kept | ⟨k, inner, -, -, -, added⟩
      · rw [kept]
      · rw [added, List.map_append]
        exact List.prefix_append _ _
    · rcases leaves.items with kept | ⟨k, inner, -, -, added⟩
      · rw [kept]
      · rw [added, List.map_append]
        exact List.prefix_append _ _
  · have keys := elsewhere same
    simp only [readKeys, Prod.mk.injEq] at keys
    rw [keys.2.1, keys.2.2]
    exact ⟨List.prefix_refl _, List.prefix_refl _⟩

end Step

end Call

/-! ## Calls one after another -/

theorem exists_split_append_singleton {α : Type} (P : List α → α → Prop) (xs : List α) (x : α) :
    (∃ before y after, xs ++ [x] = before ++ y :: after ∧ P before y) ↔
      (∃ before y after, xs = before ++ y :: after ∧ P before y) ∨ P xs x := by
  constructor
  · rintro ⟨before, y, after, split, holds⟩
    rcases List.eq_nil_or_concat after with rfl | ⟨after', z, rfl⟩
    · obtain ⟨rfl, last⟩ := List.append_inj' split rfl
      rw [List.singleton_inj] at last
      subst last
      exact .inr holds
    · have split' : xs ++ [x] = (before ++ y :: after') ++ [z] := by simpa using split
      exact .inl ⟨before, y, after', (List.append_inj' split' rfl).1, holds⟩
  · rintro (⟨before, y, after, rfl, holds⟩ | holds)
    · exact ⟨before, y, after ++ [x], by simp, holds⟩
    · exact ⟨xs, x, [], rfl, holds⟩

namespace Section

def afterCalls (s : Section) (calls : List (List Step × Call)) : Section :=
  calls.foldl (fun t call => call.2.applyAt call.1 t) s

@[simp] theorem after_calls_nil (s : Section) : s.afterCalls [] = s := rfl

theorem after_calls_append_call (s : Section) (calls : List (List Step × Call)) (call : List Step × Call) :
    s.afterCalls (calls ++ [call]) = call.2.applyAt call.1 (s.afterCalls calls) := by
  simp [afterCalls, List.foldl_append]

theorem all_children_read_after_calls {s : Section} (fresh : s.Unread) (calls : List (List Step × Call)) :
    (s.afterCalls calls).AllChildrenRead := by
  induction calls using List.reverseRecOn with
  | nil => exact fresh.all_children_read
  | append_singleton calls call ih =>
    rw [after_calls_append_call]
    exact Call.all_children_read_apply_at call.2 ih call.1

/-- A section of a tree read from scratch has consumed a key exactly when a call made on it
consumed the key, as the section stood then. -/
theorem consumed_after_calls {s : Section} (fresh : s.Unread) (calls : List (List Step × Call))
    (target : List Step) (k : String) :
    (∃ m, (s.afterCalls calls).sectionAt target = some m ∧ k ∈ m.consumed) ↔
      ∃ (before : List (List Step × Call)) (call : List Step × Call) (after : List (List Step × Call)),
        calls = before ++ call :: after ∧ call.1 = target ∧
          ∃ n, (s.afterCalls before).sectionAt target = some n ∧ call.2.Consumes n k := by
  induction calls using List.reverseRecOn with
  | nil =>
    simp only [after_calls_nil]
    constructor
    · rintro ⟨m, found, mem⟩
      rw [fresh.eq_of_section_at found, fresh.consumed] at mem
      cases mem
    · rintro ⟨before, call, after, split, -⟩
      simp at split
  | append_singleton calls call ih =>
    rw [after_calls_append_call,
      Call.consumed_apply_at call.2 (all_children_read_after_calls fresh calls) call.1, ih]
    refine Iff.trans ?_ (exists_split_append_singleton (fun before c => c.1 = target ∧
      ∃ n, (s.afterCalls before).sectionAt target = some n ∧ c.2.Consumes n k) calls call).symm
    exact or_congr_right (and_congr_left fun _ => eq_comm)

/-- Reading a tree from scratch keeps the nested sections of each of its sections, and its
lists of them, in the order they were opened: later calls only add at the end. -/
theorem keys_after_calls_prefix {s : Section} (fresh : s.Unread) (calls more : List (List Step × Call))
    {target : List Step} {n m : Section} (old : (s.afterCalls calls).sectionAt target = some n)
    (found : (s.afterCalls (calls ++ more)).sectionAt target = some m) :
    n.children.map (·.1) <+: m.children.map (·.1) ∧ n.items.map (·.1) <+: m.items.map (·.1) := by
  -- the section at `target` stays through the later calls, and at each its keys only grow
  have stays : ∀ more : List (List Step × Call), ∃ m, (s.afterCalls (calls ++ more)).sectionAt target = some m ∧
      n.children.map (·.1) <+: m.children.map (·.1) ∧ n.items.map (·.1) <+: m.items.map (·.1) := by
    intro more
    induction more using List.reverseRecOn with
    | nil => exact ⟨n, by simpa using old, List.prefix_refl _, List.prefix_refl _⟩
    | append_singleton more call ih =>
      obtain ⟨m', found', children', items'⟩ := ih
      have read := all_children_read_after_calls fresh (calls ++ more)
      obtain ⟨m'', found'', -, -⟩ := Call.exists_section_at_apply_at call.2 read call.1 found'
      obtain ⟨children'', items''⟩ := Call.keys_apply_at_prefix call.2 read call.1 found' found''
      refine ⟨m'', ?_, children'.trans children'', items'.trans items''⟩
      rw [← List.append_assoc, after_calls_append_call]
      exact found''
  obtain ⟨m', found', keys⟩ := stays more
  rw [found, Option.some.injEq] at found'
  subst found'
  exact keys

end Section

end Conveyor.Config

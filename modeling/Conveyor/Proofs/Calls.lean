import Mathlib
import Conveyor.Proofs.Check

/-!
# Calls of a section's readers

A configuration is read by calls of a section's readers, on the root section and on the
sections those calls open: text, truth values, numbers, lists of texts, nested sections and
lists of nested sections. `Call` names one such call; `Call.apply` makes it on a section,
`Call.applyAt` on the section at an address of a tree, as a reader run there with
`Section.focus`, and `Section.afterCalls` makes calls one after another.

A call changes the section it is made on in few ways (`Call.Leaves`): it consumes the key it
gets past looking up (`Section.Finds`), or the key it opens a nested section at, and it may
hang one fresh nested section, or one list of fresh ones, last, under a key not used before.
Everywhere else in the tree a section keeps what it has read (`read_keys_section_at_modify_at`).
For a tree read from scratch this gives which keys each section has consumed: exactly those
some call on it consumed (`Section.consumed_after_calls`); and the nested sections of each
section stay in the order they were opened (`Section.keys_after_calls_prefix`).

This module covers one call on one section; calls across a tree and one after another
follow in `TreeCalls`.
-/

namespace Conveyor.Config

set_option autoImplicit false

open Conveyor.Text

namespace Section

/-! ## Looking a key up -/

/-- Looking `key` up gets past its checks, at the trimmed key `k`: the key is text that trims
to `k`, `k` is not blank and not opened as a nested section or a list of them, and `k` is in
the mapping or a default is given. -/
structure Finds (s : Section) (key : Value) (default : Option Value) (k : String) : Prop where
  trims : trimKey key = .ok k
  nonblank : k ≠ ""
  unopened : s.children.lookup k = none ∧ s.items.lookup k = none
  present : k ∈ s.data.map (·.1) ∨ default ≠ none

theorem Finds.key_eq {s : Section} {key : Value} {default : Option Value} {k : String}
    (finds : s.Finds key default k) : ∃ text, key = .str text ∧ strip text = k := by
  have trims := finds.trims
  cases key <;> simp_all [trimKey]

theorem Finds.unique {s : Section} {key : Value} {default : Option Value} {k k' : String}
    (finds : s.Finds key default k) (finds' : s.Finds key default k') : k = k' := by
  have same := finds.trims.symm.trans finds'.trims
  simpa using same

theorem mem_consumed_consume (s : Section) (key k : String) :
    k ∈ (s.consume key).consumed ↔ k ∈ s.consumed ∨ k = key := by
  rw [consume_eq, consumed_mk]
  split
  · rename_i read
    constructor
    · exact Or.inl
    · rintro (mem | rfl)
      · exact mem
      · exact read
  · simp

theorem raw_snd_of_finds {s : Section} {key : Value} {default : Option Value} {k : String}
    (finds : s.Finds key default k) : (s.raw key default).2 = s.consume k := by
  obtain ⟨text, rfl, rfl⟩ := finds.key_eq
  have blank : (strip text).isEmpty = false := by simpa using finds.nonblank
  obtain ⟨noChild, noItems⟩ := finds.unopened
  simp only [Section.raw, blank, noChild, noItems, Option.isSome_none, Bool.or_false,
    Bool.false_eq_true, if_false]
  cases own : s.data.lookup (strip text) with
  | some v => rfl
  | none =>
    have given : default ≠ none := by
      rcases finds.present with mem | given
      · obtain ⟨entry, mem, keyed⟩ := List.mem_map.mp mem
        have differs := List.lookup_eq_none_iff.mp own entry mem
        simp [keyed] at differs
      · exact given
    obtain ⟨d, rfl⟩ := Option.ne_none_iff_exists'.mp given
    rfl

theorem raw_of_missed {s : Section} {key : Value} {default : Option Value}
    (missed : ∀ k, ¬ s.Finds key default k) : ∃ e, s.raw key default = (.error e, s) := by
  cases key with
  | str text =>
    have refused := missed (strip text)
    simp only [Section.raw]
    split
    · exact ⟨_, rfl⟩
    · split
      · exact ⟨_, rfl⟩
      · rename_i nonblank opened
        have unopened : s.children.lookup (strip text) = none ∧ s.items.lookup (strip text) = none := by
          simpa only [Bool.or_eq_true, not_or, Option.not_isSome_iff_eq_none] using opened
        cases own : s.data.lookup (strip text) with
        | some v =>
          refine absurd ⟨rfl, by simpa using nonblank, unopened, .inl ?_⟩ refused
          obtain ⟨l₁, l₂, split, -⟩ := List.lookup_eq_some_iff.mp own
          simp [split]
        | none =>
          cases default with
          | none => exact ⟨_, rfl⟩
          | some d => exact absurd ⟨rfl, by simpa using nonblank, unopened, .inr (by simp)⟩ refused
  | _ => exact ⟨_, rfl⟩

/-! ## What a reader leaves of its section -/

/-- What a section has read, apart from the values it recorded: the keys consumed, the nested
sections and the lists of them. -/
def progress (s : Section) : List String × List (String × Section) × List (String × List Section) :=
  (s.consumed, s.children, s.items)

@[simp] theorem progress_record (s : Section) (key : String) (v : Value) :
    (s.record key v).progress = s.progress := rfl

theorem mem_of_map_m_eq_ok {α β ε : Type} {f : α → Except ε β} {l : List α} {ys : List β}
    (mapped : l.mapM f = .ok ys) : ∀ y ∈ ys, ∃ x ∈ l, f x = .ok y := by
  induction l generalizing ys with
  | nil =>
    cases mapped
    simp
  | cons x rest ih =>
    rw [List.mapM_cons] at mapped
    cases first : f x with
    | error e =>
      rw [first] at mapped
      cases mapped
    | ok y =>
      cases later : rest.mapM f with
      | error e =>
        rw [first, later] at mapped
        cases mapped
      | ok ys' =>
        rw [first, later] at mapped
        cases mapped
        intro y' mem
        rcases List.mem_cons.mp mem with rfl | inRest
        · exact ⟨x, List.mem_cons_self, first⟩
        · obtain ⟨x', mem', made⟩ := ih later y' inRest
          exact ⟨x', List.mem_cons_of_mem _ mem', made⟩

theorem section_list_go_cases (s : Section) (key : Value) (default : Option Value) (allowEmpty : Bool) :
    (sectionList.go s key default allowEmpty).2 = (s.raw key default).2 ∨
      ∃ (k : String) (sections : List Section), s.Finds key default k ∧ (∀ c ∈ sections, c.Unread) ∧
        (sectionList.go s key default allowEmpty).2 =
          (s.raw key default).2.withItems (s.items ++ [(k, sections)]) := by
  fun_cases sectionList.go s key default allowEmpty with
  | case4 k path v s2 looked v' items listed built sections made kept =>
    have finds : ∃ k', s.Finds key default k' := by
      by_contra missed
      obtain ⟨e, refused⟩ := raw_of_missed (not_exists.mp missed)
      rw [refused] at looked
      cases looked
    obtain ⟨k', finds⟩ := finds
    obtain ⟨text, rfl, rfl⟩ := finds.key_eq
    have consumed : s2 = s.consume (strip text) := by
      simpa [looked] using raw_snd_of_finds finds
    subst consumed
    refine .inr ⟨strip text, sections, finds, fun c mem => ?_, ?_⟩
    · obtain ⟨⟨item, i⟩, -, made⟩ := mem_of_map_m_eq_ok made c mem
      dsimp only at made
      split at made
      · cases made
        exact unread_of_entries _ _
      · cases made
    · have noItems : (s.consume (strip text)).items.lookup (strip text) = none := by
        simpa [consume_eq] using finds.unopened.2
      rw [looked]
      simp only [k, assoc_set_of_lookup_none _ _ _ noItems]
      simp [consume_eq]
  | _ => exact .inl (by simp_all)

theorem open_child_cases (s : Section) (key : Value) (default : Option Value) :
    (∃ e, s.openChild key default = (.error e, s)) ∨
      (∃ k, s.openChild key default = (.ok k, s) ∧ (s.children.lookup k).isSome) ∨
      ∃ (k : String) (inner : Section), inner.Unread ∧ s.children.lookup k = none ∧
        s.openChild key default = (.ok k, s.after (.child k inner)) := by
  simp only [openChild]
  generalize (if key.isFalsy = true then Except.ok "" else trimKey key : Except ConfigError String) = trimmed
  rcases trimmed with e | k
  · exact .inl ⟨e, rfl⟩
  · dsimp only
    split
    · exact .inl ⟨_, rfl⟩
    · split
      · rename_i opened
        exact .inr (.inl ⟨k, rfl, by simp [opened]⟩)
      · rename_i unopened
        split
        · exact .inl ⟨_, rfl⟩
        · rename_i es _
          exact .inr (.inr ⟨k, ofEntries es (joinPath s.path k), unread_of_entries _ _, unopened, rfl⟩)

def ChildrenRead (s : Section) : Prop :=
  ∀ entry ∈ s.children, entry.1 ∈ s.consumed

theorem Unread.section_at_cons {s : Section} (fresh : s.Unread) (step : Step) (more : List Step) :
    s.sectionAt (step :: more) = none := by
  cases step <;> simp [sectionAt, fresh.children, fresh.items]

theorem Unread.eq_of_section_at {s m : Section} (fresh : s.Unread) {address : List Step}
    (found : s.sectionAt address = some m) : m = s := by
  cases address with
  | nil =>
    cases found
    rfl
  | cons step more => simp [fresh.section_at_cons] at found

theorem eq_of_lookup_append_singleton {β : Type} {xs : List (String × β)} {key k : String} {v w : β}
    (absent : xs.lookup key = none) (found : (xs ++ [(k, v)]).lookup key = some w) : w = v := by
  rw [List.lookup_append, absent, Option.none_or] at found
  by_cases same : key = k
  · simpa [same, List.lookup] using found.symm
  · simp [List.lookup, beq_false_of_ne same] at found

end Section

/-! ## Calls -/

/-- A call of one of a section's readers, with the key and the parameters given to it. -/
inductive Call where
  /-- Reads text (`getText`). -/
  | text (key : Value) (default : Option Value) (allowEmpty : Bool) (choices : Option Value)
  /-- Reads a truth value (`getBool`). -/
  | bool (key : Value) (default : Option Value)
  /-- Reads a number (`getFloat`). -/
  | float (key : Value) (default : Option Value) (minimum : Option Value)
  /-- Reads a list of texts (`getTexts`). -/
  | texts (key : Value) (default : Option Value) (allowEmpty : Bool)
  /-- Opens a list of nested sections (`sectionList`). -/
  | sections (key : Value) (default : Option Value) (allowEmpty : Bool)
  /-- Opens a nested section (`openChild`). -/
  | child (key : Value) (default : Option Value)

namespace Call

open Section

def key : Call → Value
  | text key _ _ _ | bool key _ | float key _ _ | texts key _ _ | sections key _ _ | child key _ => key

def default : Call → Option Value
  | text _ d _ _ | bool _ d | float _ d _ | texts _ d _ | sections _ d _ | child _ d => d

/-- Whether the reader takes the default it is given: each reader checks the kind of its
default before it looks its key up. -/
def takesDefault : Call → Bool
  | text _ (some d) _ _ => (d matches .str _ | .null)
  | bool _ (some d) => (d matches .bool _)
  | float _ (some d) _ => isNumber d
  | texts _ (some d) _ | sections _ (some d) _ => (d matches .list _)
  | _ => true

def apply : Call → Section → Section
  | text key default allowEmpty choices, s => (s.getText key default allowEmpty choices).2
  | bool key default, s => (s.getBool key default).2
  | float key default minimum, s => (s.getFloat key default minimum).2
  | texts key default allowEmpty, s => (s.getTexts key default allowEmpty).2
  | sections key default allowEmpty, s => (s.sectionList key default allowEmpty).2
  | child key default, s => (s.openChild key default).2

/-- The keys a call consumes on the section it is made on. A reader of a value, or of a list
of sections, consumes the trimmed key once it gets past its check of the default and the
lookup of the key, whatever it makes of the value then; opening a nested section consumes
the key when it returns. -/
def Consumes : Call → Section → String → Prop
  | child key default, s, k => (s.openChild key default).1 = .ok k
  | c, s, k => c.takesDefault = true ∧ s.Finds c.key c.default k

def looked (c : Call) (s : Section) : Section :=
  if c.takesDefault then (s.raw c.key c.default).2 else s

/-- What a call leaves of the section `s` it is made on, as `t`: the keys consumed are those
`s` had and those the call consumes; the nested sections of `s`, and its lists of them, stay
as they are, and at most one fresh one is added last, under a key not used before. -/
structure Leaves (c : Call) (s t : Section) : Prop where
  consumed : ∀ k, k ∈ t.consumed ↔ k ∈ s.consumed ∨ c.Consumes s k
  children : t.children = s.children ∨
    ∃ (k : String) (inner : Section), s.children.lookup k = none ∧ k ∈ t.consumed ∧ inner.Unread ∧
      t.children = s.children ++ [(k, inner)]
  items : t.items = s.items ∨
    ∃ (k : String) (inner : List Section), s.items.lookup k = none ∧ (∀ c ∈ inner, c.Unread) ∧
      t.items = s.items ++ [(k, inner)]

theorem mem_consumed_looked (c : Call) (s : Section) (k : String) :
    k ∈ (c.looked s).consumed ↔ k ∈ s.consumed ∨ (c.takesDefault = true ∧ s.Finds c.key c.default k) := by
  unfold looked
  split
  · rename_i takes
    by_cases found : ∃ k', s.Finds c.key c.default k'
    · obtain ⟨k', finds⟩ := found
      rw [raw_snd_of_finds finds, mem_consumed_consume]
      constructor
      · rintro (mem | rfl)
        · exact .inl mem
        · exact .inr ⟨takes, finds⟩
      · rintro (mem | ⟨-, finds'⟩)
        · exact .inl mem
        · exact .inr (finds'.unique finds)
    · obtain ⟨e, refused⟩ := raw_of_missed (not_exists.mp found)
      rw [refused]
      simp only [takes, true_and]
      exact ⟨.inl, fun read => read.elim id fun finds => absurd ⟨k, finds⟩ found⟩
  · rename_i refuses
    simp [refuses]

theorem children_looked (c : Call) (s : Section) :
    (c.looked s).children = s.children ∧ (c.looked s).items = s.items := by
  unfold looked
  split
  · by_cases found : ∃ k, s.Finds c.key c.default k
    · obtain ⟨k, finds⟩ := found
      simp [raw_snd_of_finds finds, consume_eq]
    · obtain ⟨e, refused⟩ := raw_of_missed (not_exists.mp found)
      simp [refused]
  · exact ⟨rfl, rfl⟩

theorem leaves_of_looked {c : Call} {s t : Section} (progress : t.progress = (c.looked s).progress)
    (consumes : ∀ k, c.Consumes s k ↔ c.takesDefault = true ∧ s.Finds c.key c.default k) :
    c.Leaves s t := by
  have same : t.consumed = (c.looked s).consumed ∧ t.children = (c.looked s).children ∧
      t.items = (c.looked s).items := by
    simpa only [Section.progress, Prod.mk.injEq] using progress
  obtain ⟨sameConsumed, sameChildren, sameItems⟩ := same
  refine ⟨fun k => ?_, .inl ?_, .inl ?_⟩
  · rw [sameConsumed, mem_consumed_looked, consumes]
  · rw [sameChildren, (children_looked c s).1]
  · rw [sameItems, (children_looked c s).2]

-- Each reader of a value checks its default, then looks its key up, then records what it
-- reads; the branches after the lookup differ only in the value recorded.

theorem progress_apply_text (key : Value) (default : Option Value) (allowEmpty : Bool)
    (choices : Option Value) (s : Section) :
    ((text key default allowEmpty choices).apply s).progress =
      ((text key default allowEmpty choices).looked s).progress := by
  have go : (getText.go s key default allowEmpty choices).2.progress = (s.raw key default).2.progress := by
    fun_cases getText.go s key default allowEmpty choices <;> simp_all only [progress_record]
  simp only [apply, looked, getText]
  split <;> simp_all [takesDefault, Call.key, Call.default]

theorem progress_apply_bool (key : Value) (default : Option Value) (s : Section) :
    ((bool key default).apply s).progress = ((bool key default).looked s).progress := by
  have go : (getBool.go s key default).2.progress = (s.raw key default).2.progress := by
    fun_cases getBool.go s key default <;> simp_all only [progress_record]
  simp only [apply, looked, getBool]
  split
  · split <;> simp_all [takesDefault, Call.key, Call.default]
  · simp [takesDefault, Call.key, Call.default, go]

theorem progress_apply_float (key : Value) (default minimum : Option Value) (s : Section) :
    ((float key default minimum).apply s).progress = ((float key default minimum).looked s).progress := by
  have go : (getFloat.go s key default minimum).2.progress = (s.raw key default).2.progress := by
    fun_cases getFloat.go s key default minimum <;> simp_all only [progress_record]
  simp only [apply, looked, getFloat]
  split
  · split <;> simp_all [takesDefault, Call.key, Call.default]
  · simp [takesDefault, Call.key, Call.default, go]

theorem progress_apply_texts (key : Value) (default : Option Value) (allowEmpty : Bool) (s : Section) :
    ((texts key default allowEmpty).apply s).progress = ((texts key default allowEmpty).looked s).progress := by
  have go : (getTexts.go s key default allowEmpty).2.progress = (s.raw key default).2.progress := by
    fun_cases getTexts.go s key default allowEmpty <;> simp_all only [progress_record]
  simp only [apply, looked, getTexts]
  split <;> simp_all [takesDefault, Call.key, Call.default]

theorem leaves_sections (key : Value) (default : Option Value) (allowEmpty : Bool) (s : Section) :
    (sections key default allowEmpty).Leaves s ((sections key default allowEmpty).apply s) := by
  have consumes : ∀ k, (sections key default allowEmpty).Consumes s k ↔
      (sections key default allowEmpty).takesDefault = true ∧ s.Finds key default k :=
    fun k => Iff.rfl
  by_cases takes : (sections key default allowEmpty).takesDefault = true
  · have reads : (sections key default allowEmpty).apply s = (sectionList.go s key default allowEmpty).2 := by
      simp only [apply, sectionList]
      split <;> simp_all [takesDefault]
    have same : (sections key default allowEmpty).looked s = (s.raw key default).2 := by
      simp [looked, takes, Call.key, Call.default]
    rcases section_list_go_cases s key default allowEmpty with unchanged | ⟨k, inner, finds, unread, hung⟩
    · exact leaves_of_looked (by rw [reads, unchanged, same]) consumes
    · refine ⟨fun k' => ?_, .inl ?_, .inr ⟨k, inner, finds.unopened.2, unread, ?_⟩⟩
      · rw [reads, hung, with_items_eq, consumed_mk, ← same, mem_consumed_looked, consumes]
        rfl
      · rw [reads, hung, with_items_eq, children_mk, ← same, (children_looked _ _).1]
      · rw [reads, hung, with_items_eq, items_mk]
  · have reads : (sections key default allowEmpty).apply s = s := by
      simp only [apply, sectionList]
      split <;> simp_all [takesDefault]
    exact leaves_of_looked (by rw [reads]; simp [looked, takes]) consumes

theorem leaves_child (key : Value) (default : Option Value) (s : Section) (read : s.ChildrenRead) :
    (child key default).Leaves s ((child key default).apply s) := by
  rcases open_child_cases s key default with ⟨e, refused⟩ | ⟨k, found, opened⟩ |
    ⟨k, inner, unread, unopened, made⟩
  · refine ⟨fun k' => ?_, .inl ?_, .inl ?_⟩ <;> simp [apply, Consumes, refused]
  · -- the nested section was open already, so its key was consumed when it was opened
    have hung : k ∈ s.consumed := by
      obtain ⟨inner, atKey⟩ := Option.isSome_iff_exists.mp opened
      exact read (k, inner) (mem_of_lookup atKey)
    refine ⟨fun k' => ?_, .inl ?_, .inl ?_⟩
    · simp only [apply, Consumes, found, Except.ok.injEq]
      constructor
      · exact .inl
      · rintro (mem | rfl)
        · exact mem
        · exact hung
    · simp [apply, found]
    · simp [apply, found]
  · have consumed : ((child key default).apply s).consumed = (s.consume k).consumed := by
      simp [apply, made, after, consume_eq]
    refine ⟨fun k' => ?_, .inr ⟨k, inner, unopened, ?_, unread, ?_⟩, .inl ?_⟩
    · rw [consumed, mem_consumed_consume]
      simp only [Consumes, made, Except.ok.injEq]
      exact or_congr_right eq_comm
    · rw [consumed, mem_consumed_consume]
      exact .inr rfl
    · simp [apply, made, after, consume_eq, assoc_set_of_lookup_none _ _ _ unopened]
    · simp [apply, made, after, consume_eq]

/-- What each call leaves of the section it is made on, when every nested section of that
section hangs under a key it has consumed. -/
theorem leaves (c : Call) (s : Section) (read : s.ChildrenRead) : c.Leaves s (c.apply s) := by
  cases c with
  | text key default allowEmpty choices =>
    exact leaves_of_looked (progress_apply_text key default allowEmpty choices s) fun k => Iff.rfl
  | bool key default => exact leaves_of_looked (progress_apply_bool key default s) fun k => Iff.rfl
  | float key default minimum =>
    exact leaves_of_looked (progress_apply_float key default minimum s) fun k => Iff.rfl
  | texts key default allowEmpty =>
    exact leaves_of_looked (progress_apply_texts key default allowEmpty s) fun k => Iff.rfl
  | sections key default allowEmpty => exact leaves_sections key default allowEmpty s
  | child key default => exact leaves_child key default s read

variable {c : Call} {s t : Section}

theorem Leaves.children_read (leaves : c.Leaves s t) (read : s.ChildrenRead) : t.ChildrenRead := by
  intro entry mem
  rcases leaves.children with same | ⟨k, inner, -, hung, -, added⟩
  · rw [same] at mem
    exact (leaves.consumed _).mpr (.inl (read entry mem))
  · rw [added] at mem
    rcases List.mem_append.mp mem with old | new
    · exact (leaves.consumed _).mpr (.inl (read entry old))
    · rw [List.mem_singleton.mp new]
      exact hung

theorem Leaves.children_kept (leaves : c.Leaves s t) {key : String} {inner : Section}
    (atKey : s.children.lookup key = some inner) : t.children.lookup key = some inner := by
  rcases leaves.children with same | ⟨k, fresh, -, -, -, added⟩
  · rw [same, atKey]
  · rw [added, List.lookup_append, atKey, Option.some_or]

theorem Leaves.items_kept (leaves : c.Leaves s t) {key : String} {list : List Section}
    (atKey : s.items.lookup key = some list) : t.items.lookup key = some list := by
  rcases leaves.items with same | ⟨k, fresh, -, -, added⟩
  · rw [same, atKey]
  · rw [added, List.lookup_append, atKey, Option.some_or]

theorem Leaves.section_at_kept (leaves : c.Leaves s t) {step : Step} {more : List Step} {m : Section}
    (found : s.sectionAt (step :: more) = some m) : t.sectionAt (step :: more) = some m := by
  cases step with
  | child key =>
    simp only [sectionAt, Option.bind_eq_some_iff] at found ⊢
    obtain ⟨inner, atKey, below⟩ := found
    exact ⟨inner, leaves.children_kept atKey, below⟩
  | item key i =>
    simp only [sectionAt, Option.bind_eq_some_iff] at found ⊢
    obtain ⟨inner, ⟨list, atKey, atIndex⟩, below⟩ := found
    exact ⟨inner, ⟨list, leaves.items_kept atKey, atIndex⟩, below⟩

theorem Leaves.section_at_new (leaves : c.Leaves s t) {step : Step} {more : List Step} {m : Section}
    (found : t.sectionAt (step :: more) = some m) (missing : s.sectionAt (step :: more) = none) :
    m.Unread := by
  cases step with
  | child key =>
    simp only [sectionAt, Option.bind_eq_some_iff] at found
    obtain ⟨inner, atKey, below⟩ := found
    cases old : s.children.lookup key with
    | some kept =>
      rw [leaves.children_kept old, Option.some.injEq] at atKey
      subst atKey
      simp [sectionAt, old, below] at missing
    | none =>
      rcases leaves.children with same | ⟨k, fresh, -, -, unread, added⟩
      · rw [same, old] at atKey
        cases atKey
      · rw [added] at atKey
        obtain rfl := eq_of_lookup_append_singleton old atKey
        rw [unread.eq_of_section_at below]
        exact unread
  | item key i =>
    simp only [sectionAt, Option.bind_eq_some_iff] at found
    obtain ⟨inner, ⟨list, atKey, atIndex⟩, below⟩ := found
    cases old : s.items.lookup key with
    | some kept =>
      rw [leaves.items_kept old, Option.some.injEq] at atKey
      subst atKey
      simp [sectionAt, old, atIndex, below] at missing
    | none =>
      rcases leaves.items with same | ⟨k, fresh, -, unread, added⟩
      · rw [same, old] at atKey
        cases atKey
      · rw [added] at atKey
        obtain rfl := eq_of_lookup_append_singleton old atKey
        have unreadInner := unread inner (List.mem_of_getElem? atIndex)
        rw [unreadInner.eq_of_section_at below]
        exact unreadInner

end Call

end Conveyor.Config

import Mathlib
import Conveyor.Proofs.TreeCalls

/-!
# What reading consumes, and the check for unread keys

The final check on a section walks its tree in pre-order (`Section.preorder`): the section,
then the tree of each nested section in the order they were opened, then each list of
sections in the order the lists were opened, item by item. It refuses the first section on
that walk with a key of its mapping left unread (`Section.assert_consumed_eq_first_refusal`).

With what calls consume (`Section.consumed_after_calls`) this is the contract of reading a
configuration section by section (`Section.reading_consumes_and_check_names_first_unread`).
-/

namespace Conveyor.Config

set_option autoImplicit false

open Conveyor.Text

namespace Section

/-! ## The order of the final check -/

mutual
/-- The sections of a tree in the order the final check visits them: the section, then the
tree of each nested section in the order they were opened, then the items of each list in
the order the lists were opened, each item's tree in turn. -/
def preorder : Section → List Section
  | s@(mk _ _ _ _ children items _) => s :: (childrenPreorder children ++ itemsPreorder items)

def childrenPreorder : List (String × Section) → List Section
  | [] => []
  | (_, c) :: rest => c.preorder ++ childrenPreorder rest

def itemsPreorder : List (String × List Section) → List Section
  | [] => []
  | (_, list) :: rest => listPreorder list ++ itemsPreorder rest

def listPreorder : List Section → List Section
  | [] => []
  | c :: rest => c.preorder ++ listPreorder rest
end

theorem preorder_eq (s : Section) :
    s.preorder = s :: (childrenPreorder s.children ++ itemsPreorder s.items) := by
  cases s
  rw [preorder]
  rfl

def refusal (s : Section) : ConfigError :=
  .unknownKeys s.path s.unconsumedKeys s.consumedKeys

/-- The final check over sections taken in order: the refusal of the first one with keys
left unread. -/
def firstRefusal (sections : List Section) : Except ConfigError Unit :=
  (sections.find? fun n => !n.unconsumedKeys.isEmpty).elim (.ok ()) fun n => .error n.refusal

theorem first_refusal_append (first second : List Section) :
    firstRefusal (first ++ second) = firstRefusal first >>= fun _ => firstRefusal second := by
  unfold firstRefusal
  rw [List.find?_append]
  cases first.find? fun n => !n.unconsumedKeys.isEmpty <;> rfl

theorem first_refusal_cons (s : Section) (rest : List Section) :
    firstRefusal (s :: rest) =
      if s.unconsumedKeys.isEmpty then firstRefusal rest else .error s.refusal := by
  unfold firstRefusal
  rw [List.find?_cons]
  cases s.unconsumedKeys.isEmpty <;> rfl

theorem assert_consumed_eq_first_refusal (s : Section) :
    s.assertConsumed = firstRefusal s.preorder := by
  -- one motive for each function of the mutual block, as `assertConsumed.induct` orders them
  apply assertConsumed.induct (fun s => s.assertConsumed = firstRefusal s.preorder)
    (fun items => assertItems items = firstRefusal (itemsPreorder items))
    (fun list => assertList list = firstRefusal (listPreorder list))
    (fun children => assertChildren children = firstRefusal (childrenPreorder children))
  case case1 =>
    intro data others path consumed children items effective unknown nonEmpty _ _
    have unread : unknown ≠ [] := by simpa using nonEmpty
    rw [preorder_eq, first_refusal_cons, if_neg (by simpa using unread),
      assert_consumed_of_unknown unread]
    rfl
  case case2 =>
    intro data others path consumed children items effective unknown empty inChildren inItems
    have known : unknown = [] := by simpa using empty
    rw [preorder_eq, first_refusal_cons, if_pos (by simpa using known),
      assert_consumed_of_known known, first_refusal_append, children_mk, items_mk, ← inChildren,
      ← inItems]
    rfl
  case case3 => rfl
  case case4 =>
    intro _ c rest inSection inRest
    rw [assertChildren, childrenPreorder, first_refusal_append, inSection, inRest]
  case case5 => rfl
  case case6 =>
    intro _ list rest inList inRest
    rw [assertItems, itemsPreorder, first_refusal_append, inList, inRest]
  case case7 => rfl
  case case8 =>
    intro c rest inSection inRest
    rw [assertList, listPreorder, first_refusal_append, inSection, inRest]

/-! ## Sections with keys left unread -/

/-- A section has a key of its mapping left unread: a text key it has not consumed, or a key
that is not text, which no reader reads. -/
def HasUnread (s : Section) : Prop :=
  (∃ entry ∈ s.data, entry.1 ∉ s.consumed) ∨ s.others ≠ []

theorem has_unread_iff (s : Section) : s.HasUnread ↔ !s.unconsumedKeys.isEmpty := by
  rw [Bool.not_eq_true', List.isEmpty_eq_false_iff, Ne, unconsumed_keys_eq_nil, HasUnread,
    not_and_or, not_forall]
  simp

theorem find?_unread_eq_some {sections : List Section} {n : Section} :
    sections.find? (fun n => !n.unconsumedKeys.isEmpty) = some n ↔
      ∃ (before after : List Section), sections = before ++ n :: after ∧
        (∀ m ∈ before, ¬ m.HasUnread) ∧ n.HasUnread := by
  rw [List.find?_eq_some_iff_append]
  simp only [has_unread_iff, Bool.not_eq_true]
  constructor
  · rintro ⟨unread, before, after, split, clean⟩
    exact ⟨before, after, split, fun m mem => by simpa using clean m mem, unread⟩
  · rintro ⟨before, after, split, clean, unread⟩
    exact ⟨unread, before, after, split, fun m mem => by simpa using clean m mem⟩

theorem first_refusal_eq_ok {sections : List Section} :
    firstRefusal sections = .ok () ↔ ∀ n ∈ sections, ¬ n.HasUnread := by
  unfold firstRefusal
  cases found : sections.find? fun n => !n.unconsumedKeys.isEmpty with
  | none =>
    simp only [Option.elim_none, true_iff, has_unread_iff]
    exact List.find?_eq_none.mp found
  | some n =>
    obtain ⟨before, after, split, -, unread⟩ := find?_unread_eq_some.mp found
    simp only [Option.elim_some, reduceCtorEq, false_iff, not_forall, not_not]
    exact ⟨n, by simp [split], unread⟩

theorem first_refusal_eq_error {sections : List Section} {e : ConfigError} :
    firstRefusal sections = .error e ↔
      ∃ (before : List Section) (n : Section) (after : List Section),
        sections = before ++ n :: after ∧ (∀ m ∈ before, ¬ m.HasUnread) ∧ n.HasUnread ∧
          e = n.refusal := by
  unfold firstRefusal
  constructor
  · intro refused
    cases found : sections.find? fun n => !n.unconsumedKeys.isEmpty with
    | none => simp [found] at refused
    | some n =>
      obtain ⟨before, after, split, clean, unread⟩ := find?_unread_eq_some.mp found
      simp only [found, Option.elim_some, Except.error.injEq] at refused
      exact ⟨before, n, after, split, clean, unread, refused.symm⟩
  · rintro ⟨before, n, after, split, clean, unread, rfl⟩
    rw [find?_unread_eq_some.mpr ⟨before, after, split, clean, unread⟩]
    rfl

theorem assert_consumed_eq_error_iff (s : Section) (e : ConfigError) :
    s.assertConsumed = .error e ↔
      ∃ (before : List Section) (n : Section) (after : List Section),
        s.preorder = before ++ n :: after ∧ (∀ m ∈ before, ¬ m.HasUnread) ∧ n.HasUnread ∧
          e = n.refusal := by
  rw [assert_consumed_eq_first_refusal, first_refusal_eq_error]

/-! ## Reading a configuration -/

/-- Reading a section tree, from any mapping and path, by any calls of the readers on it and
on the sections they open. A section has consumed a key exactly when a call made on it
consumed the key: a reader of a value or of a list of sections got past looking the key up,
or opening the key as a nested section returned. The nested sections of a section, and its
lists of them, stay in the order they were opened. The final check on any section refuses
exactly when a section of its tree, in pre-order, has a key of its mapping left unread; the
refusal is a value error naming the first such section, its unread keys and the keys it
consumed. -/
theorem reading_consumes_and_check_names_first_unread (es : List (Value × Value)) (path : String) :
    (∀ (calls : List (List Step × Call)) (target : List Step) (k : String),
      (∃ m, ((ofEntries es path).afterCalls calls).sectionAt target = some m ∧ k ∈ m.consumed) ↔
        ∃ (before : List (List Step × Call)) (call : List Step × Call) (after : List (List Step × Call)),
          calls = before ++ call :: after ∧ call.1 = target ∧
            ∃ n, ((ofEntries es path).afterCalls before).sectionAt target = some n ∧
              call.2.Consumes n k) ∧
    (∀ (calls more : List (List Step × Call)) (target : List Step) (n m : Section),
      ((ofEntries es path).afterCalls calls).sectionAt target = some n →
      ((ofEntries es path).afterCalls (calls ++ more)).sectionAt target = some m →
        n.children.map (·.1) <+: m.children.map (·.1) ∧ n.items.map (·.1) <+: m.items.map (·.1)) ∧
    ∀ s : Section, (s.assertConsumed = .ok () ↔ ∀ n ∈ s.preorder, ¬ n.HasUnread) ∧
      ∀ e, s.assertConsumed = .error e ↔
        ∃ (before : List Section) (n : Section) (after : List Section),
          s.preorder = before ++ n :: after ∧ (∀ m ∈ before, ¬ m.HasUnread) ∧ n.HasUnread ∧
          e = .unknownKeys n.path n.unconsumedKeys n.consumedKeys ∧
          e.toFault = ⟨.valueError, "Unknown config keys under " ++
            (if n.path.isEmpty then "<root>" else n.path) ++ ": " ++ ", ".intercalate n.unconsumedKeys ++
            " (consumed: " ++ listOrNone n.consumedKeys ++ ")"⟩ := by
  have fresh := unread_of_entries es path
  refine ⟨consumed_after_calls fresh, fun calls more target n m old found =>
    keys_after_calls_prefix fresh calls more old found, fun s => ⟨?_, fun e => ?_⟩⟩
  · rw [assert_consumed_eq_first_refusal, first_refusal_eq_ok]
  · rw [assert_consumed_eq_error_iff]
    constructor
    · rintro ⟨before, n, after, split, clean, unread, rfl⟩
      exact ⟨before, n, after, split, clean, unread, rfl, rfl⟩
    · rintro ⟨before, n, after, split, clean, unread, rfl, -⟩
      exact ⟨before, n, after, split, clean, unread, rfl⟩

end Section

end Conveyor.Config

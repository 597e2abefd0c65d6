import Mathlib
import Conveyor.Proofs.Resolution
import Conveyor.Proofs.TreeCalls
import Conveyor.Proofs.ListReaders

/-!
# Binding texts

A binding text is cut at its first `=`: the text before it, trimmed, is the key and all that
follows is the value, kept as written. The key must not be empty, and a key with a plus sign
must have text on both sides of the first one, so an additive key always names a variable and a
suffix. Reading accepts exactly the texts of that shape (`Binding.parse_eq_ok_iff`); anything
else that is text is refused as a bad value, and only a value that is not text is refused as
being of the wrong type.

A key read this way holds no `=` and is already trimmed, so printing a binding as `key=value`
and reading the print gives the same binding, whatever the value holds: an overlay read from
texts reads back from its own texts (`Overlay.of_values_strings`).
-/

namespace Conveyor.Env

set_option autoImplicit false

open Conveyor.Text

/-! ## Cutting text at the first occurrence of a character -/

theorem split_first_of_not_mem {c : Char} {s : String} (absent : c ∉ s.toList) :
    splitFirst c s = (s, none) := by
  have none : s.toList.findIdx? (· == c) = none := by
    rw [List.findIdx?_eq_none_iff]
    intro x mem
    simpa using fun same : x = c => absent (same ▸ mem)
  simp [splitFirst, none]

theorem split_first_append {c : Char} {before : String} (absent : c ∉ before.toList) (after : String) :
    splitFirst c (before ++ String.singleton c ++ after) = (before, some after) := by
  have first : (before.toList ++ c :: after.toList).findIdx? (· == c) = some before.toList.length := by
    rw [List.findIdx?_append]
    have none : before.toList.findIdx? (· == c) = none := by
      rw [List.findIdx?_eq_none_iff]
      intro x mem
      simpa using fun same : x = c => absent (same ▸ mem)
    simp [none, List.findIdx?_cons]
  simp [splitFirst, first]

theorem split_first_cases (c : Char) (s : String) :
    (c ∉ s.toList ∧ splitFirst c s = (s, none)) ∨
      ∃ before after : String, c ∉ before.toList ∧ s = before ++ String.singleton c ++ after ∧
        splitFirst c s = (before, some after) := by
  by_cases mem : c ∈ s.toList
  · obtain ⟨l₁, l₂, absent, chars, -⟩ := List.exists_erase_eq mem
    have absent' : c ∉ (String.ofList l₁).toList := by simpa using absent
    have cut : s = String.ofList l₁ ++ String.singleton c ++ String.ofList l₂ := by
      apply String.ext
      simp [chars]
    exact .inr ⟨_, _, absent', cut, cut ▸ split_first_append absent' _⟩
  · exact .inl ⟨mem, split_first_of_not_mem mem⟩

theorem eq_of_first_split {c : Char} {a b a' b' : String} (absent : c ∉ a.toList)
    (absent' : c ∉ a'.toList)
    (same : a ++ String.singleton c ++ b = a' ++ String.singleton c ++ b') : a = a' ∧ b = b' := by
  have cut := split_first_append absent b
  rw [same, split_first_append absent'] at cut
  simp only [Prod.mk.injEq, Option.some.injEq] at cut
  exact ⟨cut.1.symm, cut.2.symm⟩

theorem mem_append_singleton (c : Char) (a b : String) : c ∈ (a ++ String.singleton c ++ b).toList := by
  simp

/-! ## What reading a binding accepts -/

/-- The shape of a binding key: not empty, and with text on both sides of its first plus sign
when it has one. -/
def KeyShaped (key : String) : Prop :=
  key ≠ "" ∧ ∀ name suffix : String, '+' ∉ name.toList → key = name ++ "+" ++ suffix →
    name ≠ "" ∧ suffix ≠ ""

/-- A binding read from a text: the text before its first `=` trims to the binding's key,
which has the shape of a key, and the binding's value is all that follows. -/
def Reads (text : String) (b : Binding) : Prop :=
  ∃ before : String, '=' ∉ before.toList ∧ text = before ++ "=" ++ b.value ∧
    b.key = strip before ∧ KeyShaped b.key

theorem additive_check_iff {key : String} (nonempty : key ≠ "") :
    ((splitAdditive key).1.isEmpty || (splitAdditive key).2 == some "") = false ↔ KeyShaped key := by
  unfold splitAdditive
  rcases split_first_cases '+' key with ⟨absent, cut⟩ | ⟨name, suffix, absent, rfl, cut⟩
  · -- without a plus sign only emptiness is checked
    rw [cut]
    refine ⟨fun _ => ⟨nonempty, fun name suffix _ spelled => ?_⟩, fun _ => by simpa using nonempty⟩
    exact absurd (spelled ▸ mem_append_singleton '+' name suffix) absent
  · -- with one, the text on each side of the first
    rw [cut]
    constructor
    · intro passes
      refine ⟨nonempty, fun name' suffix' absent' spelled => ?_⟩
      obtain ⟨rfl, rfl⟩ := eq_of_first_split absent absent' spelled
      simpa using passes
    · intro shaped
      obtain ⟨named, suffixed⟩ := shaped.2 name suffix absent rfl
      simpa using ⟨named, suffixed⟩

theorem parse_cut {text before value : String} (cut : splitFirst '=' text = (before, some value)) :
    Binding.parse (.str text) =
      if (strip before).isEmpty then .error (.emptyKey text)
      else if ((splitAdditive (strip before)).1.isEmpty || (splitAdditive (strip before)).2 == some "")
        then .error (.badAdditiveKey (strip before))
      else .ok ⟨strip before, value⟩ := by
  simp only [Binding.parse, cut]

theorem Binding.parse_eq_ok_iff (text : String) (b : Binding) :
    Binding.parse (.str text) = .ok b ↔ Reads text b := by
  rcases split_first_cases '=' text with ⟨absent, cut⟩ | ⟨before, value, absent, rfl, cut⟩
  · -- a text without `=` is refused, and has no place to cut
    simp only [Binding.parse, cut, reduceCtorEq, false_iff]
    rintro ⟨before, -, spelled, -⟩
    exact absent (spelled ▸ mem_append_singleton '=' before b.value)
  · rw [parse_cut cut]
    constructor
    · intro read
      by_cases empty : (strip before).isEmpty
      · simp [empty] at read
      · have nonempty : strip before ≠ "" := by simpa using empty
        by_cases passes : ((splitAdditive (strip before)).1.isEmpty ||
            (splitAdditive (strip before)).2 == some "") = false
        · simp only [empty, passes, Bool.false_eq_true, if_false, Except.ok.injEq] at read
          subst read
          exact ⟨before, absent, rfl, rfl, (additive_check_iff nonempty).mp passes⟩
        · simp [empty, passes] at read
    · rintro ⟨before', absent', spelled, keyed, shaped⟩
      obtain ⟨rfl, rfl⟩ := eq_of_first_split absent absent' spelled
      have passes := (additive_check_iff shaped.1).mpr shaped
      have empty : b.key.isEmpty = false := by simpa using shaped.1
      rw [← keyed]
      simp only [empty, passes, Bool.false_eq_true, if_false]

theorem Binding.parse_error_kind {v : Value} {e : BindingError} (refused : Binding.parse v = .error e) :
    e.toFault.kind = .typeError ↔ ∀ t, v ≠ .str t := by
  cases v with
  | str text =>
    simp only [ne_eq, Value.str.injEq, forall_eq', iff_false]
    rcases split_first_cases '=' text with ⟨-, cut⟩ | ⟨before, value, -, -, cut⟩
    · simp only [Binding.parse, cut, Except.error.injEq] at refused
      subst refused
      simp [BindingError.toFault, Fault.value]
    · rw [parse_cut cut] at refused
      split at refused
      · cases refused
        simp [BindingError.toFault, Fault.value]
      · split at refused
        · cases refused
          simp [BindingError.toFault, Fault.value]
        · cases refused
  | _ =>
    simp only [Binding.parse, Except.error.injEq] at refused
    subst refused
    simp [BindingError.toFault, Fault.type]

theorem split_additive_of_parse {v : Value} {b : Binding} (read : Binding.parse v = .ok b) :
    (splitAdditive b.key).1 ≠ "" ∧ (splitAdditive b.key).2 ≠ some "" := by
  cases v with
  | str text =>
    obtain ⟨-, -, -, -, shaped⟩ := (Binding.parse_eq_ok_iff text b).mp read
    have passes := (additive_check_iff shaped.1).mpr shaped
    simpa using passes
  | _ => cases read

/-! ## Printing a binding and reading it back -/

theorem strip_sublist (s : String) : (strip s).toList.Sublist s.toList := by
  simp only [strip, String.toList_ofList]
  have inner : ((s.toList.dropWhile isBlank).reverse.dropWhile isBlank).Sublist
      (s.toList.dropWhile isBlank).reverse := List.dropWhile_sublist _
  have outer := inner.reverse
  rw [List.reverse_reverse] at outer
  exact outer.trans (List.dropWhile_sublist _)

theorem Binding.parse_text {text : String} {b : Binding} (read : Binding.parse (.str text) = .ok b) :
    Binding.parse (.str b.text) = .ok b := by
  obtain ⟨before, absent, -, keyed, shaped⟩ := (Binding.parse_eq_ok_iff text b).mp read
  have keyAbsent : '=' ∉ b.key.toList := by
    rw [keyed]
    exact fun mem => absent ((strip_sublist before).subset mem)
  have trimmed : strip b.key = b.key := by
    rw [keyed, Config.strip_strip]
  exact (Binding.parse_eq_ok_iff _ b).mpr ⟨b.key, keyAbsent, rfl, trimmed.symm, shaped⟩

theorem Overlay.of_values_strings {items : List Value} {o : Overlay}
    (read : Overlay.ofValues items = .ok o) : Overlay.ofValues (o.strings.map .str) = .ok o := by
  unfold Overlay.ofValues at read ⊢
  cases parsed : items.mapM Binding.parse with
  | error e => simp [parsed, Except.map] at read
  | ok bindings =>
    simp only [parsed, Except.map, Except.ok.injEq] at read
    subst read
    have each : ∀ b ∈ bindings, Binding.parse (.str b.text) = .ok b := by
      intro b mem
      obtain ⟨item, -, itemRead⟩ := Config.Section.mem_of_map_m_eq_ok parsed b mem
      cases item with
      | str text => exact Binding.parse_text itemRead
      | _ => cases itemRead
    have reread : ((bindings.map Binding.text).map Value.str).mapM Binding.parse = .ok bindings := by
      apply Config.map_m_eq_ok_of_forall₂
      rw [List.map_map, List.forall₂_map_left_iff]
      exact List.forall₂_same.mpr each
    simp only [Overlay.strings, reread, Except.map]

/-- Reading binding texts: a value is refused as being of the wrong type exactly when it is not
text; text reads exactly when it has a binding's shape, as the binding whose key is the trimmed
text before the first `=` and whose value is the rest, and is refused as a bad value otherwise;
a key read this way names a variable and, when additive, a suffix; and an overlay read from
texts reads back from its own texts. -/
theorem Binding.reads_exactly_and_reprints :
    (∀ v : Value, (∃ e, Binding.parse v = .error e ∧ e.toFault.kind = .typeError) ↔
        ∀ t, v ≠ .str t) ∧
      (∀ (text : String) (b : Binding), Binding.parse (.str text) = .ok b ↔ Reads text b) ∧
      (∀ (text : String) (e : BindingError),
        Binding.parse (.str text) = .error e → e.toFault.kind = .valueError) ∧
      (∀ (v : Value) (b : Binding), Binding.parse v = .ok b →
        (splitAdditive b.key).1 ≠ "" ∧ (splitAdditive b.key).2 ≠ some "") ∧
      ∀ (items : List Value) (o : Overlay),
        Overlay.ofValues items = .ok o → Overlay.ofValues (o.strings.map .str) = .ok o := by
  refine ⟨fun v => ⟨?_, ?_⟩, Binding.parse_eq_ok_iff, ?_, fun _ _ => split_additive_of_parse,
    fun _ _ => Overlay.of_values_strings⟩
  · rintro ⟨e, refused, kind⟩
    exact (Binding.parse_error_kind refused).mp kind
  · intro notText
    cases v with
    | str t => exact absurd rfl (notText t)
    | _ => exact ⟨_, rfl, by simp [BindingError.toFault, Fault.type]⟩
  · intro text e refused
    have notType : e.toFault.kind ≠ .typeError := fun kind =>
      (Binding.parse_error_kind refused).mp kind text rfl
    cases e <;> simp_all [BindingError.toFault, Fault.value, Fault.type]

theorem Binding.reads_exactly_and_reprints_additive :
    Overlay.ofValues [.str " PATH+BIN = /opt/bin="] = .ok ⟨[⟨"PATH+BIN", " /opt/bin="⟩]⟩ ∧
      Overlay.ofValues ((Overlay.strings ⟨[⟨"PATH+BIN", " /opt/bin="⟩]⟩).map .str) =
        .ok ⟨[⟨"PATH+BIN", " /opt/bin="⟩]⟩ := by
  have read : Overlay.ofValues [.str " PATH+BIN = /opt/bin="] = .ok ⟨[⟨"PATH+BIN", " /opt/bin="⟩]⟩ := by
    rfl
  exact ⟨read, Binding.reads_exactly_and_reprints.2.2.2.2 _ _ read⟩

end Conveyor.Env

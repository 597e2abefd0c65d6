import Mathlib
import Conveyor.Pipeline.Plan

/-!
# The names and the words of a plan

A plan names each action after its place and its command (`01_cargo_test`), and splits
each command into words. Here: the name of an action is made of characters that are
neither blank nor a slash, so trimming keeps it and a name check passes it; its leading
digits give its place back (`name_index_action_name`), so the actions of a stage have
distinct names; and a command line that starts with a character that is not blank
splits into at least one word, when it splits at all (`Shell.split_ne_nil`).
-/

namespace Conveyor.Text

set_option autoImplicit false

theorem strip_of_unblank {s : String} (unblank : ∀ c ∈ s.toList, isBlank c = false) :
    strip s = s := by
  have kept : ∀ l : List Char, (∀ c ∈ l, isBlank c = false) → l.dropWhile isBlank = l := by
    intro l all
    cases l with
    | nil => rfl
    | cons c rest => simp [all c (by simp)]
  unfold strip
  rw [kept _ unblank, kept _ (by simpa using unblank), List.reverse_reverse, String.ofList_toList]

theorem push_word_unblank {current : List Char} {acc : List String}
    (inCurrent : ∀ c ∈ current, isBlank c = false) (inAcc : ∀ w ∈ acc, ∀ c ∈ w.toList, isBlank c = false) :
    ∀ w ∈ (if current.isEmpty then acc else String.ofList current.reverse :: acc),
      ∀ c ∈ w.toList, isBlank c = false := by
  split
  · exact inAcc
  · intro w mem
    rcases List.mem_cons.mp mem with rfl | inRest
    · simpa using inCurrent
    · exact inAcc w inRest

theorem words_go_unblank (cs current : List Char) (acc : List String)
    (inCurrent : ∀ c ∈ current, isBlank c = false) (inAcc : ∀ w ∈ acc, ∀ c ∈ w.toList, isBlank c = false) :
    ∀ w ∈ words.go cs current acc, ∀ c ∈ w.toList, isBlank c = false := by
  induction cs generalizing current acc with
  | nil => simpa [words.go] using push_word_unblank inCurrent inAcc
  | cons c rest ih =>
    unfold words.go
    split
    · exact ih [] _ (by simp) (push_word_unblank inCurrent inAcc)
    · rename_i blank
      refine ih (c :: current) acc ?_ inAcc
      intro d mem
      rcases List.mem_cons.mp mem with rfl | inCurrent'
      · simpa using blank
      · exact inCurrent d inCurrent'

theorem words_unblank (s : String) : ∀ w ∈ words s, ∀ c ∈ w.toList, isBlank c = false :=
  words_go_unblank s.toList [] [] (by simp) (by simp)

theorem head_unblank {s : String} (stripped : strip s = s) (nonempty : s ≠ "") :
    ∃ c rest, s.toList = c :: rest ∧ isBlank c = false := by
  cases chars : s.toList with
  | nil => exact absurd (String.toList_eq_nil_iff.mp chars) nonempty
  | cons c rest =>
    refine ⟨c, rest, rfl, ?_⟩
    cases blank : isBlank c
    · rfl
    · -- stripping would drop the blank first character, so it would shorten the text
      have shorter : (strip s).toList.length ≤ rest.length := by
        simp only [strip, String.toList_ofList, List.length_reverse, chars,
          List.dropWhile_cons_of_pos blank]
        calc _ ≤ ((rest.dropWhile isBlank).reverse).length := (List.dropWhile_sublist _).length_le
          _ ≤ rest.length := by simpa using (List.dropWhile_sublist _).length_le
      rw [stripped, chars] at shorter
      simp at shorter

theorem is_blank_of_is_separator {c : Char} (separates : Shell.isSeparator c = true) : isBlank c = true :=
  is_blank_of_is_whitespace c (by simpa [Shell.isSeparator, Char.isWhitespace] using separates)

theorem erase_dups_eq_nil {l : List String} : l.eraseDups = [] ↔ l = [] := by
  cases l with
  | nil => simp
  | cons a rest => simp [List.eraseDups_cons]

theorem duplicates_eq_nil {names : List String} : duplicates names = [] ↔ names.Nodup := by
  unfold duplicates sortTexts
  rw [← List.length_eq_zero_iff, List.length_mergeSort, List.length_eq_zero_iff, erase_dups_eq_nil,
    List.filter_eq_nil_iff, List.nodup_iff_count_le_one]
  constructor
  · intro few a
    by_cases mem : a ∈ names
    · simpa using few a mem
    · simp [List.count_eq_zero_of_not_mem mem]
  · intro few a _
    simpa using few a

theorem strip_char_subset (d : Char) (w : String) : ∀ c ∈ (stripChar d w).toList, c ∈ w.toList := by
  intro c mem
  simp only [stripChar, String.toList_ofList, List.mem_reverse] at mem
  have inReversed := (List.dropWhile_sublist _).subset mem
  exact (List.dropWhile_sublist _).subset (List.mem_reverse.mp inReversed)

end Conveyor.Text

namespace Conveyor.Text.Shell

set_option autoImplicit false

/-- A reader that has started a word, or has finished one: whatever follows, a line read to
its end holds a word. -/
def Started (m : Mode) (token : List Char) (quoted : Bool) (acc : List String) : Prop :=
  acc ≠ [] ∨ (m ≠ .between ∧ (m = .word → token ≠ [] ∨ quoted = true))

theorem read_words_ne_nil {ws : List String} :
    ∀ (cs : List Char) (m : Mode) (token : List Char) (quoted : Bool) (acc : List String),
      Started m token quoted acc → readWords m token quoted acc cs = .ok ws → ws ≠ [] := by
  intro cs m token quoted acc started run
  fun_induction readWords m token quoted acc cs
  case case1 acc =>
    cases run
    simpa [Started] using started
  case case7 token quoted acc =>
    cases run
    split
    · rename_i bare
      simp only [Bool.and_eq_true, List.isEmpty_iff, Bool.not_eq_eq_eq_not, Bool.not_true] at bare
      simpa [Started, bare] using started
    · simp
  case case8 token quoted acc c rest _ ih =>
    refine ih (.inl ?_) run
    split
    · rename_i bare
      simp only [Bool.and_eq_true, List.isEmpty_iff, Bool.not_eq_eq_eq_not, Bool.not_true] at bare
      simpa [Started, bare] using started
    · simp
  all_goals simp_all [Started]

/-- A command line that starts with a character that is not blank splits into at least one
word, when it splits at all. -/
theorem split_ne_nil {command : String} {ws : List String} (stripped : strip command = command)
    (nonempty : command ≠ "") (split : Shell.split command = .ok ws) : ws ≠ [] := by
  obtain ⟨c, rest, chars, unblank⟩ := head_unblank stripped nonempty
  have lead : isSeparator c = false := by
    cases separates : isSeparator c
    · rfl
    · rw [is_blank_of_is_separator separates] at unblank
      cases unblank
  unfold Shell.split at split
  rw [chars, readWords] at split
  simp only [lead, Bool.false_eq_true, if_false] at split
  repeat' split at split
  all_goals exact read_words_ne_nil _ _ _ _ _ (by simp [Started]) split

end Conveyor.Text.Shell

namespace Conveyor.Pipeline

set_option autoImplicit false

open Conveyor.Text

def NameChar (c : Char) : Prop := isBlank c = false ∧ c ≠ '/'

theorem name_char_of_is_digit {c : Char} (digit : c.isDigit = true) : NameChar c := by
  simp only [Char.isDigit, Bool.and_eq_true, decide_eq_true_eq] at digit
  have low : 48 ≤ c.toNat := digit.1
  have high : c.toNat ≤ 57 := digit.2
  refine ⟨?_, fun slash => ?_⟩
  · simp only [isBlank, Bool.or_eq_false_iff, Bool.and_eq_false_iff, decide_eq_false_iff_not,
      beq_eq_false_iff_ne, ne_eq]
    omega
  · subst slash
    simp at low

theorem mem_intercalate_of {sep : List Char} {parts : List (List Char)} {P : Char → Prop}
    (inSep : ∀ c ∈ sep, P c) (inParts : ∀ part ∈ parts, ∀ c ∈ part, P c) :
    ∀ c ∈ sep.intercalate parts, P c := by
  induction parts with
  | nil => simp
  | cons part rest ih =>
    cases rest with
    | nil => simpa using inParts part (by simp)
    | cons next more =>
      rw [List.intercalate_cons_cons]
      intro c mem
      simp only [List.mem_append] at mem
      rcases mem with (inPart | inSep') | inRest
      · exact inParts part (by simp) c inPart
      · exact inSep c inSep'
      · exact ih (fun p mem => inParts p (List.mem_cons_of_mem _ mem)) c inRest

theorem command_slug_name_chars (command : String) : ∀ c ∈ (commandSlug command).toList, NameChar c := by
  unfold commandSlug
  rw [String.toList_intercalate]
  apply mem_intercalate_of
  · rw [show "_".toList = ['_'] from rfl]
    rintro c (_ | ⟨_, ⟨⟩⟩)
    exact ⟨by decide, by decide⟩
  · simp only [List.mem_map, List.mem_filterMap]
    rintro _ ⟨part, ⟨w, inWords, made⟩, rfl⟩ c mem
    split at made
    · cases made
    · cases made
      simp only [String.toList_map, List.mem_map] at mem
      obtain ⟨d, inCore, rfl⟩ := mem
      have unblank := words_unblank command w (List.mem_of_mem_take inWords) d (strip_char_subset _ _ d inCore)
      by_cases slash : d = '/'
      · subst slash
        exact ⟨by decide, by decide⟩
      · simp only [beq_iff_eq, slash, if_false]
        exact ⟨unblank, slash⟩

theorem pad_index_to_list (n : Nat) :
    (padIndex n).toList = List.replicate (2 - (Nat.toDigits 10 n).length) '0' ++ Nat.toDigits 10 n := by
  have sign : ¬((n : Int) < 0) := by omega
  simp [padIndex, sign, Nat.repr_eq_ofList_toDigits]

theorem pad_index_is_digit (n : Nat) : ∀ c ∈ (padIndex n).toList, c.isDigit = true := by
  rw [pad_index_to_list]
  intro c mem
  rcases List.mem_append.mp mem with zeros | digits
  · rw [List.eq_of_mem_replicate zeros]
    decide
  · exact Nat.isDigit_of_mem_toDigits (by decide) (by decide) digits

theorem action_name_name_chars (n : Nat) (command : String) :
    ∀ c ∈ (actionName n command).toList, NameChar c := by
  intro c mem
  simp only [actionName, String.toList_append, List.mem_append] at mem
  rcases mem with (padded | underscore) | named
  · exact name_char_of_is_digit (pad_index_is_digit n c padded)
  · rw [show "_".toList = ['_'] from rfl, List.mem_singleton] at underscore
    subst underscore
    exact ⟨by decide, by decide⟩
  · split at named
    · rw [show "command".toList = ['c', 'o', 'm', 'm', 'a', 'n', 'd'] from rfl] at named
      simp only [List.mem_cons, List.not_mem_nil, or_false] at named
      rcases named with rfl | rfl | rfl | rfl | rfl | rfl | rfl <;> exact ⟨by decide, by decide⟩
    · exact command_slug_name_chars command c named

def nameIndex (name : String) : Nat :=
  Nat.ofDigitChars 10 (name.toList.takeWhile (· != '_')) 0

theorem name_index_action_name (n : Nat) (command : String) : nameIndex (actionName n command) = n := by
  have digits : ∀ c ∈ (padIndex n).toList, (c != '_') = true := by
    intro c mem
    have digit := pad_index_is_digit n c mem
    simp only [bne_iff_ne, ne_eq]
    rintro rfl
    simp at digit
  unfold nameIndex actionName
  rw [String.toList_append, String.toList_append, List.append_assoc,
    List.takeWhile_append_of_pos digits, show "_".toList = ['_'] from rfl, List.singleton_append,
    List.takeWhile_cons_of_neg (by decide), List.append_nil, pad_index_to_list,
    Nat.ofDigitChars_append, Nat.ofDigitChars_replicate_zero, Nat.mul_zero, Nat.ofDigitChars_ten_toDigits]

theorem strip_action_name (n : Nat) (command : String) :
    strip (actionName n command) = actionName n command :=
  strip_of_unblank fun c mem => (action_name_name_chars n command c mem).1

theorem slash_not_mem_action_name (n : Nat) (command : String) : '/' ∉ (actionName n command).toList :=
  fun mem => (action_name_name_chars n command '/' mem).2 rfl

end Conveyor.Pipeline

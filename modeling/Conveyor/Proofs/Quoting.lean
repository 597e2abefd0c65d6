import Mathlib
import Conveyor.Proofs.Planning

/-!
# Quoting words for a command line

A command line joined from words splits back into the same words, whatever characters the
words hold (`split_join`). A word of safe characters stands bare and is read as a plain word;
any other word stands between single quotes, where an inner single quote closes the quotes,
stands alone between double quotes and opens them again; the empty word is a pair of quotes,
which the reader keeps as an empty word.

A joined line starts and ends with a quote or a safe character, so trimming keeps it, and the
name an action takes from it when none is given passes the name check. An action made from the
command line of another action therefore has that action's words (`command_line_splits_back`).
-/

namespace Conveyor.Text

set_option autoImplicit false

def Framed (l : List Char) : Prop :=
  l ≠ [] ∧ (∀ c ∈ l.head?, isBlank c = false) ∧ ∀ c ∈ l.getLast?, isBlank c = false

theorem drop_while_of_head {p : Char → Bool} {l : List Char} (head : ∀ c ∈ l.head?, p c = false) :
    l.dropWhile p = l := by
  cases l with
  | nil => rfl
  | cons c rest => simp [head c rfl]

theorem strip_of_framed {s : String} (framed : Framed s.toList) : strip s = s := by
  obtain ⟨-, first, last⟩ := framed
  have back : ∀ c ∈ s.toList.reverse.head?, isBlank c = false := by
    simpa [List.head?_reverse] using last
  unfold strip
  rw [drop_while_of_head first, drop_while_of_head back, List.reverse_reverse, String.ofList_toList]

theorem Framed.ne_empty {s : String} (framed : Framed s.toList) : s ≠ "" := by
  intro empty
  exact framed.1 (by simp [empty])

theorem Framed.append_space {a b : List Char} (fa : Framed a) (fb : Framed b) :
    Framed (a ++ ' ' :: b) := by
  obtain ⟨aNonempty, aFirst, -⟩ := fa
  obtain ⟨bNonempty, -, bLast⟩ := fb
  obtain ⟨c, cs, rfl⟩ := List.exists_cons_of_ne_nil aNonempty
  obtain ⟨d, ds, bEq⟩ := List.exists_cons_of_ne_nil bNonempty
  refine ⟨by simp, by simpa using aFirst, ?_⟩
  have lastOfB : (c :: cs ++ ' ' :: b).getLast? = b.getLast? := by
    rw [List.getLast?_append, bEq]
    simp [List.getLast?_cons]
  rw [lastOfB]
  exact bLast

theorem Framed.map {f : Char → Char} (keeps : ∀ c, isBlank c = false → isBlank (f c) = false)
    {l : List Char} (framed : Framed l) : Framed (l.map f) := by
  obtain ⟨nonempty, first, last⟩ := framed
  refine ⟨by simpa using nonempty, ?_, ?_⟩
  · intro c mem
    obtain ⟨c', mem', rfl⟩ := Option.mem_map.mp (by simpa [List.head?_map] using mem)
    exact keeps c' (first c' mem')
  · intro c mem
    obtain ⟨c', mem', rfl⟩ := Option.mem_map.mp (by simpa [List.getLast?_map] using mem)
    exact keeps c' (last c' mem')

end Conveyor.Text

namespace Conveyor.Text.Shell

set_option autoImplicit false

theorem is_safe_plain {c : Char} (safe : isSafe c = true) :
    isSeparator c = false ∧ c ≠ '"' ∧ c ≠ '\'' ∧ c ≠ '\\' := by
  refine ⟨?_, ?_, ?_, ?_⟩
  · cases separates : isSeparator c
    · rfl
    · have named : c = ' ' ∨ c = '\t' ∨ c = '\r' ∨ c = '\n' := by
        simpa [isSeparator, or_assoc] using separates
      rcases named with rfl | rfl | rfl | rfl <;> revert safe <;> decide
  all_goals rintro rfl; revert safe; decide

theorem is_safe_unblank {c : Char} (safe : isSafe c = true) : isBlank c = false := by
  have spelled : "_@%+=:,./-".toList = ['_', '@', '%', '+', '=', ':', ',', '.', '/', '-'] := rfl
  simp only [isSafe, Bool.or_eq_true, Bool.and_eq_true, decide_eq_true_eq, Char.le_def,
    UInt32.le_iff_toNat_le, List.contains_iff_mem, Char.reduceVal, UInt32.reduceToNat,
    Char.toNat_val, spelled] at safe
  rcases safe with ((range | range) | range) | mark
  rotate_left 3
  · simp only [List.mem_cons, List.not_mem_nil, or_false] at mark
    rcases mark with rfl | rfl | rfl | rfl | rfl | rfl | rfl | rfl | rfl | rfl <;> decide
  -- a letter or a digit lies below every blank code point but the ASCII controls and space
  all_goals
    simp only [isBlank, Bool.or_eq_false_iff, Bool.and_eq_false_iff, decide_eq_false_iff_not,
      beq_eq_false_iff_ne, ne_eq]
    omega

theorem read_words_safe {cs : List Char} (safe : ∀ c ∈ cs, isSafe c = true)
    (token : List Char) (quoted : Bool) (acc : List String) (rest : List Char) :
    readWords .word token quoted acc (cs ++ rest) =
      readWords .word (cs.reverse ++ token) quoted acc rest := by
  induction cs generalizing token with
  | nil => rfl
  | cons c cs ih =>
    obtain ⟨plain, notDouble, notSingle, notEscape⟩ := is_safe_plain (safe c List.mem_cons_self)
    rw [List.cons_append, readWords]
    simp only [plain, beq_iff_eq, notDouble, notSingle, notEscape, Bool.false_eq_true, if_false]
    rw [ih fun d mem => safe d (List.mem_cons_of_mem c mem)]
    simp

theorem read_words_quoted_char (c : Char) (token : List Char) (acc : List String) (rest : List Char) :
    readWords .single token true acc
        ((if c == '\'' then "'\"'\"'" else String.ofList [c]).toList ++ rest) =
      readWords .single (c :: token) true acc rest := by
  by_cases single : c = '\''
  · subst single
    have spelled : "'\"'\"'".toList = ['\'', '"', '\'', '"', '\''] := by decide
    simp only [beq_self_eq_true, if_true, spelled, List.cons_append, List.nil_append, readWords,
      isSeparator]
    simp
  · simp [single, readWords]

theorem read_words_single_quoted (cs token : List Char) (acc : List String) (rest : List Char) :
    readWords .single token true acc
        ((cs.map fun c => if c == '\'' then "'\"'\"'" else String.ofList [c]).flatMap String.toList ++
          rest) =
      readWords .single (cs.reverse ++ token) true acc rest := by
  induction cs generalizing token with
  | nil => rfl
  | cons c cs ih =>
    rw [List.map_cons, List.flatMap_cons, List.append_assoc, read_words_quoted_char, ih]
    simp

theorem kept_word {w : String} {quoted : Bool} (kept : w = "" → quoted = true) :
    (w.toList.reverse.isEmpty && !quoted) = false := by
  simpa using kept

theorem read_words_quote (w : String) (token : List Char) (quoted : Bool) (acc : List String)
    (rest : List Char) :
    ∃ q, (w = "" → q = true) ∧
      readWords .between token quoted acc ((quote w).toList ++ rest) =
        readWords .word w.toList.reverse q acc rest := by
  unfold quote
  split
  · -- the empty word is a pair of single quotes
    rename_i empty
    obtain rfl : w = "" := by simpa using empty
    refine ⟨true, fun _ => rfl, ?_⟩
    have spelled : "''".toList = ['\'', '\''] := rfl
    simp [spelled, readWords, isSeparator]
  · rename_i nonempty
    split
    · -- a word of safe characters stands bare
      rename_i allSafe
      refine ⟨false, fun empty => absurd empty (by simpa using nonempty), ?_⟩
      have safe : ∀ c ∈ w.toList, isSafe c = true := by simpa using allSafe
      obtain ⟨c, cs, chars⟩ := List.exists_cons_of_ne_nil (by simpa using nonempty : w.toList ≠ [])
      rw [chars] at safe ⊢
      obtain ⟨plain, notDouble, notSingle, notEscape⟩ := is_safe_plain (safe c List.mem_cons_self)
      rw [List.cons_append, readWords]
      simp only [plain, beq_iff_eq, notDouble, notSingle, notEscape, Bool.false_eq_true, if_false]
      rw [read_words_safe fun d mem => safe d (List.mem_cons_of_mem c mem)]
      simp
    · -- any other word goes between single quotes
      refine ⟨true, fun _ => rfl, ?_⟩
      simp only [String.toList_append, String.toList_join, List.append_assoc]
      have opening : "'".toList = ['\''] := rfl
      have notSeparator : isSeparator '\'' = false := by decide
      have notEscape : ('\'' == '\\') = false := by decide
      have notDouble : ('\'' == '"') = false := by decide
      rw [opening, List.singleton_append, readWords]
      simp only [notSeparator, notEscape, notDouble, beq_self_eq_true, Bool.false_eq_true, if_false,
        if_true]
      rw [read_words_single_quoted, List.singleton_append, readWords]
      simp

theorem read_words_word_end (w : String) {q : Bool} (kept : w = "" → q = true) (acc : List String) :
    readWords .word w.toList.reverse q acc [] = .ok (w :: acc).reverse := by
  rw [readWords, kept_word kept]
  simp

theorem read_words_word_space (w : String) {q : Bool} (kept : w = "" → q = true)
    (acc : List String) (rest : List Char) :
    readWords .word w.toList.reverse q acc (' ' :: rest) = readWords .between [] false (w :: acc) rest := by
  rw [readWords, kept_word kept]
  simp [isSeparator]

theorem join_cons_cons (w w' : String) (ws : List String) :
    (join (w :: w' :: ws)).toList = (quote w).toList ++ ' ' :: (join (w' :: ws)).toList := by
  simp [join, String.intercalate_cons_cons]

theorem read_words_join (ws acc : List String) :
    readWords .between [] false acc (join ws).toList = .ok (acc.reverse ++ ws) := by
  induction ws generalizing acc with
  | nil => simp [join, readWords]
  | cons w ws ih =>
    cases ws with
    | nil =>
      obtain ⟨q, kept, read⟩ := read_words_quote w [] false acc []
      rw [List.append_nil] at read
      simp only [join, List.map_cons, List.map_nil, String.intercalate_singleton]
      rw [read, read_words_word_end w kept]
      simp
    | cons w' ws =>
      obtain ⟨q, kept, read⟩ := read_words_quote w [] false acc (' ' :: (join (w' :: ws)).toList)
      rw [join_cons_cons, read, read_words_word_space w kept, ih]
      simp

theorem split_join (ws : List String) : split (join ws) = .ok ws := by
  unfold split
  simpa using read_words_join ws []

theorem quote_framed (w : String) : Framed (quote w).toList := by
  unfold quote
  split
  · have spelled : "''".toList = ['\'', '\''] := rfl
    rw [spelled]
    exact ⟨by simp, by simp [isBlank], by simp [isBlank]⟩
  · rename_i nonempty
    split
    · rename_i allSafe
      have safe : ∀ c ∈ w.toList, isSafe c = true := by simpa using allSafe
      refine ⟨by simpa using nonempty, ?_, ?_⟩
      · intro c mem
        exact is_safe_unblank (safe c (List.mem_of_mem_head? mem))
      · intro c mem
        exact is_safe_unblank (safe c (List.mem_of_mem_getLast? mem))
    · refine ⟨by simp, ?_, ?_⟩
      · intro c mem
        simp only [String.toList_append, List.append_assoc] at mem
        have opening : "'".toList = ['\''] := rfl
        rw [opening, List.singleton_append, List.head?_cons, Option.mem_some_iff] at mem
        subst mem
        simp [isBlank]
      · intro c mem
        have closing : "'".toList = ['\''] := rfl
        rw [String.toList_append, closing, List.getLast?_append, List.getLast?_singleton,
          Option.some_or, Option.mem_some_iff] at mem
        subst mem
        simp [isBlank]

theorem join_framed {ws : List String} (nonempty : ws ≠ []) : Framed (join ws).toList := by
  induction ws with
  | nil => exact absurd rfl nonempty
  | cons w ws ih =>
    cases ws with
    | nil => simpa [join] using quote_framed w
    | cons w' ws =>
      rw [join_cons_cons]
      exact (quote_framed w).append_space (ih (List.cons_ne_nil _ _))

end Conveyor.Text.Shell

namespace Conveyor.Pipeline

set_option autoImplicit false

open Conveyor.Text Conveyor.Config

theorem underscore_slashes_to_list (s : String) :
    (underscoreSlashes s).toList = s.toList.map fun c => if c == '/' then '_' else c := by
  simp [underscoreSlashes]

theorem slash_not_mem_underscore_slashes (s : String) : '/' ∉ (underscoreSlashes s).toList := by
  rw [underscore_slashes_to_list]
  intro mem
  obtain ⟨c, -, turned⟩ := List.mem_map.mp mem
  by_cases slash : c = '/'
  · simp [slash] at turned
  · simp [slash] at turned

theorem underscore_slashes_join_trimmed {ws : List String} (nonempty : ws ≠ []) :
    Trimmed (underscoreSlashes (Shell.join ws)) := by
  have keeps : ∀ c, isBlank c = false → isBlank (if c == '/' then '_' else c) = false := by
    intro c unblank
    by_cases slash : c = '/'
    · simp [slash, isBlank]
    · simpa [slash] using unblank
  have framed : Framed (underscoreSlashes (Shell.join ws)).toList := by
    rw [underscore_slashes_to_list]
    exact (Shell.join_framed nonempty).map keeps
  exact ⟨strip_of_framed framed, framed.ne_empty⟩

theorem of_command_command {a : Action} (words : a.argv ≠ []) :
    Action.ofCommand a.command .null = .ok ⟨underscoreSlashes a.command, a.argv⟩ := by
  have trimmedLine : strip (Shell.join a.argv) = Shell.join a.argv :=
    strip_of_framed (Shell.join_framed words)
  have checked := require_name_of_trimmed (underscore_slashes_join_trimmed words) "Action name"
  rw [if_neg (slash_not_mem_underscore_slashes _)] at checked
  have listed : (a.argv.map Value.str).isEmpty = false := by simpa using words
  have unsplit : a.argv.isEmpty = false := by simpa using words
  simp only [Action.ofCommand, Action.command, Shell.split_join, unsplit, Bool.false_eq_true,
    if_false, Value.isFalsy, if_true, pure_bind, Action.make, trimmedLine, checked, listed,
    check_argv_strs]
  rfl

/-- Joining words into a command line and splitting it again gives the words back, for every
list of words; so an action made from another action's command line has that action's words. -/
theorem command_line_splits_back :
    (∀ ws : List String, Shell.split (Shell.join ws) = .ok ws) ∧
      ∀ a : Action, a.argv ≠ [] → ∃ b, Action.ofCommand a.command .null = .ok b ∧ b.argv = a.argv :=
  ⟨Shell.split_join, fun _ words => ⟨_, of_command_command words, rfl⟩⟩

theorem command_line_splits_back_quoted :
    (Action.argv ⟨"a", ["it's", "", "x y"]⟩) ≠ [] ∧
      ∃ b, Action.ofCommand (Action.command ⟨"a", ["it's", "", "x y"]⟩) .null = .ok b ∧
        b.argv = ["it's", "", "x y"] :=
  ⟨by simp, command_line_splits_back.2 ⟨"a", ["it's", "", "x y"]⟩ (by simp)⟩

end Conveyor.Pipeline

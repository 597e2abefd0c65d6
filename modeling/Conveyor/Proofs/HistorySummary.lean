import Mathlib
import Conveyor.Proofs.HistoryRows
import Conveyor.Proofs.SortMap

/-!
# The summary of a run history

Over history rows whose track names, creation times and statuses are texts, the summary has
one line per name, in the order of the names. A line counts the rows of its name and those
whose status is `succeeded`, and its last status is that of the last of the latest rows of
its name: no row of the name is later, and the rows after it in the history are earlier.

The rows are put in creation order by the library's stable merge sort
(`order_by_creation_texts`). A stable sort keeps the rows of each name in the order it gives
them all (`filter_merge_sort`), and its last item is the last of the latest
(`last_of_latest_of_get_last?_merge_sort`). Grouping folds the rows into one group per name, each
holding the rows of its name last first (`foldl_add_to_group_texts`), and sorts the groups by
name (`group_by_texts`).
-/

namespace Conveyor.Table

set_option autoImplicit false

/-! ## Stable sorting by a key -/

section Stable

variable {α κ : Type} [LinearOrder κ] {key : α → κ}

theorem filter_merge_sort (p : α → Bool) (xs : List α) :
    (xs.mergeSort fun a b => decide (key a ≤ key b)).filter p =
      (xs.filter p).mergeSort fun a b => decide (key a ≤ key b) := by
  have sortedAll : Ascending key (xs.mergeSort fun a b => decide (key a ≤ key b)) :=
    ascending_merge_sort xs
  have kept : Ascending key ((xs.mergeSort fun a b => decide (key a ≤ key b)).filter p) :=
    List.Pairwise.sublist List.filter_sublist sortedAll
  refine kept.eq_of_same_classes (ascending_merge_sort _) fun k => ?_
  have sorted : SameClasses key (xs.mergeSort fun a b => decide (key a ≤ key b)) xs :=
    same_classes_merge_sort xs
  have filtered : SameClasses key ((xs.filter p).mergeSort fun a b => decide (key a ≤ key b))
      (xs.filter p) :=
    same_classes_merge_sort _
  rw [filtered k, List.filter_comm, sorted k, List.filter_comm]

/-- `r` is the last of the latest items: no item has a greater key, and every item after `r`
a smaller one. -/
def LastOfLatest (key : α → κ) (items : List α) (r : α) : Prop :=
  ∃ front back : List α, items = front ++ r :: back ∧ (∀ q ∈ front, key q ≤ key r) ∧
    ∀ q ∈ back, key q < key r

theorem split_of_get_last?_filter {p : α → Bool} {xs : List α} {r : α}
    (last : (xs.filter p).getLast? = some r) :
    ∃ front back : List α, xs = front ++ r :: back ∧ ∀ q ∈ back, p q = false := by
  have first : (xs.reverse.filter p).head? = some r := by
    rwa [List.filter_reverse, List.head?_reverse]
  obtain ⟨rest, cons⟩ := List.head?_eq_some_iff.mp first
  obtain ⟨later, earlier, split, skipped, -, -⟩ := List.filter_eq_cons_iff.mp cons
  refine ⟨earlier.reverse, later.reverse, ?_, fun q mem => ?_⟩
  · rw [← List.reverse_reverse xs, split]
    simp
  · simpa using skipped q (List.mem_reverse.mp mem)

theorem last_of_latest_of_get_last?_merge_sort {xs : List α} {r : α}
    (last : (xs.mergeSort fun a b => decide (key a ≤ key b)).getLast? = some r) :
    LastOfLatest key xs r := by
  have top : ∀ q ∈ xs, key q ≤ key r := fun q mem =>
    (ascending_merge_sort xs).le_of_get_last? last (List.mem_mergeSort.mpr mem)
  have lastOfKey : (xs.filter fun a => decide (key a = key r)).getLast? = some r := by
    have sorted : SameClasses key (xs.mergeSort fun a b => decide (key a ≤ key b)) xs :=
      same_classes_merge_sort xs
    obtain ⟨init, split⟩ := List.getLast?_eq_some_iff.mp last
    rw [← sorted (key r), split]
    simp
  obtain ⟨front, back, split, later⟩ := split_of_get_last?_filter lastOfKey
  refine ⟨front, back, split, fun q mem => top q (by simp [split, mem]), fun q mem => ?_⟩
  have below : key q ≤ key r := top q (by simp [split, mem])
  have other : key q ≠ key r := by simpa using later q mem
  exact lt_of_le_of_ne below other

end Stable

/-! ## Cells that are texts -/

theorem order_str (a b : String) : order (.str a) (.str b) = .ok (compare a b) := by
  simp only [order, pure, Except.pure, Except.ok.injEq]
  rcases lt_trichotomy a b with below | rfl | above
  · simp [below, compare_lt_iff_lt.mpr below]
  · simp
  · simp [not_lt.mpr above.le, above.ne', compare_gt_iff_gt.mpr above]

theorem key_before_str (a b : String) : keyBefore (.str a) (.str b) = decide (a < b) := by
  simp only [keyBefore, keyRank, numberView, order_str, bne_self_eq_false, Bool.false_eq_true,
    if_false]
  rcases lt_trichotomy a b with below | rfl | above
  · simp [compare_lt_iff_lt.mpr below, below]
  · simp
  · simp [compare_gt_iff_gt.mpr above, not_lt.mpr above.le]

theorem group_order_str (a b : String) :
    (keyBefore (.str a) (.str b) || !keyBefore (.str b) (.str a)) = decide (a ≤ b) := by
  rw [key_before_str, key_before_str]
  by_cases below : b < a
  · simp [below, not_lt.mpr below.le, not_le.mpr below]
  · simp [below, not_lt.mp below]

/-! ## Grouping by text keys -/

section Grouping

variable {α : Type} {key : α → Value} {name : α → String}

theorem foldl_m_eq_ok_foldl {β ε : Type} {f : β → α → Except ε β} {g : β → α → β} {rows : List α}
    (each : ∀ acc, ∀ r ∈ rows, f acc r = .ok (g acc r)) (init : β) :
    rows.foldlM f init = .ok (rows.foldl g init) := by
  induction rows generalizing init with
  | nil => rfl
  | cons r rest ih =>
    rw [List.foldlM_cons, each init r List.mem_cons_self, List.foldl_cons]
    exact ih (fun acc q mem => each acc q (List.mem_cons_of_mem r mem)) _

def namedGroups (name : α → String) (names : List String) (rows : List α) :
    List (Value × List α) :=
  names.map fun n => (.str n, (rows.filter fun r => name r = n).reverse)

theorem add_to_group_map {L : String → List α} {ns : List String} (distinct : ns.Nodup)
    (m : String) (row : α) :
    addToGroup (.str m) row (ns.map fun n => (.str n, L n)) =
      if m ∈ ns then ns.map fun n => (.str n, if n = m then row :: L n else L n)
      else ns.map (fun n => (.str n, L n)) ++ [(.str m, [row])] := by
  induction ns with
  | nil => rfl
  | cons n rest ih =>
    obtain ⟨fresh, distinctRest⟩ := List.nodup_cons.mp distinct
    rw [List.map_cons, addToGroup]
    by_cases equal : n = m
    · subst equal
      have untouched : (rest.map fun k => (Value.str k, if k = n then row :: L k else L k)) =
          rest.map fun k => (.str k, L k) :=
        List.map_congr_left fun k mem => by simp [show k ≠ n from fun h => fresh (h ▸ mem)]
      simp [Table.same, untouched]
    · have differ : same (.str n) (.str m) = false := by simp [Table.same, equal]
      simp only [differ, Bool.false_eq_true, if_false]
      rw [ih distinctRest]
      by_cases inRest : m ∈ rest
      · simp [inRest, equal]
      · simp [inRest, Ne.symm equal]

theorem foldl_add_to_group_texts (rows : List α) (named : ∀ r ∈ rows, key r = .str (name r)) :
    ∃ ns : List String, ns.Nodup ∧ (∀ n, n ∈ ns ↔ ∃ r ∈ rows, name r = n) ∧
      rows.foldl (fun acc r => addToGroup (key r) r acc) [] = namedGroups name ns rows := by
  -- the fold adds the rows one by one at the end, so the induction grows the rows there
  induction rows using List.reverseRecOn with
  | nil => exact ⟨[], List.nodup_nil, by simp, rfl⟩
  | append_singleton rows row ih =>
    obtain ⟨ns, distinct, names, folded⟩ := ih fun r mem => named r (List.mem_append_left _ mem)
    have grown : ∀ n, ((rows ++ [row]).filter fun r => name r = n).reverse =
        if n = name row then row :: (rows.filter fun r => name r = n).reverse
        else (rows.filter fun r => name r = n).reverse := by
      intro n
      by_cases mine : n = name row
      · simp [mine, List.filter_append]
      · simp [mine, List.filter_append, Ne.symm mine]
    rw [List.foldl_append, folded, List.foldl_cons, List.foldl_nil, named row (by simp),
      namedGroups, add_to_group_map distinct]
    have met : ∀ n, (∃ r ∈ rows ++ [row], name r = n) ↔ n ∈ ns ∨ name row = n := by
      intro n
      simp only [List.mem_append, List.mem_singleton, or_and_right, exists_or, exists_eq_left,
        names n]
    by_cases old : name row ∈ ns
    · refine ⟨ns, distinct, fun n => ?_, ?_⟩
      · rw [met n]
        exact (or_iff_left_of_imp fun same => same ▸ old).symm
      · rw [if_pos old, namedGroups]
        exact List.map_congr_left fun n _ => by rw [grown n]
    · have unnamed : (rows.filter fun r => name r = name row) = [] :=
        List.filter_eq_nil_iff.mpr fun r mem same => old ((names _).mpr ⟨r, mem, by simpa using same⟩)
      refine ⟨ns ++ [name row], distinct.append (List.nodup_singleton _)
        (List.disjoint_singleton.mpr old), fun n => ?_, ?_⟩
      · rw [met n, List.mem_append, List.mem_singleton, eq_comm (a := n)]
      · rw [if_neg old, namedGroups, List.map_append, List.map_singleton, grown, if_pos rfl, unnamed]
        congr 1
        exact List.map_congr_left fun n mem => by
          rw [grown n, if_neg fun (same : n = name row) => old (same ▸ mem)]

theorem group_by_texts {rows : List α} (named : ∀ r ∈ rows, key r = .str (name r)) :
    ∃ names : List String, names.Pairwise (· < ·) ∧ (∀ n, n ∈ names ↔ ∃ r ∈ rows, name r = n) ∧
      groupBy key rows = .ok (names.map fun n => (.str n, rows.filter fun r => name r = n)) := by
  obtain ⟨ns, distinct, names, folded⟩ := foldl_add_to_group_texts rows named
  have sortedLe : Ascending id (ns.mergeSort fun a b => decide (id a ≤ id b)) :=
    ascending_merge_sort ns
  have perm := List.mergeSort_perm ns fun a b => decide (a ≤ b)
  refine ⟨ns.mergeSort fun a b => decide (a ≤ b),
    sortedLe.imp₂ (fun a b below other => lt_of_le_of_ne below other) (distinct.perm perm.symm),
    fun n => by rw [List.mem_mergeSort, names], ?_⟩
  have sortGroups : ((namedGroups name ns rows).mergeSort fun g h =>
      keyBefore g.1 h.1 || !keyBefore h.1 g.1) =
        namedGroups name (ns.mergeSort fun a b => decide (a ≤ b)) rows :=
    (List.map_mergeSort fun a _ b _ => (group_order_str a b).symm).symm
  unfold groupBy
  rw [foldl_m_eq_ok_foldl (g := fun acc r => addToGroup (key r) r acc), folded]
  · simp only [bind, Except.bind, pure, Except.pure]
    rw [sortGroups, namedGroups, List.map_map]
    simp only [Function.comp_def, List.reverse_reverse]
  · intro acc r mem
    simp only [named r mem, keyFault?, isMissing]
    rfl

end Grouping

end Conveyor.Table

namespace Conveyor.History

set_option autoImplicit false

open Conveyor.Table

/-! ## Rows whose names, times and statuses are texts -/

def textOf (v : Value) : String :=
  v.str?.getD ""

theorem eq_str_text_of {v : Value} (text : ∃ s, v = .str s) : v = .str (textOf v) := by
  obtain ⟨s, rfl⟩ := text
  rfl

/-- A history row whose track name, creation time and status are texts. -/
structure TextRow (r : HistoryRow) : Prop where
  track : ∃ n, r.track = .str n
  createdAt : ∃ c, r.createdAt = .str c
  status : ∃ s, r.status = .str s

def rowsOf (name : String) (rows : List HistoryRow) : List HistoryRow :=
  rows.filter fun r => textOf r.track = name

theorem order_by_creation_texts {rows : List HistoryRow} (texts : ∀ r ∈ rows, TextRow r) :
    orderByCreation rows =
      .ok (rows.mergeSort fun a b => decide (textOf a.createdAt ≤ textOf b.createdAt)) := by
  have created : ∀ r ∈ rows, r.createdAt = .str (textOf r.createdAt) := fun r mem =>
    eq_str_text_of (texts r mem).createdAt
  have present : (rows.filter fun r => !isMissing r.createdAt) = rows :=
    List.filter_eq_self.mpr fun r mem => by rw [created r mem]; rfl
  have absent : (rows.filter fun r => isMissing r.createdAt) = [] :=
    List.filter_eq_nil_iff.mpr fun r mem => by rw [created r mem]; simp [isMissing]
  have sorted : sortBy (fun a b => order a.createdAt b.createdAt) rows =
      .ok (rows.mergeSort fun a b => decide (textOf a.createdAt ≤ textOf b.createdAt)) :=
    sort_by_eq_merge_sort_of_mem _ fun a inA b inB => by
      have compared := order_str (textOf a.createdAt) (textOf b.createdAt)
      rwa [← created a inA, ← created b inB] at compared
  unfold orderByCreation
  simp only [present, absent, sorted, List.append_nil]
  rfl

/-! ## The summary -/

/-- What the summary line of a track name says of the history rows: it counts the rows of the
name and those whose status is `succeeded`, and holds the status of the last of the latest
rows of the name. -/
structure SummaryLine (rows : List HistoryRow) (name : String) (line : TrackSummary) : Prop where
  track : line.track = .str name
  runs : line.runs = (rowsOf name rows).length
  succeeded : line.succeeded = ((rowsOf name rows).filter fun r => textOf r.status = "succeeded").length
  lastStatus : ∃ r, LastOfLatest (fun r => textOf r.createdAt) (rowsOf name rows) r ∧
    line.lastStatus = r.status

theorem summary_line_summary_of {rows : List HistoryRow} {name : String}
    (texts : ∀ r ∈ rows, TextRow r) (met : ∃ r ∈ rows, textOf r.track = name) :
    SummaryLine rows name (summaryOf (.float Decimal.notANumber) (.str name)
      ((rows.mergeSort fun a b => decide (textOf a.createdAt ≤ textOf b.createdAt)).filter
        fun r => textOf r.track = name)) := by
  have grouped : ((rows.mergeSort fun a b => decide (textOf a.createdAt ≤ textOf b.createdAt)).filter
      fun r => textOf r.track = name) =
        (rowsOf name rows).mergeSort fun a b => decide (textOf a.createdAt ≤ textOf b.createdAt) :=
    filter_merge_sort _ rows
  rw [grouped]
  have perm := List.mergeSort_perm (rowsOf name rows)
    fun a b => decide (textOf a.createdAt ≤ textOf b.createdAt)
  constructor
  case track => rfl
  case runs => simp [summaryOf, rowsOf]
  case succeeded =>
    have success : ∀ r ∈ rowsOf name rows, isSuccess r.status = decide (textOf r.status = "succeeded") := by
      intro r mem
      obtain ⟨s, text⟩ := (texts r (List.mem_of_mem_filter mem)).status
      rw [text]
      simp only [isSuccess, textOf, Value.str?, Option.getD_some]
      exact Bool.beq_eq_decide_eq s "succeeded"
    simp only [summaryOf]
    rw [← List.countP_eq_length_filter, ← List.countP_eq_length_filter, perm.countP_eq,
      List.countP_congr fun r mem => by rw [success r mem]]
  case lastStatus =>
    obtain ⟨r, inRows, named⟩ := met
    obtain ⟨last, isLast⟩ : ∃ last, ((rowsOf name rows).mergeSort fun a b =>
        decide (textOf a.createdAt ≤ textOf b.createdAt)).getLast? = some last :=
      Option.isSome_iff_exists.mp (List.getLast?_isSome.mpr (List.ne_nil_of_mem
        (List.mem_mergeSort.mpr (List.mem_filter.mpr ⟨inRows, by simpa using named⟩))))
    refine ⟨last, last_of_latest_of_get_last?_merge_sort isLast, ?_⟩
    have present : ∀ v ∈ ((rowsOf name rows).mergeSort fun a b =>
        decide (textOf a.createdAt ≤ textOf b.createdAt)).map HistoryRow.status, !isMissing v := by
      intro v mem
      obtain ⟨q, inSorted, rfl⟩ := List.mem_map.mp mem
      obtain ⟨s, text⟩ := (texts q (List.mem_of_mem_filter (List.mem_mergeSort.mp inSorted))).status
      rw [text]
      rfl
    simp only [summaryOf, lastStatusOf]
    rw [List.filter_eq_self.mpr present, List.getLastD_eq_getLast?, List.getLast?_map, isLast]
    rfl

theorem summarize_texts {rows : List HistoryRow} (texts : ∀ r ∈ rows, TextRow r) :
    ∃ summary, summarize rows = .ok summary ∧ ∃ names : List String, names.Pairwise (· < ·) ∧
      (∀ n, n ∈ names ↔ ∃ r ∈ rows, r.track = .str n) ∧
      List.Forall₂ (SummaryLine rows) names summary := by
  by_cases empty : rows = []
  · subst empty
    exact ⟨[], rfl, [], List.Pairwise.nil, by simp, List.Forall₂.nil⟩
  have tracked : ∀ r ∈ rows, r.track = .str (textOf r.track) := fun r mem =>
    eq_str_text_of (texts r mem).track
  have named : ∀ r ∈ rows.mergeSort (fun a b => decide (textOf a.createdAt ≤ textOf b.createdAt)),
      r.track = .str (textOf r.track) := fun r mem => tracked r (List.mem_mergeSort.mp mem)
  obtain ⟨names, sorted, met, grouped⟩ := group_by_texts named
  refine ⟨names.map fun n => summaryOf (.float Decimal.notANumber) (.str n)
    ((rows.mergeSort fun a b => decide (textOf a.createdAt ≤ textOf b.createdAt)).filter
      fun r => textOf r.track = n), ?_, names, sorted, fun n => ?_, ?_⟩
  · unfold summarize
    rw [if_neg (by simpa using empty), order_by_creation_texts texts]
    simp only [bind, Except.bind, grouped, pure, Except.pure, List.map_map, Function.comp_def]
  · -- a name of the groups is the text of the track of a row
    rw [met n]
    constructor
    · rintro ⟨r, mem, rfl⟩
      exact ⟨r, List.mem_mergeSort.mp mem, tracked r (List.mem_mergeSort.mp mem)⟩
    · rintro ⟨r, mem, track⟩
      exact ⟨r, List.mem_mergeSort.mpr mem, by rw [track]; rfl⟩
  · rw [List.forall₂_map_right_iff, List.forall₂_same]
    intro n mem
    obtain ⟨r, inSorted, named⟩ := (met n).mp mem
    exact summary_line_summary_of texts ⟨r, List.mem_mergeSort.mp inSorted, named⟩

/-! ## From the index to the summary -/

theorem forall_mem_of_forall₂ {β γ : Type} {R : β → γ → Prop} {P : γ → Prop} {xs : List β}
    {ys : List γ} (related : List.Forall₂ R xs ys) (each : ∀ x y, R x y → P y) : ∀ y ∈ ys, P y := by
  induction related with
  | nil => exact fun y mem => absurd mem List.not_mem_nil
  | cons rel _ ih =>
    intro y mem
    rcases List.mem_cons.mp mem with rfl | later
    · exact each _ _ rel
    · exact ih y later

/-- An index of run lines is read as one row per track entry of each line, in order, each
carrying its line and its entry; the summary of those rows has one line per track name, in the
order of the names, counting the rows of the name and the successful ones, with the status of
the last of the latest rows of the name. -/
theorem summary_of_run_index (path : String) {body : String} {lines : List RunLine}
    (read : Value.Loose.read (indexText body) = .ok (.list (lines.map RunLine.toValue))) :
    ∃ rows, loadHistory path (some body) = .ok rows ∧
      List.Forall₂ (fun p row => Carries p.1 p.2 row) (runEntries lines) rows ∧
      ∃ summary, summarize rows = .ok summary ∧ ∃ names : List String, names.Pairwise (· < ·) ∧
        (∀ n, n ∈ names ↔ ∃ r ∈ rows, r.track = .str n) ∧
        List.Forall₂ (SummaryLine rows) names summary := by
  obtain ⟨rows, loaded, carried⟩ := load_history_carries path read
  have texts : ∀ r ∈ rows, TextRow r := forall_mem_of_forall₂ carried fun p _ carries =>
    ⟨⟨_, carries.track⟩, ⟨_, carries.createdAt⟩, ⟨_, carries.status⟩⟩
  exact ⟨rows, loaded, carried, summarize_texts texts⟩

def outOfOrderIndex : String :=
  "\x7b\"created_at\": \"b\", \"tracks\": [\x7b\"name\": \"t\", \"status\": \"failed\"\x7d]\x7d\n" ++
  "\x7b\"created_at\": \"a\", \"tracks\": [\x7b\"name\": \"t\", \"status\": \"succeeded\"\x7d]\x7d\n"

theorem summary_of_run_index_out_of_order :
    ∃ lines : List RunLine, Value.Loose.read (indexText outOfOrderIndex) =
        .ok (.list (lines.map RunLine.toValue)) ∧
      ∃ rows, loadHistory "runs.jsonl" (some outOfOrderIndex) = .ok rows ∧
        List.Forall₂ (fun p row => Carries p.1 p.2 row) (runEntries lines) rows ∧
        ∃ summary, summarize rows = .ok summary ∧ ∃ names : List String, names.Pairwise (· < ·) ∧
          (∀ n, n ∈ names ↔ ∃ r ∈ rows, r.track = .str n) ∧
          List.Forall₂ (SummaryLine rows) names summary := by
  have parsed : (((Value.Loose.read (indexText outOfOrderIndex)).toOption.bind Value.list?).bind
      fun items => items.mapM RunLine.ofValue?).isSome = true := by
    decide +kernel
  obtain ⟨lines, found⟩ := Option.isSome_iff_exists.mp parsed
  have read := read_of_parsed found
  exact ⟨lines, read, summary_of_run_index "runs.jsonl" read⟩

def wholeOf? : Value → Option Int
  | .int n => some n
  | _ => none

theorem eq_int_of_whole_of? {v : Value} {n : Int} (whole : wholeOf? v = some n) : v = .int n := by
  cases v <;> simp_all [wholeOf?]

def largeRunIdIndex : String :=
  "\x7b\"run_id\": 9007199254740993, \"created_at\": \"a\", \"tracks\": " ++
    "[\x7b\"name\": \"t\", \"status\": \"succeeded\"\x7d]\x7d\n" ++
  "\x7b\"created_at\": \"b\", \"tracks\": [\x7b\"name\": \"t\", \"status\": \"failed\"\x7d]\x7d\n"

/-- A run id that is a whole number, in an index where another run has none, does not reach
its row as written: the row holds a binary64 number. -/
theorem load_history_run_id_beside_missing :
    ∃ lines : List RunLine, Value.Loose.read (indexText largeRunIdIndex) =
        .ok (.list (lines.map RunLine.toValue)) ∧
      ∃ line ∈ lines.head?, line.fields.lookup "run_id" = some (.int 9007199254740993) ∧
      ∃ rows, loadHistory "runs.jsonl" (some largeRunIdIndex) = .ok rows ∧
        ∃ row ∈ rows.head?, ∃ x : Float, row.runId = .float x := by
  have views : (((Value.Loose.read (indexText largeRunIdIndex)).toOption.bind Value.list?).bind
      fun items => items.mapM RunLine.ofValue?).map (fun ls => ls.map fun l =>
        ((l.fields.lookup "run_id").map wholeOf?, l.entries.length)) =
      some [(some (some 9007199254740993), 1), (none, 1)] := by
    decide +kernel
  obtain ⟨lines, parsed, shape⟩ := Option.map_eq_some_iff.mp views
  have read := read_of_parsed parsed
  obtain ⟨first, rest, rfl, firstView, restView⟩ := List.map_eq_cons_iff.mp shape
  obtain ⟨second, others, rfl, secondView, othersView⟩ := List.map_eq_cons_iff.mp restView
  obtain rfl : others = [] := List.map_eq_nil_iff.mp othersView
  simp only [Prod.mk.injEq] at firstView secondView
  obtain ⟨id, foundId, whole⟩ := Option.map_eq_some_iff.mp firstView.1
  obtain rfl := eq_int_of_whole_of? whole
  obtain ⟨entry, onlyEntry⟩ := List.length_eq_one_iff.mp firstView.2
  have noId : second.fields.lookup "run_id" = none := Option.map_eq_none_iff.mp secondView.1
  obtain ⟨x, cell⟩ := run_table_cell_whole_beside_missing (by decide) (by decide) foundId noId
  refine ⟨[first, second], read, first, rfl, foundId, _, load_history_eq "runs.jsonl" read, ?_⟩
  rw [store_rows_eq]
  simp only [runEntries, List.flatMap_cons, onlyEntry, List.map_cons, List.map_nil,
    List.cons_append, List.head?_cons, Option.mem_def, Option.some.injEq, exists_eq_left']
  exact ⟨x, by simp only [entryRow, cell, ColumnKind.store_float]⟩

end Conveyor.History

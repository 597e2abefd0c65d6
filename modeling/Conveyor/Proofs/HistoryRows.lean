import Mathlib
import Conveyor.History.Summary
import Conveyor.Proofs.Planning
import Conveyor.Proofs.Check

/-!
# Reading the run index into history rows

The history has one row per track entry of each run of the index, in order. What a row holds
goes through two tables. The runs form the first, one column per key that some run has, each
column stored by its kind; the rows form the second, one column per history field, again
stored by its kind. A text or a sequence makes its column keep every cell as it is, so a run's
creation time and its tracks, and an entry's name and status, come through unchanged. Any other
cell comes through as itself or as a column of binary64 numbers holds it (`Kept`): a whole
number rounded to the nearest binary64 number, nothing as a value that is not a number.

`load_history_eq` gives the rows the loader returns for an index whose lines are run lines
(`RunLine`), and `load_history_carries` says what each row carries from its run and its entry.
-/

namespace Conveyor.Table

set_option autoImplicit false

/-! ## What a column keeps of a cell -/

def Kept (v w : Value) : Prop :=
  w = v ∨ w = ColumnKind.binary.store v

theorem ColumnKind.store_float (kind : ColumnKind) (x : Float) :
    kind.store (.float x) = .float x := by
  cases kind <;> rfl

@[simp]
theorem ColumnKind.store_str (kind : ColumnKind) (x : String) :
    kind.store (.str x) = .str x := by
  cases kind <;> rfl

theorem ColumnKind.store_of_ne_binary {kind : ColumnKind} (other : kind ≠ .binary) (v : Value) :
    kind.store v = v := by
  cases kind
  · rfl
  · exact absurd rfl other
  · rfl
  · rfl

theorem ColumnKind.binary_store_store (v : Value) :
    ColumnKind.binary.store (ColumnKind.binary.store v) = ColumnKind.binary.store v := by
  cases v <;> rfl

theorem Kept.refl (v : Value) : Kept v v :=
  .inl rfl

/-- Storing a kept cell again keeps it: a column of binary64 numbers holds its own cells as
they are. -/
theorem Kept.store {v w : Value} (kept : Kept v w) (kind : ColumnKind) : Kept v (kind.store w) := by
  by_cases binary : kind = .binary
  · subst binary
    rcases kept with rfl | rfl
    · exact .inr rfl
    · exact .inr (ColumnKind.binary_store_store v)
  · rw [ColumnKind.store_of_ne_binary binary]
    exact kept

/-! ## Column kinds -/

theorem Seen.add_other {s : Seen} (marked : s.other = true) (v : Value) : (s.add v).other = true := by
  cases v <;> simp only [Seen.add] <;> (try split) <;> first | rfl | exact marked

theorem foldl_add_other (cells : List Value) {s : Seen} (marked : s.other = true) :
    (cells.foldl Seen.add s).other = true := by
  induction cells generalizing s with
  | nil => exact marked
  | cons v rest ih => exact ih (Seen.add_other marked v)

theorem ColumnKind.of_eq_mixed {cells : List Value} {v : Value} (mem : v ∈ cells)
    (marks : ∀ s : Seen, (s.add v).other = true) : ColumnKind.of cells = .mixed := by
  have marked : (cells.foldl Seen.add {}).other = true := by
    obtain ⟨front, back, rfl⟩ := List.append_of_mem mem
    rw [List.foldl_append, List.foldl_cons]
    exact foldl_add_other back (marks _)
  unfold ColumnKind.of Seen.kind
  simp [marked]

theorem ColumnKind.of_whole_float {n : Int} (low : wholeMin ≤ n) (high : n ≤ wholeMax) (x : Float) :
    ColumnKind.of [.int n, .float x] = .binary := by
  have inRange : (decide (n < wholeMin) || decide (n > unsignedMax)) = false := by
    have : wholeMax ≤ unsignedMax := by decide
    simp only [Bool.or_eq_false_iff, decide_eq_false_iff_not]
    omega
  have notLarge : decide (n > wholeMax) = false := by simpa using high
  unfold ColumnKind.of
  simp only [List.foldl, Seen.add, inRange, notLarge]
  split <;> simp [Seen.kind]

end Conveyor.Table

namespace Conveyor.History

set_option autoImplicit false

open Conveyor.Table

/-! ## Run lines -/

theorem eq_map_of_map_m {β : Type} {parse : Value → Option β} {view : β → Value}
    (back : ∀ {v b}, parse v = some b → v = view b) {items : List Value} {results : List β}
    (parsed : items.mapM parse = some results) : items = results.map view := by
  induction items generalizing results with
  | nil =>
    cases parsed
    rfl
  | cons v rest ih =>
    rw [List.mapM_cons] at parsed
    cases first : parse v with
    | none => simp [first] at parsed
    | some b =>
      cases others : rest.mapM parse with
      | none => simp [first, others] at parsed
      | some more =>
        simp only [first, others, Option.bind_eq_bind, Option.bind_some, Option.pure_def,
          Option.some.injEq] at parsed
        subst parsed
        rw [List.map_cons, ← back first, ← ih others]

/-- A track entry of a run line: a mapping whose name and status are texts. -/
structure TrackEntry where
  fields : List (String × Value)
  name : String
  status : String
  named : fields.lookup "name" = some (.str name)
  statused : fields.lookup "status" = some (.str status)

def TrackEntry.toValue (e : TrackEntry) : Value :=
  .object e.fields

def TrackEntry.ofValue? : Value → Option TrackEntry
  | .object fields =>
    match named : fields.lookup "name", statused : fields.lookup "status" with
    | some (.str name), some (.str status) => some ⟨fields, name, status, named, statused⟩
    | _, _ => none
  | _ => none

theorem TrackEntry.eq_to_value_of_of_value? {v : Value} {e : TrackEntry}
    (parsed : TrackEntry.ofValue? v = some e) : v = e.toValue := by
  unfold TrackEntry.ofValue? at parsed
  split at parsed
  · split at parsed
    · cases parsed
      rfl
    · cases parsed
  · cases parsed

theorem TrackEntry.eq_map_to_value_of_map_m {items : List Value} {entries : List TrackEntry}
    (parsed : items.mapM TrackEntry.ofValue? = some entries) :
    items = entries.map TrackEntry.toValue :=
  eq_map_of_map_m TrackEntry.eq_to_value_of_of_value? parsed

/-- A run line of the index: a mapping whose creation time is a text and whose tracks are a
sequence of track entries. -/
structure RunLine where
  fields : List (String × Value)
  createdAt : String
  entries : List TrackEntry
  created : fields.lookup "created_at" = some (.str createdAt)
  listed : fields.lookup "tracks" = some (.list (entries.map TrackEntry.toValue))

def RunLine.toValue (l : RunLine) : Value :=
  .object l.fields

/-- A run line, if the value is a mapping with a text creation time and a sequence of track
entries. -/
def RunLine.ofValue? : Value → Option RunLine
  | .object fields =>
    match created : fields.lookup "created_at", listed : fields.lookup "tracks" with
    | some (.str createdAt), some (.list items) =>
      match parsed : items.mapM TrackEntry.ofValue? with
      | some entries => some ⟨fields, createdAt, entries, created,
          by rw [listed, TrackEntry.eq_map_to_value_of_map_m parsed]⟩
      | none => none
    | _, _ => none
  | _ => none

theorem RunLine.eq_to_value_of_of_value? {v : Value} {l : RunLine}
    (parsed : RunLine.ofValue? v = some l) : v = l.toValue := by
  unfold RunLine.ofValue? at parsed
  split at parsed
  · split at parsed
    · split at parsed
      · cases parsed
        rfl
      · cases parsed
    · cases parsed
  · cases parsed

theorem RunLine.eq_map_to_value_of_map_m {items : List Value} {lines : List RunLine}
    (parsed : items.mapM RunLine.ofValue? = some lines) : items = lines.map RunLine.toValue :=
  eq_map_of_map_m RunLine.eq_to_value_of_of_value? parsed

def runEntries (lines : List RunLine) : List (RunLine × TrackEntry) :=
  lines.flatMap fun l => l.entries.map (l, ·)

/-! ## The table of runs -/

theorem mem_foldl_keys {step : List String → String × Value → List String}
    (adds : ∀ acc p k, k ∈ step acc p ↔ k ∈ acc ∨ k = p.1) (fields : List (String × Value))
    (acc : List String) (k : String) :
    k ∈ fields.foldl step acc ↔ k ∈ acc ∨ ∃ v, (k, v) ∈ fields := by
  induction fields generalizing acc with
  | nil => simp
  | cons p rest ih =>
    obtain ⟨key, v⟩ := p
    rw [List.foldl_cons, ih, adds]
    constructor
    · rintro ((inAcc | rfl) | ⟨w, inRest⟩)
      · exact .inl inAcc
      · exact .inr ⟨v, List.mem_cons_self⟩
      · exact .inr ⟨w, List.mem_cons_of_mem _ inRest⟩
    · rintro (inAcc | ⟨w, found⟩)
      · exact .inl (.inl inAcc)
      · rcases List.mem_cons.mp found with same | inRest
        · exact .inl (.inr (Prod.mk.inj same).1)
        · exact .inr ⟨w, inRest⟩

theorem mem_foldl_runs {inner : List String → List (String × Value) → List String}
    (adds : ∀ acc fields k, k ∈ inner acc fields ↔ k ∈ acc ∨ ∃ v, (k, v) ∈ fields)
    (runs : List (List (String × Value))) (acc : List String) (k : String) :
    k ∈ runs.foldl inner acc ↔ k ∈ acc ∨ ∃ fields ∈ runs, ∃ v, (k, v) ∈ fields := by
  induction runs generalizing acc with
  | nil => simp
  | cons fields rest ih =>
    rw [List.foldl_cons, ih, adds]
    constructor
    · rintro ((inAcc | ⟨v, found⟩) | ⟨other, inRest, v, found⟩)
      · exact .inl inAcc
      · exact .inr ⟨fields, List.mem_cons_self, v, found⟩
      · exact .inr ⟨other, List.mem_cons_of_mem _ inRest, v, found⟩
    · rintro (inAcc | ⟨other, inRuns, v, found⟩)
      · exact .inl (.inl inAcc)
      · rcases List.mem_cons.mp inRuns with rfl | inRest
        · exact .inl (.inr ⟨v, found⟩)
        · exact .inr ⟨other, inRest, v, found⟩

theorem mem_keys_in_order {runs : List (List (String × Value))} {k : String} :
    k ∈ keysInOrder runs ↔ ∃ fields ∈ runs, ∃ v, (k, v) ∈ fields := by
  unfold keysInOrder
  rw [mem_foldl_runs]
  · simp
  · intro acc fields key
    apply mem_foldl_keys
    intro known p name
    obtain ⟨first, v⟩ := p
    by_cases seen : first ∈ known
    · grind
    · simp [seen]

theorem lookup_zip_map (keys : List String) (g : String → Value) (k : String) :
    (keys.zip (keys.map g)).lookup k = if k ∈ keys then some (g k) else none := by
  induction keys with
  | nil => rfl
  | cons key rest ih =>
    by_cases same : k = key
    · subst same
      simp
    · have differ : (k == key) = false := by simpa using same
      simp [List.lookup, differ, ih, same]

theorem run_cell_eq (fields : List (String × Value)) (k : String) :
    runCell fields k = if ((fields.lookup k).getD .null).isNull then .float Decimal.notANumber
      else (fields.lookup k).getD .null := by
  unfold runCell
  cases fields.lookup k with
  | none => rfl
  | some v => cases v <;> rfl

theorem store_column_get_d (cells : List Value) {i : Nat} (inside : i < cells.length) :
    (storeColumn cells).getD i .null = (ColumnKind.of cells).store cells[i] := by
  simp [storeColumn, inside]

/-- A run's cell under a key in the table of runs: the key's column stored by its kind, or
nothing when no run has the key. -/
def runTableCell (runs : List (List (String × Value))) (fields : List (String × Value)) (k : String) :
    Value :=
  if k ∈ keysInOrder runs then (ColumnKind.of (runs.map (runCell · k))).store (runCell fields k)
  else .null

theorem map_m_map_ok {α β γ ε : Type} {f : β → Except ε γ} {g : α → β} {h : α → γ} {l : List α}
    (each : ∀ a ∈ l, f (g a) = .ok (h a)) : (l.map g).mapM f = .ok (l.map h) := by
  induction l with
  | nil => rfl
  | cons a rest ih =>
    rw [List.map_cons, List.mapM_cons, each a List.mem_cons_self,
      ih fun b mem => each b (List.mem_cons_of_mem a mem)]
    rfl

theorem run_table_objects (runs : List (List (String × Value))) :
    runTable (runs.map .object) = .ok (runs.map fun fields =>
      (keysInOrder runs).zip ((keysInOrder runs).map fun k =>
        (ColumnKind.of (runs.map (runCell · k))).store (runCell fields k))) := by
  cases runs with
  | nil => rfl
  | cons first rest =>
    unfold runTable
    rw [List.map_cons (f := Value.object)]
    dsimp only
    rw [← List.map_cons (f := Value.object) (a := first) (l := rest),
      map_m_map_ok (g := Value.object) (h := id), List.map_id]
    on_goal 2 => exact fun _ _ => rfl
    simp only [bind, Except.bind, pure, Except.pure, Except.ok.injEq]
    apply List.ext_getElem (by simp)
    intro i inRange inRuns
    simp only [List.getElem_map, List.getElem_range, List.map_map]
    congr 1
    apply List.map_congr_left
    intro k _
    simp only [Function.comp_apply]
    rw [store_column_get_d _ (by simpa using inRuns), List.getElem_map]

theorem lookup_get_d_run_record (runs : List (List (String × Value))) (fields : List (String × Value))
    (k : String) :
    (((keysInOrder runs).zip ((keysInOrder runs).map fun k =>
      (ColumnKind.of (runs.map (runCell · k))).store (runCell fields k))).lookup k).getD .null =
        runTableCell runs fields k := by
  rw [lookup_zip_map, runTableCell]
  split <;> rfl

/-! ## Rows -/

def entryRow (get : String → Value) (entry : List (String × Value)) : HistoryRow :=
  ⟨get "run_id", get "created_at", get "status", (entry.lookup "name").getD .null,
    (entry.lookup "status").getD .null, (entry.lookup "failed_stage").getD .null,
    (entry.lookup "duration_s").getD .null⟩

theorem run_rows_eq (path : String) {run : List (String × Value)}
    {entries : List (List (String × Value))}
    (tracks : (run.lookup "tracks").getD .null = .list (entries.map .object)) :
    runRows path run = .ok (entries.map (entryRow fun k => (run.lookup k).getD .null)) := by
  unfold runRows
  simp only [tracks]
  rw [map_m_map_ok (g := Value.object)]
  exact fun _ _ => rfl

def rowColumnKind (rows : List HistoryRow) (i : Nat) : ColumnKind :=
  ColumnKind.of (rows.map fun r => r.cells.getD i .null)

theorem store_rows_eq (rows : List HistoryRow) :
    storeRows rows = rows.map fun r =>
      ⟨(rowColumnKind rows 0).store r.runId, (rowColumnKind rows 1).store r.createdAt,
        (rowColumnKind rows 2).store r.runStatus, (rowColumnKind rows 3).store r.track,
        (rowColumnKind rows 4).store r.status, (rowColumnKind rows 5).store r.failedStage,
        (rowColumnKind rows 6).store r.duration⟩ := by
  unfold storeRows storeTable
  simp only [List.map_map]
  apply List.map_congr_left
  intro r _
  simp [HistoryRow.cells, HistoryRow.ofCells, columnNames, rowColumnKind, List.range_succ,
    Function.comp_def]

/-! ## The loader -/

theorem run_table_cell_of_marks {runs : List (List (String × Value))} {fields : List (String × Value)}
    {k : String} {v : Value} (mem : fields ∈ runs) (found : fields.lookup k = some v)
    (present : v.isNull = false) (marks : ∀ s : Seen, (s.add v).other = true) :
    runTableCell runs fields k = v := by
  have cell : runCell fields k = v := by simp [run_cell_eq, found, present]
  have mixed : ColumnKind.of (runs.map (runCell · k)) = .mixed :=
    ColumnKind.of_eq_mixed (List.mem_map.mpr ⟨fields, mem, cell⟩) marks
  have column : k ∈ keysInOrder runs := mem_keys_in_order.mpr ⟨fields, mem, v, Config.mem_of_lookup found⟩
  rw [runTableCell, if_pos column, mixed, cell]
  rfl

theorem kept_run_table_cell {runs : List (List (String × Value))} {fields : List (String × Value)}
    (mem : fields ∈ runs) (k : String) :
    Kept ((fields.lookup k).getD .null) (runTableCell runs fields k) := by
  by_cases column : k ∈ keysInOrder runs
  · rw [runTableCell, if_pos column]
    apply Kept.store
    rw [run_cell_eq]
    generalize (fields.lookup k).getD .null = v
    cases v
    case null => exact .inr rfl
    all_goals exact Kept.refl _
  · -- a key no run has is no column, and this run has no value under it
    rw [runTableCell, if_neg column]
    cases found : fields.lookup k with
    | none => exact Kept.refl _
    | some v => exact absurd (mem_keys_in_order.mpr ⟨fields, mem, v, Config.mem_of_lookup found⟩) column

/-- A whole number of 64 bits under a key that another run lacks comes out of the table of
runs as a binary64 number. -/
theorem run_table_cell_whole_beside_missing {first second : List (String × Value)} {k : String}
    {n : Int} (low : wholeMin ≤ n) (high : n ≤ wholeMax) (found : first.lookup k = some (.int n))
    (missing : second.lookup k = none) :
    ∃ x, runTableCell [first, second] first k = .float x := by
  have column : k ∈ keysInOrder [first, second] :=
    mem_keys_in_order.mpr ⟨first, List.mem_cons_self, _, Config.mem_of_lookup found⟩
  have cells : [first, second].map (runCell · k) = [.int n, .float Decimal.notANumber] := by
    simp [run_cell_eq, found, missing, Value.isNull]
  rw [runTableCell, if_pos column, cells, ColumnKind.of_whole_float low high, run_cell_eq, found]
  exact ⟨_, rfl⟩

theorem run_table_cell_created_at {lines : List RunLine} {l : RunLine} (mem : l ∈ lines) :
    runTableCell (lines.map RunLine.fields) l.fields "created_at" = .str l.createdAt :=
  run_table_cell_of_marks (List.mem_map_of_mem mem) l.created rfl fun _ => rfl

theorem run_table_cell_tracks {lines : List RunLine} {l : RunLine} (mem : l ∈ lines) :
    runTableCell (lines.map RunLine.fields) l.fields "tracks" =
      .list ((l.entries.map TrackEntry.fields).map .object) := by
  have written : (l.entries.map TrackEntry.fields).map Value.object = l.entries.map TrackEntry.toValue := by
    simp [List.map_map, Function.comp_def, TrackEntry.toValue]
  rw [written]
  exact run_table_cell_of_marks (List.mem_map_of_mem mem) l.listed rfl fun _ => rfl

theorem mem_run_entries {lines : List RunLine} {p : RunLine × TrackEntry} (mem : p ∈ runEntries lines) :
    p.1 ∈ lines ∧ p.2 ∈ p.1.entries := by
  obtain ⟨l, line, entered⟩ := List.mem_flatMap.mp mem
  obtain ⟨e, entry, rfl⟩ := List.mem_map.mp entered
  exact ⟨line, entry⟩

theorem read_index_text_empty : Value.Loose.read (indexText "") = .ok (.list []) := by
  have evaluated : ((Value.Loose.read (indexText "")).toOption.map fun v =>
      v.list?.map List.length) = some (some 0) := by
    decide +kernel
  obtain ⟨v, readV, counted⟩ := Pipeline.exists_ok_of_to_option_map evaluated
  rw [readV]
  cases v <;> simp [Value.list?] at counted
  rw [counted]

theorem read_of_parsed {body : String} {lines : List RunLine}
    (parsed : ((Value.Loose.read (indexText body)).toOption.bind Value.list?).bind
      (fun items => items.mapM RunLine.ofValue?) = some lines) :
    Value.Loose.read (indexText body) = .ok (.list (lines.map RunLine.toValue)) := by
  cases result : Value.Loose.read (indexText body) with
  | error e => simp [result, Except.toOption] at parsed
  | ok v =>
    cases v <;> simp [result, Except.toOption, Value.list?] at parsed
    case list items => rw [RunLine.eq_map_to_value_of_map_m parsed]

/-- The history the loader reads from an index whose lines are run lines: one row per track
entry of each run, in order, each built from the run's cells in the table of runs and from
the entry, then stored as a table of rows. -/
theorem load_history_eq (path : String) {body : String} {lines : List RunLine}
    (read : Value.Loose.read (indexText body) = .ok (.list (lines.map RunLine.toValue))) :
    loadHistory path (some body) = .ok (storeRows ((runEntries lines).map fun p =>
      entryRow (runTableCell (lines.map RunLine.fields) p.1.fields) p.2.fields)) := by
  unfold loadHistory
  dsimp only
  by_cases empty : body.isEmpty
  · -- an empty index reads as no runs, so there are no lines
    have blank : body = "" := by simpa using empty
    subst blank
    rw [read_index_text_empty, Except.ok.injEq, Value.list.injEq] at read
    obtain rfl : lines = [] := List.map_eq_nil_iff.mp read.symm
    rfl
  · rw [if_neg empty, read]
    dsimp only
    have runs : lines.map RunLine.toValue = (lines.map RunLine.fields).map Value.object := by
      simp [List.map_map, Function.comp_def, RunLine.toValue]
    rw [runs, run_table_objects]
    simp only [bind, Except.bind, List.map_map]
    rw [map_m_map_ok (h := fun l => (l.entries.map TrackEntry.fields).map
      (entryRow (runTableCell (lines.map RunLine.fields) l.fields)))]
    · simp [runEntries, Function.comp_def, List.flatMap_def, pure, Except.pure]
    · intro l mem
      simp only [Function.comp_apply, ← List.map_map]
      have tracks : (((keysInOrder (lines.map RunLine.fields)).zip
          ((keysInOrder (lines.map RunLine.fields)).map fun k =>
            (ColumnKind.of ((lines.map RunLine.fields).map (runCell · k))).store
              (runCell l.fields k))).lookup "tracks").getD .null =
            .list ((l.entries.map TrackEntry.fields).map .object) := by
        rw [lookup_get_d_run_record, run_table_cell_tracks mem]
      rw [run_rows_eq path tracks]
      simp only [lookup_get_d_run_record]

/-- What a history row holds of the run line and the track entry it comes from: the run's
creation time and the entry's name and status as they are, every other cell kept. -/
structure Carries (line : RunLine) (entry : TrackEntry) (row : HistoryRow) : Prop where
  runId : Kept ((line.fields.lookup "run_id").getD .null) row.runId
  createdAt : row.createdAt = .str line.createdAt
  runStatus : Kept ((line.fields.lookup "status").getD .null) row.runStatus
  track : row.track = .str entry.name
  status : row.status = .str entry.status
  failedStage : Kept ((entry.fields.lookup "failed_stage").getD .null) row.failedStage
  duration : Kept ((entry.fields.lookup "duration_s").getD .null) row.duration

/-- The loader reads an index of run lines as one row per track entry of each line, in order,
each carrying its line and its entry. -/
theorem load_history_carries (path : String) {body : String} {lines : List RunLine}
    (read : Value.Loose.read (indexText body) = .ok (.list (lines.map RunLine.toValue))) :
    ∃ rows, loadHistory path (some body) = .ok rows ∧
      List.Forall₂ (fun p row => Carries p.1 p.2 row) (runEntries lines) rows := by
  refine ⟨_, load_history_eq path read, ?_⟩
  rw [store_rows_eq, List.map_map, List.forall₂_map_right_iff, List.forall₂_same]
  intro p mem
  obtain ⟨line, _⟩ := mem_run_entries mem
  have run : p.1.fields ∈ lines.map RunLine.fields := List.mem_map_of_mem line
  constructor
  case runId => exact (kept_run_table_cell run "run_id").store _
  case createdAt => simp [entryRow, run_table_cell_created_at line, ColumnKind.store_str]
  case runStatus => exact (kept_run_table_cell run "status").store _
  case track => simp [entryRow, p.2.named, ColumnKind.store_str]
  case status => simp [entryRow, p.2.statused, ColumnKind.store_str]
  case failedStage => exact (Kept.refl _).store _
  case duration => exact (Kept.refl _).store _

end Conveyor.History

import Conveyor.Fault
import Conveyor.Value.Loose
import Conveyor.Value.Show
import Conveyor.Text.Basic
import Conveyor.Table.Column
import Conveyor.Table.Sort
import Conveyor.Decimal.Binary
import Conveyor.Decimal.Approx

/-!
# The run history

## Run history rows

The run index holds one JSON line per run; each run lists its tracks. The history
has one row per track of a run, with the run's id, creation time and status and
the track's name, status, failed stage and duration.

Reading the index:

1. Blank lines are skipped and the others, trimmed, read together as one JSON
   sequence by the loose reader; a reading failure names the index file.
2. The runs form a table: its columns are the runs' keys in order of first
   appearance, a key a run lacks is a missing cell, every absent value (`null`)
   becomes a missing number, and each column is stored by its kind. So a run id of
   `1` beside a missing one reads back as `1.0`.
3. Every run must have a sequence of tracks, and every track must be a mapping.
4. The rows form a table of seven columns, each stored by its kind; here an absent
   value stays absent.

An empty or missing index has no rows.
-/

namespace Conveyor.History

set_option autoImplicit false

open Conveyor.Table

/-- One track of one run. -/
structure HistoryRow where
  runId : Value
  createdAt : Value
  runStatus : Value
  track : Value
  status : Value
  failedStage : Value
  duration : Value
  deriving Inhabited

def columnNames : List String :=
  ["run_id", "created_at", "run_status", "track", "status", "failed_stage", "duration_s"]

def HistoryRow.cells (r : HistoryRow) : List Value :=
  [r.runId, r.createdAt, r.runStatus, r.track, r.status, r.failedStage, r.duration]

def HistoryRow.ofCells (cells : List Value) : HistoryRow :=
  let at_ (i : Nat) := cells.getD i .null
  ⟨at_ 0, at_ 1, at_ 2, at_ 3, at_ 4, at_ 5, at_ 6⟩

def HistoryRow.toValue (r : HistoryRow) : Value :=
  .object (columnNames.zip r.cells)

def HistoryRow.ofFields (fields : List (String × Value)) : HistoryRow :=
  HistoryRow.ofCells (columnNames.map fun name => (fields.lookup name).getD (.float Decimal.notANumber))

def storeRows (rows : List HistoryRow) : List HistoryRow :=
  (storeTable columnNames.length (rows.map HistoryRow.cells)).map HistoryRow.ofCells

def indexText (text : String) : String :=
  let lines := ((text.toList.splitOn '\n').map fun line => Text.strip (String.ofList line)).filter
    fun line => !line.isEmpty
  "[" ++ ",".intercalate lines ++ "]"

def keysInOrder (runs : List (List (String × Value))) : List String :=
  runs.foldl (fun acc fields =>
    fields.foldl (fun known (k, _) => if known.contains k then known else known ++ [k]) acc) []

def runCell (fields : List (String × Value)) (key : String) : Value :=
  match fields.lookup key with
  | some .null => .float Decimal.notANumber
  | some v => v
  | none => .float Decimal.notANumber

/-- The runs as a table of records. Runs are mappings, or else the table has no columns;
a sequence that starts with a mapping and holds anything else fails. -/
def runTable (runs : List Value) : Except Fault (List (List (String × Value))) :=
  match runs with
  | .object _ :: _ => do
    let maps ← runs.mapM fun
      | .object fields => pure fields
      | other => throw ⟨.attributeError, "'" ++ other.kindName ++ "' object has no attribute 'keys'"⟩
    let keys := keysInOrder maps
    let columns := keys.map fun k => storeColumn (maps.map fun fields => runCell fields k)
    let records := (List.range maps.length).map fun i =>
      keys.zip (columns.map fun column => column.getD i .null)
    pure records
  | _ => pure (runs.map fun _ => [])

def noTracks (path : String) (runId : Value) : Fault :=
  .value ("Invalid run index " ++ path ++ ": run " ++ runId.literal ++ " has no tracks list")

def runRows (path : String) (run : List (String × Value)) : Except Fault (List HistoryRow) := do
  let get (k : String) := (run.lookup k).getD .null
  match get "tracks" with
  | .list tracks =>
    tracks.mapM fun
      | .object t =>
        let field (k : String) := (t.lookup k).getD .null
        pure ⟨get "run_id", get "created_at", get "status", field "name", field "status",
          field "failed_stage", field "duration_s"⟩
      | other => throw ⟨.attributeError, "'" ++ other.kindName ++ "' object has no attribute 'get'"⟩
  | _ => throw (noTracks path (get "run_id"))

def loadHistory (path : String) (text : Option String) : Except Fault (List HistoryRow) := do
  match text with
  | none => pure []
  | some body =>
    if body.isEmpty then pure []
    else
      match Value.Loose.read (indexText body) with
      | .error e => throw (.value ("Invalid run index " ++ path ++ ": " ++ e.message))
      | .ok decoded =>
        let runs := match decoded with
          | .list items => items
          | _ => []
        let records ← runTable runs
        let rows ← records.mapM (runRows path)
        pure (storeRows rows.flatten)

end Conveyor.History

/-!
## Summary of the run history

The summary has one line per track name, in the order of the names (numbers
first, then texts), over the history rows ordered by creation time:

* rows are ordered by their creation time, stably; rows without one come last, in
  their order, and creation times of kinds without an order between them fail the
  summary with the first pair the sort compares;
* rows without a track name are left out;
* `runs` counts the rows of the track and `succeeded` those whose status is the
  text `succeeded`; `success_rate` is their quotient rounded to three places;
* `last_status` is the last status present, in creation order; without one it
  is a missing number;
* `mean_duration_s` is the mean of the durations that read as numbers, summed with
  compensation for rounding and rounded to three places; missing when none does.
-/

namespace Conveyor.History

set_option autoImplicit false

open Conveyor.Table
open Conveyor.Decimal

/-- The summary of one track. -/
structure TrackSummary where
  track : Value
  runs : Nat
  succeeded : Nat
  lastStatus : Value
  meanDuration : Float
  deriving Inhabited

def TrackSummary.successRate (s : TrackSummary) : Float :=
  roundPlaces 3 (ofNatNearest s.succeeded / ofNatNearest s.runs)

def TrackSummary.toValue (s : TrackSummary) : Value :=
  .object [("track", s.track), ("runs", .int s.runs), ("succeeded", .int s.succeeded),
    ("success_rate", .float s.successRate), ("last_status", s.lastStatus),
    ("mean_duration_s", .float s.meanDuration)]

def compensatedSum (xs : List Float) : Float :=
  (xs.foldl (fun (acc : Float × Float) x =>
    let (sum, carry) := acc
    let y := x - carry
    let t := sum + y
    let carry := t - sum - y
    (t, if carry != carry then 0.0 else carry)) (0.0, 0.0)).1

def compensatedMean (xs : List Float) : Float :=
  if xs.isEmpty then notANumber else compensatedSum xs / ofNatNearest xs.length

def isSuccess (status : Value) : Bool :=
  match status with
  | .str s => s == "succeeded"
  | _ => false

def lastStatusOf (absent : Value) (rows : List HistoryRow) : Value :=
  ((rows.map HistoryRow.status).filter fun v => !isMissing v).getLastD absent

def summaryOf (absent : Value) (track : Value) (rows : List HistoryRow) : TrackSummary :=
  { track, runs := rows.length, succeeded := (rows.filter fun r => isSuccess r.status).length,
    lastStatus := lastStatusOf absent rows,
    meanDuration := roundPlaces 3 (compensatedMean (rows.filterMap fun r => numeric? r.duration)) }

def orderByCreation (rows : List HistoryRow) : Except Fault (List HistoryRow) := do
  let present := rows.filter fun r => !isMissing r.createdAt
  let absent := rows.filter fun r => isMissing r.createdAt
  match sortBy (fun a b => order a.createdAt b.createdAt) present with
  | .ok sorted => pure (sorted ++ absent)
  | .error u => throw (.type u.message)

def summarize (rows : List HistoryRow) : Except Fault (List TrackSummary) := do
  if rows.isEmpty then return []
  let ordered ← orderByCreation rows
  let groups ← groupBy HistoryRow.track ordered
  pure (groups.map fun (k, rs) => summaryOf (.float notANumber) k rs)

end Conveyor.History

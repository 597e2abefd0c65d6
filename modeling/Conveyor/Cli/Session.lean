import Conveyor.Cli.Arguments
import Conveyor.Config.Load
import Conveyor.Config.Run
import Conveyor.Pipeline.Launch
import Conveyor.History.Summary
import Conveyor.Table.Render

/-!
# Running a command line

A command line runs against the files below the directory it starts in and an
environment, and ends with its standard output and one of: an exit status, a
failure (after whatever was already printed), the stop of the argument reader, or
a request to run the pipeline for real, which needs a process launcher.

* A dry run and `list-tracks` load the configuration, print each warning as
  `warning: …`, then the plan of the tracks asked for (all for `list-tracks`).
* `history` loads the configuration and reads the run index it names. Without
  rows it prints `No runs recorded in <index>`; otherwise the number of distinct
  run ids and the summary as a table.
-/

namespace Conveyor.Cli

set_option autoImplicit false

open Conveyor.Config Conveyor.Env Conveyor.Pipeline Conveyor.History Conveyor.Table

/-- How a command line ends. -/
inductive Ending where
  | exit (code : Nat)
  | fault (f : Fault)
  | stop (s : Stop)
  | launch (only : List String) (configPath : Option String)

/-- What a command line printed, and how it ended. -/
structure Session where
  stdout : String
  ending : Ending

def printed (lines : List String) : String :=
  String.join (lines.map (· ++ "\n"))

def loadRunConfig (tree : FileTree) (env : Vars) (configPath : Option String) :
    Except Fault (RunConfig × List String) := do
  let (cfg, _) ← tree.loadConfig env configPath (some configEnvVar) tree.currentPath
  (RunConfig.ofValue env cfg).mapError SettingsError.toFault

def sourceFrom (tree : FileTree) (s : SourceSettings) : Except Fault SourceSettings :=
  match s.repository with
  | some r => if r.isEmpty then (tree.findRepoRoot tree.currentPath).map (resolveSource s) else pure s
  | none => (tree.findRepoRoot tree.currentPath).map (resolveSource s)

/-- The configuration path a command line gives: its text, or the text of an empty
list when its value was dropped. -/
def Given.path : Given → String
  | .text s => s
  | .emptyList => "[]"

def trackNames (only : List Given) : Except Fault (List String) :=
  only.mapM fun
    | .text s => .ok s
    | .emptyList => .error (.type "unhashable type: 'list'")

def planSession (tree : FileTree) (env : Vars) (configPath : Option String)
    (only : List Given) : Session :=
  match loadRunConfig tree env configPath with
  | .error f => ⟨"", .fault f⟩
  | .ok (cfg, warnings) =>
    let warned := warnings.map ("warning: " ++ ·)
    let plan := do
      let source ← sourceFrom tree cfg.source
      buildTracks cfg (some source) (← trackNames only)
    match plan with
    | .error f => ⟨printed warned, .fault f⟩
    | .ok tracks => ⟨printed (warned ++ describeTracks tracks), .exit 0⟩

def distinctRuns (rows : List HistoryRow) : Nat :=
  (rows.foldl (fun (seen : List Value) r =>
    if isMissing r.runId || seen.any (same r.runId) then seen else r.runId :: seen) []).length

def summaryTable (rows : List HistoryRow) (lines : List TrackSummary) : String :=
  renderTable [
    ⟨"track", ColumnKind.of (rows.map HistoryRow.track), lines.map (·.track)⟩,
    ⟨"runs", .whole, lines.map fun s => .int s.runs⟩,
    ⟨"succeeded", .whole, lines.map fun s => .int s.succeeded⟩,
    ⟨"success_rate", .binary, lines.map fun s => .float s.successRate⟩,
    ⟨"last_status", ColumnKind.of (rows.map HistoryRow.status), lines.map (·.lastStatus)⟩,
    ⟨"mean_duration_s", .binary, lines.map fun s => .float s.meanDuration⟩]

def indexText? (tree : FileTree) (path : String) : Except Fault (Option String) :=
  if tree.exists path then (tree.read path).map some else pure none

def historySession (tree : FileTree) (env : Vars) (configPath : Option String) : Session :=
  let outcome := do
    let (cfg, _) ← loadRunConfig tree env configPath
    let path := cfg.run.runIndexPath
    let rows ← loadHistory path (← indexText? tree path)
    if rows.isEmpty then pure (printed ["No runs recorded in " ++ path])
    else
      let lines ← summarize rows
      pure (printed ["Runs recorded: " ++ toString (distinctRuns rows), summaryTable rows lines])
  match outcome with
  | .ok text => ⟨text, .exit 0⟩
  | .error f => ⟨"", .fault f⟩

/-- The places a repository marker may be, from the current directory up to the root:
each directory's `pyproject.toml` and `.git`. -/
def markerCandidates (current : List String) : List (List String) :=
  (List.range (current.length + 1)).reverse.flatMap fun n =>
    repoMarkers.map fun m => current.take n ++ [m]

def indexPathOf (tree : FileTree) (env : Vars) (configPath : Option String) : Option String :=
  match loadRunConfig tree env configPath with
  | .ok (cfg, _) => some (tree.normalize cfg.run.runIndexPath)
  | .error _ => none

/-- Runs a command line against the files below its starting directory; help and
usage are laid out for the terminal width the environment gives. -/
def execute (tree : FileTree) (env : Vars) (argv : List String) : Session :=
  match parse (layoutWidth (env.get? "COLUMNS")) argv with
  | .error s => ⟨s.stdout, .stop s⟩
  | .ok inv =>
    let configPath := inv.configPath.map Given.path
    match inv.command with
    | .run only true => planSession tree env configPath only
    | .run only false =>
      ⟨"", .launch (only.map fun g => match g with | .text s => s | .emptyList => "[]") configPath⟩
    | .listTracks => planSession tree env configPath []
    | .history => historySession tree env configPath

end Conveyor.Cli

import Conveyor.Fault
import Conveyor.Text.Basic
import Conveyor.Value.Basic
import Conveyor.Pipeline.Plan
import Conveyor.Pipeline.Batch

/-!
# Launching a pipeline run

## Directories a run makes

A run writes its log, its report and its run index below the directory it starts
in, making the directories it needs first. A path is read part by part: `.` and
empty parts stay where they are, and `..` goes back to the directory before.
Making a directory path makes the directory at every part of it as written, so
`a/../b` makes `a` and `b`; making the directory of a file makes only where its
normalized path leads.

A file is opened by walking its path as written: each directory it passes
through, a `..` included, must exist. So `reports/../up.json` cannot be opened
while `reports` has not been made, even though it names a file beside it. The
starting directory and those above it always exist, and absolute paths are not
checked.
-/

namespace Conveyor.Pipeline

set_option autoImplicit false

/-- The parts of a relative path walked from the starting directory: `..` goes back a
part, or stays as `..` above the start. -/
def normalParts (parts : List String) : List String :=
  (parts.foldl (fun (back : List String) part =>
    if part.isEmpty || part == "." then back
    else if part == ".." then
      match back with
      | p :: rest => if p == ".." then ".." :: back else rest
      | [] => [".."]
    else part :: back) []).reverse

def writtenParts (path : String) : List String :=
  (path.splitOn "/").filter fun p => !p.isEmpty && p != "."

abbrev Made := List (List String)

def Made.has (made : Made) (dir : List String) : Bool :=
  dir.all (· == "..") || made.any fun d => dir.isPrefixOf d

def makeDirs (path : String) : Made :=
  if path.startsWith "/" then []
  else
    let parts := writtenParts path
    (List.range parts.length).map fun k => normalParts (parts.take (k + 1))

def makeParent (path : String) : Made :=
  if path.startsWith "/" then [] else [(normalParts (writtenParts path)).dropLast]

def checkOpen (made : Made) (path : String) : Except Fault Unit :=
  let parts := writtenParts path
  let dirs := (List.range (parts.length - 1)).map fun k => normalParts (parts.take (k + 1))
  if path.startsWith "/" || dirs.all made.has then .ok ()
  else .error ⟨.fileNotFound, "[Errno 2] No such file or directory: " ++ Text.quote path⟩

example : normalParts ["a", "..", "b"] = ["b"] := by decide
example : Made.has [["reports", "a"]] ["reports"] = true ∧ Made.has [] ["reports"] = false := by decide

end Conveyor.Pipeline

/-!
## Executor settings

A command executor polls its child at an interval, gives a stopped command a grace
period before killing it, and drains the command's output for a while after it
exits. The interval and the drain time must be positive and the grace period must
not be negative; the settings are kept as given, so whole numbers stay whole.
-/

namespace Conveyor.Pipeline

set_option autoImplicit false

/-- How a command executor paces itself. -/
structure ExecutorSettings where
  pollInterval : Value := .float 0.1
  killGraceSeconds : Value := .float 10.0
  outputDrainSeconds : Value := .float 5.0
  deriving Inhabited

def belowZero (orEqual : Bool) : Value → Except Fault Bool
  | .int n => .ok (if orEqual then decide (n ≤ 0) else decide (n < 0))
  | .bool b => .ok (if orEqual then !b else false)
  | .float x => .ok (if orEqual then x ≤ 0.0 else x < 0.0)
  | v => .error (.type (Text.quote (if orEqual then "<=" else "<") ++
      " not supported between instances of " ++ Text.quote v.kindName ++ " and 'int'"))

def ExecutorSettings.make (pollInterval killGraceSeconds outputDrainSeconds : Value) :
    Except Fault ExecutorSettings := do
  if ← belowZero true pollInterval then throw (.value "poll_interval must be > 0")
  if ← belowZero false killGraceSeconds then throw (.value "kill_grace_seconds must be >= 0")
  if ← belowZero true outputDrainSeconds then throw (.value "output_drain_seconds must be > 0")
  pure { pollInterval, killGraceSeconds, outputDrainSeconds }

end Conveyor.Pipeline

/-!
## Running a configured pipeline

A pipeline run starts from a configuration and a run id. The configuration is
read, the source defaults to the repository the run is launched from, the tracks
are built (all, or those named), and every track runs on the configured workers.
The run leaves a log file `<run id>_oplog.log` in the log directory, a report
`<run id>_report.json` in the report directory, and one entry in the run index
that points at the report; each is written where its directories exist
(`checkOpen`). Configuration metadata, when given, must be a mapping: it is read
for the log before the tracks are built. A run succeeds when every track does; its
exit code is then zero, and one otherwise.
-/

namespace Conveyor.Pipeline

set_option autoImplicit false

open Conveyor.Config Conveyor.Env Conveyor.Workers

/-- What a pipeline run leaves behind. -/
structure Launch where
  result : BatchResult
  logFile : String
  reportPath : String
  report : Value
  indexPath : String
  indexEntry : Value

def BatchResult.exitCode (b : BatchResult) : Nat :=
  if b.interrupted then 130 else if b.succeeded then 0 else 1

/-- The source to check out: as configured when it names a repository, else the
repository the run is launched from. -/
def resolveSource (s : SourceSettings) (launchRepo : String) : SourceSettings :=
  match s.repository with
  | some r => if r.isEmpty then { s with repository := some launchRepo } else s
  | none => { s with repository := some launchRepo }

def workerPool (w : WorkersSettings) : Except Fault Pool := do
  let workers ← w.nodes.mapM fun n => Worker.ofSpec (.str n.name) (.list (n.labels.map Value.str))
  Pool.make workers []

/-- Runs a configured pipeline under an environment, from a launch repository, with an
executor and the ambient environment of the commands; the world afterwards holds
the executor calls. -/
def launch (env : Vars) (launchRepo : String) (cfgValue : Value) (runId : String)
    (configMeta : Value) (only : List String) (executor : Call → Reply) (ambient : Environment) :
    Except Fault (Launch × World) := do
  let (cfg, _) ← (RunConfig.ofValue env cfgValue).mapError SettingsError.toFault
  let logFile := joinFile cfg.run.logPath (runId ++ "_oplog.log")
  if !configMeta.isFalsy && !configMeta.isMapping then
    throw ⟨.attributeError, Text.quote configMeta.kindName ++ " object has no attribute 'get'"⟩
  let source := resolveSource cfg.source launchRepo
  let tracks ← buildTracks cfg (some source) only
  let pool ← workerPool cfg.workers
  let runner : Runner :=
    { executor, observer := { keeps := false }, ambient, root := cfg.workers.workspaceRoot }
  let (outcome, world) := (runner.runAll tracks).run.run { pool }
  let result ← match outcome with
    | .ok b => pure b
    | .error t => throw ⟨t.signal.kind, t.signal.message⟩
  let reportPath := joinFile cfg.run.reportPath (runId ++ "_report.json")
  let report ← result.report runId configMeta (.object cfg.effective) (some logFile)
  let workspaces := result.tracks.filterMap fun t =>
    t.worker.map fun w => joinFile cfg.workers.workspaceRoot w
  let made := makeDirs cfg.run.logPath ++ workspaces.flatMap makeDirs ++ makeParent reportPath
  checkOpen made reportPath
  let indexPath := cfg.run.runIndexPath
  checkOpen (made ++ makeParent indexPath) indexPath
  let launched : Launch :=
    { result, logFile, reportPath, report, indexPath,
      indexEntry := result.indexEntry runId (some reportPath) }
  pure (launched, world)

end Conveyor.Pipeline

import Conveyor.Pipeline.Runner
import Conveyor.Value.Convert

/-!
# Pipeline runs, reports and failures

## Running every track of a pipeline

A pipeline runs each of its tracks and joins on all of them. Tracks share nothing
but the final result: one track failing never stops another. Track names must be
distinct, and there must be at least one track. While the pipeline runs, every
track can be cancelled by name, and all of them at once; once it has ended no
track can.

Tracks that share no worker do not affect one another, so they are run here one
after the other in the order given. A track whose run unwinds instead of ending
with a result counts as *crashed*: it is failed, it names the stage the unwinding
signal was first seen in, and its error text is the signal's kind and text.
-/

namespace Conveyor.Pipeline

set_option autoImplicit false

open Conveyor.Text

/-- The results of all tracks of a pipeline, in the order the tracks were given. -/
structure BatchResult where
  tracks : List TrackResult
  interrupted : Bool := false
  deriving Inhabited

def BatchResult.succeeded (b : BatchResult) : Bool :=
  b.tracks.all (·.succeeded)

def BatchResult.status (b : BatchResult) : String :=
  if b.succeeded then "succeeded" else "failed"

def BatchResult.failedTracks (b : BatchResult) : List String :=
  (b.tracks.filter fun t => !t.succeeded).map (·.name)

def BatchResult.track? (b : BatchResult) (name : String) : Except Fault TrackResult :=
  match b.tracks.find? (·.name == name) with
  | some t => .ok t
  | none => .error ⟨.keyError, quote ("Unknown track: " ++ name)⟩

def pipelineFailureText (names : List String) : String :=
  "Pipeline failed (tracks: " ++ (if names.isEmpty then "<none>" else ", ".intercalate names) ++ ")"

def BatchResult.check (b : BatchResult) : Except Fault Unit :=
  if b.succeeded then .ok ()
  else .error ⟨.orchestratorFailure, pipelineFailureText b.failedTracks⟩

def BatchResult.toValue (b : BatchResult) : Value :=
  .object [("status", .str b.status), ("succeeded", .bool b.succeeded),
    ("interrupted", .bool b.interrupted), ("failed_tracks", Value.strs b.failedTracks),
    ("tracks", .list (b.tracks.map TrackResult.toValue))]

def pathSegments (path : String) : List String :=
  (path.toList.splitOn '/').map String.ofList

/-- The result of a track whose run unwound: failed, at the stage named second in the
path where the signal was first seen, with the signal's kind and text as its error. -/
def TrackResult.crashed (track : Track) (t : Thrown) : TrackResult :=
  let failedStage := match t.origin with
    | some o => (pathSegments o.path)[1]?
    | none => none
  { name := track.name, selector := track.selector, status := .failed, failedStage,
    error := some (t.signal.kind.name ++ ": " ++ t.signal.message) }

def Runner.runMember (r : Runner) (track : Track) : Running TrackResult := do
  match ← attempt (r.runTrack track) with
  | .ok result => pure result
  | .error t => pure (TrackResult.crashed track t)

def Runner.runAll (r : Runner) (tracks : List Track) : Running BatchResult := do
  if tracks.isEmpty then
    throw (Thrown.ofFault (.value "run_all requires at least one track"))
  let dups := duplicates (tracks.map (·.name))
  if !dups.isEmpty then
    throw (Thrown.ofFault (.value ("Duplicate track name(s): " ++ ", ".intercalate dups)))
  modify fun w => { w with live := tracks.map (·.name), cancelled := [] }
  let results ← tracks.mapM r.runMember
  modify fun w => { w with live := [] }
  pure { tracks := results }

end Conveyor.Pipeline

/-!
## Run reports and the run index

Every pipeline run is identified by a run id and leaves two records: a report,
which holds the whole result with the configuration it ran under, and an entry
in the run index, one line per run, which holds only the outcome of each track.
The index entry carries a schema version so that readers can tell its layout.
-/

namespace Conveyor.Pipeline

set_option autoImplicit false

def indexSchemaVersion : Nat := 1

def baseName (path : String) : String :=
  (path.splitOn "/").getLastD path

def mappingEntry (key : String) (v : Value) : Except Fault (List (String × Value)) :=
  if v.isFalsy then .ok [] else (fun m => [(key, m)]) <$> v.toMapping

/-- The report of a run: its id and result, the name of its log file when there is
one, and the configuration metadata and effective configuration when they are not
empty, each converted to a mapping. -/
def BatchResult.report (b : BatchResult) (runId : String) (configMeta effective : Value)
    (logFile : Option String) : Except Fault Value := do
  let result := match b.toValue with
    | .object fields => fields
    | _ => []
  let log := match logFile with
    | some path => if path.isEmpty then [] else [("log_file", Value.str (baseName path))]
    | none => []
  let metadata ← mappingEntry "config_meta" configMeta
  let config ← mappingEntry "config" effective
  pure (.object ((("run_id", .str runId) :: result) ++ log ++ metadata ++ config))

def TrackResult.indexValue (t : TrackResult) : Value :=
  .object [("name", .str t.name), ("status", .str t.status.word),
    ("failed_stage", Value.ofOption t.failedStage), ("worker", Value.ofOption t.worker)]

def BatchResult.indexEntry (b : BatchResult) (runId : String) (reportPath : Option String) : Value :=
  .object [("schema_version", .int indexSchemaVersion), ("run_id", .str runId),
    ("status", .str b.status), ("interrupted", .bool b.interrupted),
    ("report_path", Value.ofOption reportPath),
    ("tracks", .list (b.tracks.map TrackResult.indexValue))]

end Conveyor.Pipeline

/-!
## Failures built from their arguments

Each kind of pipeline failure is built from positional arguments: an action
failure from its action's name, its exit code (made a whole number) and an
optional argument list; a stage failure from its stage's name and its cause; a
track failure from its track's name, its stage's name and its cause; a pipeline
failure from the names of its failed tracks, which must be text. The cause of a
stage or track failure is a runtime error that carries the last argument, so
these two need at least one argument.

A wrong number of arguments is refused the way a call is: by the parameters still
missing, or by how many arguments the call takes.
-/

namespace Conveyor.Pipeline

set_option autoImplicit false

open Conveyor.Text

/-- A failure and what it carries. -/
inductive FailureReport where
  | action (name : Value) (exitCode : Int) (argv : List Value)
  | stage (name : Value) (cause : Value)
  | track (name : Value) (stage : Value) (cause : Value)
  | pipeline (tracks : List Value) (names : List String)

def FailureReport.message : FailureReport → String
  | .action name code _ => (Signal.actionFailed name.text code).message
  | .stage name cause => "Stage " ++ name.text ++ " failed: " ++ cause.text
  | .track name place cause =>
    trackFailureText name.text (if place.isFalsy then none else some place.text) cause.text
  | .pipeline _ names => pipelineFailureText names

def parameterList (names : List String) : String :=
  let quoted := names.map fun n => "'" ++ n ++ "'"
  match quoted.reverse with
  | [] => ""
  | [only] => only
  | last :: rest => ", ".intercalate rest.reverse ++ " and " ++ last

def checkArity (callee : String) (params : List String) (required given : Nat) :
    Except Fault Unit :=
  if given < required then
    let missing := (params.take required).drop given
    .error (.type (callee ++ " missing " ++ toString missing.length ++ " required positional argument" ++
      (if missing.length == 1 then "" else "s") ++ ": " ++ parameterList missing))
  else if given > params.length then
    let takes := if required == params.length then toString (params.length + 1)
      else "from " ++ toString (required + 1) ++ " to " ++ toString (params.length + 1)
    .error (.type (callee ++ " takes " ++ takes ++ " positional arguments but " ++
      toString (given + 1) ++ " were given"))
  else .ok ()

def joinTexts (items : List Value) : Except Fault (List String) :=
  items.zipIdx.mapM fun (v, i) => match v with
    | .str t => .ok t
    | other => .error (.type ("sequence item " ++ toString i ++ ": expected str instance, " ++
        other.kindName ++ " found"))

def argAt (args : List Value) (i : Nat) : Value :=
  args.getD i .null

def FailureReport.ofArgs (kind : String) (args : List Value) : Except Fault FailureReport := do
  match kind with
  | "ActionFailure" =>
    checkArity "ActionFailure.__init__()" ["action_name", "exit_code", "argv"] 2 args.length
    let code ← (argAt args 1).toInt
    let argv ← match args[2]? with
      | some v => v.elements
      | none => pure []
    pure (.action (argAt args 0) code argv)
  | "StageFailure" =>
    if args.isEmpty then throw ⟨.indexError, "list index out of range"⟩
    checkArity "StageFailure.__init__()" ["stage_name", "cause"] 2 args.length
    pure (.stage (argAt args 0) (argAt args 1))
  | "TrackFailure" =>
    if args.isEmpty then throw ⟨.indexError, "list index out of range"⟩
    checkArity "TrackFailure.__init__()" ["track_name", "stage_name", "cause"] 3 args.length
    pure (.track (argAt args 0) (argAt args 1) (argAt args 2))
  | "OrchestratorFailure" =>
    checkArity "OrchestratorFailure.__init__()" ["failed_tracks"] 1 args.length
    let tracks ← (argAt args 0).elements
    let names ← joinTexts tracks
    pure (.pipeline tracks names)
  | _ => throw (.value "unknown error kind")

example : parameterList ["stage_name", "cause"] = "'stage_name' and 'cause'" := by decide

end Conveyor.Pipeline

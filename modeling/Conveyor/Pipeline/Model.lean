import Conveyor.Env.Overlay
import Conveyor.Text.Shell
import Conveyor.Value.Convert
import Conveyor.Text.Basic

/-!
# Tracks and their results

## Tracks, stages and actions

A *track* is one build variant: a node selector that picks the worker, a fixed
order of *stages*, and environment bindings for all of them. A stage is a named,
non-empty list of *actions* with bindings of its own; an action is one external
command, given as its words. A name is trimmed, must not be empty and must not
hold a slash, since names are joined with slashes into step paths
(`track/stage/action`). Names of the stages of a track, and of the actions of a
stage, are distinct.

Definitions arrive as loose data, so each constructor checks its input in a fixed
order and reports the first problem; `Given` and `Entry` say what a constructor
was handed where a list was expected.
-/

namespace Conveyor.Pipeline

set_option autoImplicit false

open Conveyor.Text

/-- Why a definition is refused. -/
inductive DefinitionError where
  | nameNotText (label kind : String)
  | nameEmpty (label : String)
  | nameWithSlash (label name : String)
  | envNotList (label : String)
  | binding (e : Env.BindingError)
  | argvNotSequence (action : String)
  | argvEmpty (action : String)
  | argvItemNotText (action : String) (index : Nat) (kind : String)
  | commandEmpty (command : String)
  | commandMissing
  | commandNotText (kind : String)
  | shell (e : Shell.SplitError)
  | noActions (stage : String)
  | notAnAction (stage kind : String)
  | duplicateActions (stage : String) (names : List String)
  | badSelector (track : String)
  | noStages (track : String)
  | notAStage (track kind : String)
  | duplicateStages (track : String) (names : List String)
  | notIterable (kind : String)

def DefinitionError.message : DefinitionError → String
  | .nameNotText label kind => label ++ " must be a string (type=" ++ kind ++ ")"
  | .nameEmpty label => label ++ " cannot be empty"
  | .nameWithSlash label name => label ++ " cannot contain '/' (got " ++ quote name ++ ")"
  | .envNotList label => label ++ " env must be a list of KEY=value strings"
  | .binding e => e.message
  | .argvNotSequence action => "Action " ++ action ++ " argv must be a sequence of strings"
  | .argvEmpty action => "Action " ++ action ++ " argv cannot be empty"
  | .argvItemNotText action index kind =>
    "Action " ++ action ++ " argv[" ++ toString index ++ "] must be a string (type=" ++ kind ++ ")"
  | .commandEmpty command => "Command cannot be empty (got " ++ quote command ++ ")"
  | .commandMissing => "s argument must not be None"
  | .commandNotText kind => quote kind ++ " object has no attribute 'read'"
  | .shell e => e.message
  | .noActions stage => "Stage " ++ stage ++ " must declare at least one action"
  | .notAnAction stage kind =>
    "Stage " ++ stage ++ " actions must be Action objects (type=" ++ kind ++ ")"
  | .duplicateActions stage names =>
    "Duplicate action name(s) in stage " ++ stage ++ ": " ++ ", ".intercalate names
  | .badSelector track => "Track " ++ track ++ " node_selector must be a non-empty string"
  | .noStages track => "Track " ++ track ++ " must declare at least one stage"
  | .notAStage track kind =>
    "Track " ++ track ++ " stages must be Stage objects (type=" ++ kind ++ ")"
  | .duplicateStages track names =>
    "Duplicate stage name(s) in track " ++ track ++ ": " ++ ", ".intercalate names
  | .notIterable kind => quote kind ++ " object is not iterable"

def DefinitionError.toFault (e : DefinitionError) : Fault :=
  match e with
  | .nameNotText _ _ | .envNotList _ | .argvNotSequence _ | .argvItemNotText _ _ _
  | .notAnAction _ _ | .notAStage _ _ | .notIterable _ => .type e.message
  | .binding b => b.toFault
  | .commandNotText _ => ⟨.attributeError, e.message⟩
  | _ => .value e.message

/-- What a constructor was handed where it expects a list: items, or a value that cannot
be walked. -/
inductive Given (α : Type) where
  | items (xs : List α)
  | unwalkable (kind : String)

/-- One item handed to a constructor: the expected kind of thing, or some other value. -/
inductive Entry (α : Type) where
  | ok (a : α)
  | other (v : Value)

def requireName (v : Value) (label : String) : Except DefinitionError String :=
  match v with
  | .str raw =>
    let name := strip raw
    if name.isEmpty then .error (.nameEmpty label)
    else if name.toList.contains '/' then .error (.nameWithSlash label name)
    else .ok name
  | other => .error (.nameNotText label other.kindName)

def normalizeEnv (v : Value) (label : String) : Except DefinitionError (List String) :=
  match v with
  | .list items =>
    items.mapM fun item =>
      match Env.Binding.parse item with
      | .ok _ => .ok item.text
      | .error e => .error (.binding e)
  | _ => .error (.envNotList label)

/-- One external command. -/
structure Action where
  name : String
  argv : List String
  deriving Inhabited

def Action.command (a : Action) : String :=
  Shell.join a.argv

def checkArgv (name : String) : Nat → List Value → Except DefinitionError (List String)
  | _, [] => .ok []
  | i, .str w :: rest => (checkArgv name (i + 1) rest).map (w :: ·)
  | i, v :: _ => .error (.argvItemNotText name i v.kindName)

def Action.make (name : Value) (argv : Value) : Except DefinitionError Action := do
  let name ← requireName name "Action name"
  match argv with
  | .list items =>
    if items.isEmpty then throw (.argvEmpty name)
    let words ← checkArgv name 0 items
    pure ⟨name, words⟩
  | _ => throw (.argvNotSequence name)

def underscoreSlashes (s : String) : String :=
  String.ofList (s.toList.map fun c => if c == '/' then '_' else c)

/-- An action from a command line; without a name it is named after the trimmed command,
slashes turned into underscores. -/
def Action.ofCommand (command : String) (name : Value) : Except DefinitionError Action := do
  let words ← match Shell.split command with
    | .ok ws => pure ws
    | .error e => throw (.shell e)
  if words.isEmpty then throw (.commandEmpty command)
  let name := if name.isFalsy then .str (underscoreSlashes (strip command)) else name
  Action.make name (.list (words.map Value.str))

/-- An action from a command given as any value: only text can be read as a command
line, and nothing at all is refused by name. -/
def Action.ofCommandValue (command name : Value) : Except DefinitionError Action :=
  match command with
  | .str s => Action.ofCommand s name
  | .null => .error .commandMissing
  | other => .error (.commandNotText other.kindName)

/-- A named list of actions run in order under extra bindings. -/
structure Stage where
  name : String
  actions : List Action
  env : List String
  deriving Inhabited

def onlyOk {α : Type} (refuse : String → DefinitionError) : List (Entry α) → Except DefinitionError (List α)
  | [] => .ok []
  | .ok a :: rest => (onlyOk refuse rest).map (a :: ·)
  | .other v :: _ => .error (refuse v.kindName)

def Stage.make (name : Value) (actions : Given (Entry Action)) (env : Value) :
    Except DefinitionError Stage := do
  let name ← requireName name "Stage name"
  let entries ← match actions with
    | .items xs => pure xs
    | .unwalkable kind => throw (.notIterable kind)
  if entries.isEmpty then throw (.noActions name)
  let actions ← onlyOk (.notAnAction name) entries
  let dups := duplicates (actions.map (·.name))
  if !dups.isEmpty then throw (.duplicateActions name dups)
  let env ← normalizeEnv env ("Stage " ++ name)
  pure ⟨name, actions, env⟩

/-- A build variant: a node selector, stages in order, and bindings for all of them. -/
structure Track where
  name : String
  selector : String
  stages : List Stage
  env : List String
  deriving Inhabited

def Track.stageNames (t : Track) : List String :=
  t.stages.map (·.name)

def Track.make (name selector : Value) (stages : Given (Entry Stage)) (env : Value) :
    Except DefinitionError Track := do
  let name ← requireName name "Track name"
  let selector ← match selector with
    | .str s => if (strip s).isEmpty then throw (.badSelector name) else pure (strip s)
    | _ => throw (.badSelector name)
  let entries ← match stages with
    | .items xs => pure xs
    | .unwalkable kind => throw (.notIterable kind)
  if entries.isEmpty then throw (.noStages name)
  let stages ← onlyOk (.notAStage name) entries
  let dups := duplicates (stages.map (·.name))
  if !dups.isEmpty then throw (.duplicateStages name dups)
  let env ← normalizeEnv env ("Track " ++ name)
  pure ⟨name, selector, stages, env⟩

end Conveyor.Pipeline

/-!
## Results of running tracks

What running a track produces: per action its exit code, per stage a status with
the actions it ran and its error text, per track a status, the worker it ran on,
the stage it failed at and its error text. A stage that never ran is *skipped*.
The mapping forms are the program's report format.
-/

namespace Conveyor.Pipeline

set_option autoImplicit false

/-- How a stage ended. -/
inductive StageStatus where
  | succeeded
  | failed
  | skipped
  | cancelled
  deriving DecidableEq, Repr, Inhabited

/-- How a track ended, or that it is still going. -/
inductive TrackStatus where
  | running
  | succeeded
  | failed
  | cancelled
  deriving DecidableEq, Repr, Inhabited

def StageStatus.word : StageStatus → String
  | .succeeded => "succeeded"
  | .failed => "failed"
  | .skipped => "skipped"
  | .cancelled => "cancelled"

def TrackStatus.word : TrackStatus → String
  | .running => "running"
  | .succeeded => "succeeded"
  | .failed => "failed"
  | .cancelled => "cancelled"

/-- One action that ran. -/
structure ActionResult where
  name : String
  command : String
  exitCode : Int
  deriving Inhabited

/-- One stage of a track, run or not. -/
structure StageResult where
  name : String
  status : StageStatus
  actions : List ActionResult := []
  error : Option String := none
  deriving Inhabited

def StageResult.skipped (name : String) : StageResult :=
  { name, status := .skipped }

/-- One track's result. -/
structure TrackResult where
  name : String
  selector : String
  status : TrackStatus
  stages : List StageResult := []
  worker : Option String := none
  failedStage : Option String := none
  error : Option String := none
  deriving Inhabited

def TrackResult.skippedStages (r : TrackResult) : List String :=
  (r.stages.filter fun s => s.status == .skipped).map (·.name)

def TrackResult.succeeded (r : TrackResult) : Bool :=
  r.status == .succeeded

def ActionResult.toValue (a : ActionResult) : Value :=
  .object [("name", .str a.name), ("command", .str a.command), ("exit_code", .int a.exitCode)]

def StageResult.toValue (s : StageResult) : Value :=
  .object [("name", .str s.name), ("status", .str s.status.word),
    ("actions", .list (s.actions.map ActionResult.toValue)), ("error", Value.ofOption s.error)]

def TrackResult.toValue (r : TrackResult) : Value :=
  .object [("name", .str r.name), ("node_selector", .str r.selector), ("status", .str r.status.word),
    ("stages", .list (r.stages.map StageResult.toValue)), ("worker", Value.ofOption r.worker),
    ("failed_stage", Value.ofOption r.failedStage), ("error", Value.ofOption r.error),
    ("skipped_stages", Value.strs r.skippedStages)]

end Conveyor.Pipeline

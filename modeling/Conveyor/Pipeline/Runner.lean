import Conveyor.Pipeline.Model
import Conveyor.Workers.Pool

/-!
# Running a track

A track runs on one worker from the pool. Its stages run in order, each inside
its own environment layer over the track's layer, and each stage's actions run
in order through an executor. Before and after every action the track's cancel
flag is checked; a non-zero exit aborts the stage, and an aborted stage skips
every later stage of its track. The worker is released when the track ends,
after the track's closing step event.

Three hooks observe the run: one when a step (track, stage or action) starts,
one when it ends, and one when it fails. A hook may itself fail, and where it
stands decides what that failure does: inside a stage it aborts the stage like
any other fault, outside it unwinds the whole track.

Everything the run changes lives in a `World`: the pool, the cancel flags, the
executor calls and the step events. Runs are `Running` computations, which keep
the world they reached also when they unwind, so a failed run still shows the
calls and events that came before its failure.
-/

namespace Conveyor.Pipeline

set_option autoImplicit false

open Conveyor.Env Conveyor.Workers Conveyor.Text

/-- What unwinds a run: a cancellation, a failed action, a failed stage with its cause, a
failed track with the stage it names and its cause, or a fault raised by an executor or a
hook, which carries nothing but its kind and text. -/
inductive Signal where
  | cancelled (message : String)
  | actionFailed (action : String) (exitCode : Int)
  | stageFailed (stage : String) (cause : Signal)
  | trackFailed (track : String) (stage : Option String) (cause : Signal)
  | raised (fault : Fault)
  deriving Inhabited

def trackFailureText (track : String) (stage : Option String) (cause : String) : String :=
  let place := match stage with
    | some s => if s.isEmpty then "" else " at stage " ++ s
    | none => ""
  "Track " ++ track ++ " failed" ++ place ++ ": " ++ cause

def Signal.kind : Signal → FaultKind
  | .cancelled _ => .trackCancelled
  | .actionFailed _ _ => .actionFailure
  | .stageFailed _ _ => .stageFailure
  | .trackFailed _ _ _ => .trackFailure
  | .raised f => f.kind

def Signal.message : Signal → String
  | .cancelled m => m
  | .actionFailed action code => "Action " ++ action ++ " failed (exit=" ++ toString code ++ ")"
  | .stageFailed stage cause => "Stage " ++ stage ++ " failed: " ++ cause.message
  | .trackFailed track stage cause => trackFailureText track stage cause.message
  | .raised f => f.message

/-- Whether a signal is a stage that failed because its track was cancelled: its cause is a
cancellation, the runner's own check or one that an executor or a hook raised. -/
def Signal.isCancelledStage : Signal → Bool
  | .stageFailed _ cause => cause.kind == .trackCancelled
  | _ => false

/-- Whether the run of a track ends with a result of its own when its body unwinds with a
signal: a track failure, and a cancellation. -/
def Signal.haltsTrack : Signal → Bool
  | .cancelled _ => true
  | .trackFailed _ _ _ => true
  | .raised f => f.kind == .trackCancelled
  | _ => false

/-- The step a signal was first seen at: its path, its kind of node and its name. -/
structure Origin where
  path : String
  nodeType : String
  nodeName : String
  deriving Inhabited

/-- A signal in flight, with the step it was first seen at, once known. -/
structure Thrown where
  signal : Signal
  origin : Option Origin := none
  deriving Inhabited

def Thrown.ofFault (f : Fault) : Thrown :=
  { signal := .raised f }

def Thrown.attach (t : Thrown) (o : Origin) : Thrown :=
  { t with origin := t.origin <|> some o }

/-- The three hooks that observe steps. -/
inductive Hook where
  | start
  | finish
  | failure
  deriving DecidableEq, Repr, Inhabited

def Hook.word : Hook → String
  | .start => "start"
  | .finish => "end"
  | .failure => "error"

def Hook.method : Hook → String
  | .start => "on_step_start"
  | .finish => "on_step_end"
  | .failure => "on_step_error"

def Hook.all : List Hook :=
  [.start, .finish, .failure]

def Hook.requireAll (provides : Hook → Bool) : Except Fault Unit :=
  match Hook.all.find? (fun h => !provides h) with
  | some h => .error (.type ("Step recorder missing required method: " ++ h.method))
  | none => .ok ()

/-- One observed moment of a run. -/
inductive StepEvent where
  /-- A step started, with what is known about it. -/
  | started (path : String) (metrics : List (String × Value))
  /-- A step ended, with its record. -/
  | finished (path : String) (record : List (String × Value))
  /-- A step failed with a signal. -/
  | failed (path step : String) (thrown : Thrown)
  deriving Inhabited

def StepEvent.path : StepEvent → String
  | .started p _ => p
  | .finished p _ => p
  | .failed p _ _ => p

def StepEvent.toValue : StepEvent → Value
  | .started p metrics => .object [("event", .str "start"), ("path", .str p), ("metrics", .object metrics)]
  | .finished p record => .object [("event", .str "end"), ("path", .str p), ("record", .object record)]
  | .failed p step t =>
    .object [("event", .str "error"), ("path", .str p), ("step", .str step),
      ("exc", .str t.signal.kind.name), ("message", .str t.signal.message),
      ("pipeline_path", Value.ofOption (t.origin.map (·.path))),
      ("pipeline_node_type", Value.ofOption (t.origin.map (·.nodeType))),
      ("pipeline_node_name", Value.ofOption (t.origin.map (·.nodeName)))]

/-- What a failing hook does: raise a signal of its own, or raise again the signal it was
handed (a hook that was handed none then does nothing). -/
inductive HookReaction where
  | raise (signal : Signal)
  | reraise
  deriving Inhabited

/-- A hook that fails at one step path. -/
structure HookFault where
  hook : Hook
  path : String
  reaction : HookReaction
  deriving Inhabited

/-- How the steps of a run are observed: whether events are kept, and which hooks fail. -/
structure Observer where
  keeps : Bool := true
  faults : List HookFault := []
  deriving Inhabited

/-- One request to the executor: run these words in this directory with this environment. -/
structure Call where
  track : String
  path : String
  argv : List String
  cwd : String
  env : Environment
  deriving Inhabited

/-- What the executor reports for one call: the cancellations requested while the
command ran (of its own track, of one named track, of all tracks), then the exit
status, or the fault it raised. -/
structure Reply where
  cancelOwn : Bool := false
  cancelTrack : Option String := none
  cancelAll : Bool := false
  result : Except Fault Value := .ok (.int 0)
  deriving Inhabited

/-- What a run needs besides the world: the executor, the observer, the ambient
environment, the separator of path lists and the root of the workspaces. -/
structure Runner where
  executor : Call → Reply
  observer : Observer := {}
  ambient : Environment := []
  separator : String := ":"
  root : String := ""

/-- Everything a run changes. `live` names the tracks that may be cancelled by name. -/
structure World where
  pool : Pool
  cancelled : List String := []
  live : List String := []
  calls : List Call := []
  events : List StepEvent := []
  deriving Inhabited

/-- Computations over the world that may unwind with a signal, keeping the world
they reached. -/
abbrev Running := ExceptT Thrown (StateM World)

def attempt {α : Type} (m : Running α) : Running (Except Thrown α) :=
  tryCatch (m >>= fun a => pure (.ok a)) fun t => pure (.error t)

def cancel (track : String) : Running Unit :=
  modify fun w => { w with cancelled := w.cancelled ++ [track] }

def isCancelled (track : String) : Running Bool := do
  return (← get).cancelled.contains track

def checkCancelled (track : String) : Running Unit := do
  if ← isCancelled track then
    throw { signal := .cancelled ("Track " ++ track ++ " cancelled") }

def overlayOf (texts : List String) : Overlay :=
  ⟨texts.filterMap fun t => (Binding.parse (.str t)).toOption⟩

/-- What a hook does at a step path: `none` when it returns, or the signal it raises. The
first fault set for the hook and the path decides; an observer that keeps no events has no
failing hooks. -/
def Observer.raises? (o : Observer) (hook : Hook) (path : String) (received : Option Thrown) :
    Option Thrown :=
  if o.keeps then
    match o.faults.find? (fun f => f.hook == hook && f.path == path) with
    | none => none
    | some f =>
      match f.reaction with
      | .raise signal => some { signal }
      | .reraise => received
  else none

/-- Passes an event to its hook: a keeping observer records it, then a hook set to fail
at the event's path fails. -/
def Runner.observe (r : Runner) (hook : Hook) (event : StepEvent) (received : Option Thrown) :
    Running Unit := do
  (if r.observer.keeps then modify fun w => { w with events := w.events ++ [event] } else pure ())
  match r.observer.raises? hook event.path received with
  | none => pure ()
  | some t => throw t

def cancelNamed (name : String) : Running Unit := do
  if (← get).live.contains name then cancel name
  else throw (Thrown.ofFault ⟨.keyError, quote ("Unknown or finished track: " ++ name)⟩)

def cancelLive : Running Unit :=
  modify fun w => { w with cancelled := w.cancelled ++ w.live }

/-- Carries out the cancellations an executor's reply asks for, in order: of its own track,
of one named track, of all tracks. -/
def applyCancels (track : String) (reply : Reply) : Running Unit := do
  (if reply.cancelOwn then cancel track else pure ())
  (match reply.cancelTrack with
    | some name => cancelNamed name
    | none => pure ())
  (if reply.cancelAll then cancelLive else pure ())

def Runner.execute (r : Runner) (track : String) (worker : Worker) (stack : Stack)
    (path : String) (action : Action) : Running Value := do
  let env ← (match stack.resolve r.ambient with
    | .ok env => pure env
    | .error f => throw (Thrown.ofFault f))
  let call : Call := { track, path, argv := action.argv, cwd := worker.workspace, env }
  modify fun w => { w with calls := w.calls ++ [call] }
  let reply := r.executor call
  applyCancels track reply
  match reply.result with
  | .ok v => pure v
  | .error f => throw (Thrown.ofFault f)

def Runner.openAction (r : Runner) (stagePath : String) (action : Action) : Running Unit :=
  r.observe .start (.started (stagePath ++ "/" ++ action.name)
    [("node_type", .str "action"), ("command", .str action.command)]) none

/-- Hands an action to the executor and reads its exit status. A fault of the executor is
reported at the action and unwinds; an exit with zero is recorded as the action's end. -/
def Runner.callAction (r : Runner) (track : String) (worker : Worker) (stack : Stack)
    (stagePath : String) (action : Action) : Running ActionResult := do
  let path := stagePath ++ "/" ++ action.name
  let exit ← tryCatch (r.execute track worker stack path action) fun t => do
    let t := t.attach ⟨path, "action", action.name⟩
    r.observe .failure (.failed path action.name t) (some t)
    throw t
  let code ← (match Value.toInt exit with
    | .ok n => pure n
    | .error f => throw (Thrown.ofFault f))
  (if code == 0 then
    r.observe .finish (.finished path [("type", .str "action"), ("name", .str action.name),
      ("path", .str path), ("command", .str action.command), ("exit_code", .int code)]) none
  else pure ())
  pure ⟨action.name, action.command, code⟩

def Runner.runAction (r : Runner) (track : String) (worker : Worker) (stack : Stack)
    (stagePath : String) (action : Action) : Running ActionResult := do
  r.openAction stagePath action
  r.callAction track worker stack stagePath action

/-- After an action: unwinds if the track was cancelled, and reports and unwinds if
the action exited with a non-zero status. -/
def Runner.settle (r : Runner) (track stagePath : String) (action : Action)
    (result : ActionResult) : Running Unit := do
  checkCancelled track
  if result.exitCode != 0 then
    let path := stagePath ++ "/" ++ action.name
    let failure : Thrown :=
      { signal := .actionFailed action.name result.exitCode,
        origin := some ⟨path, "action", action.name⟩ }
    r.observe .failure (.failed path action.name failure) (some failure)
    throw failure

def Runner.startAction (r : Runner) (track : String) (worker : Worker) (stack : Stack)
    (stagePath : String) (action : Action) : Running ActionResult := do
  checkCancelled track
  r.runAction track worker stack stagePath action

/-- Runs a stage's actions in order, collecting their results, until one of them
unwinds; then stops with what ran and the signal. -/
def Runner.runActions (r : Runner) (track : String) (worker : Worker) (stack : Stack)
    (stagePath : String) : List Action → List ActionResult →
    Running (List ActionResult × Option Thrown)
  | [], done => pure (done, none)
  | action :: rest, done => do
    match ← attempt (r.startAction track worker stack stagePath action) with
    | .error t => pure (done, some t)
    | .ok result =>
      let done := done ++ [result]
      match ← attempt (r.settle track stagePath action result) with
      | .error t => pure (done, some t)
      | .ok () => r.runActions track worker stack stagePath rest done

def Runner.recordStage (r : Runner) (path : String) (result : StageResult) : Running Unit :=
  r.observe .finish (.finished path [("type", .str "stage"), ("name", .str result.name),
    ("path", .str path), ("status", .str result.status.word)]) none

def Runner.openStage (r : Runner) (track : Track) (stack : Stack) (stage : Stage) : Running Unit :=
  let layers := stack.depth + (if stage.env.isEmpty then 0 else 1)
  r.observe .start (.started (track.name ++ "/" ++ stage.name)
    [("node_type", .str "stage"), ("env_layers", .int layers)]) none

/-- Ends a stage once its actions ran or one of them unwound. A stage that was aborted ends
as cancelled when the track was cancelled and as failed otherwise, and hands back the stage
failure; only a cancellation is reported at the stage itself, since every other cause was
reported at its action. -/
def Runner.closeStage (r : Runner) (track : Track) (stage : Stage) (actions : List ActionResult)
    (stopped : Option Thrown) : Running (StageResult × Option Signal) := do
  let path := track.name ++ "/" ++ stage.name
  match stopped with
  | none =>
    let result : StageResult := { name := stage.name, status := .succeeded, actions }
    r.recordStage path result
    pure (result, none)
  | some cause =>
    let failure : Thrown :=
      { signal := .stageFailed stage.name cause.signal, origin := some ⟨path, "stage", stage.name⟩ }
    let byCancel := failure.signal.isCancelledStage
    (if byCancel then r.observe .failure (.failed path stage.name failure) (some failure)
    else pure ())
    let result : StageResult :=
      { name := stage.name, status := (if byCancel then .cancelled else .failed), actions,
        error := some cause.signal.message }
    r.recordStage path result
    pure (result, some failure.signal)

def Runner.runStage (r : Runner) (track : Track) (worker : Worker) (stack : Stack)
    (stage : Stage) : Running (StageResult × Option Signal) := do
  r.openStage track stack stage
  let (actions, stopped) ← r.runActions track.name worker (stack.push (overlayOf stage.env)).2
    (track.name ++ "/" ++ stage.name) stage.actions []
  r.closeStage track stage actions stopped

/-- How the stages of a track ended. -/
inductive StagesEnd where
  | completed
  | cancelledBefore (message : String)
  | failed (stage : String) (cause : Signal)
  | halted (signal : Signal)
  deriving Inhabited

/-- Runs part of a track's body, handing back a signal that halts the track instead of
unwinding with it; any other signal unwinds. -/
def catchHalt {α : Type} (m : Running α) : Running (Except Signal α) :=
  tryCatch (m >>= fun a => pure (.ok a)) fun t =>
    if t.signal.haltsTrack then pure (.error t.signal) else throw t

/-- Runs the stages in order. A cancelled track skips the stage it reached and every
later one; a failed stage skips every later one. A stage whose hooks halt the track stops
the stages with the results so far. -/
def Runner.runStages (r : Runner) (track : Track) (worker : Worker) (stack : Stack) :
    List Stage → List StageResult → Running (List StageResult × StagesEnd)
  | [], done => pure (done, .completed)
  | stage :: rest, done => do
    if ← isCancelled track.name then
      pure (done ++ (stage :: rest).map (fun s => StageResult.skipped s.name),
        .cancelledBefore ("Track " ++ track.name ++ " cancelled before stage " ++ stage.name))
    else
      match ← catchHalt (r.runStage track worker stack stage) with
      | .error signal => pure (done, .halted signal)
      | .ok (result, none) => r.runStages track worker stack rest (done ++ [result])
      | .ok (result, some cause) =>
        pure (done ++ [result] ++ rest.map (fun s => StageResult.skipped s.name),
          .failed stage.name cause)

def Runner.trackStack (r : Runner) (track : Track) : Stack :=
  (({ separator := r.separator } : Stack).push (overlayOf track.env)).2

def Runner.openTrack (r : Runner) (track : Track) (worker : Worker) : Running Unit :=
  r.observe .start (.started track.name [("node_type", .str "track"), ("worker", .str worker.name)]) none

/-- The result of a track that held a worker, from its stage results and how its stages
ended. -/
def TrackResult.ofStages (track : Track) (worker : Worker) (stages : List StageResult)
    (ending : StagesEnd) : TrackResult :=
  let ran : TrackResult :=
    { name := track.name, selector := track.selector, status := .succeeded, stages,
      worker := some worker.name }
  match ending with
  | .completed => ran
  | .cancelledBefore m => { ran with status := .cancelled, error := some m }
  | .failed stage cause =>
    let status := if cause.isCancelledStage then TrackStatus.cancelled else .failed
    { ran with status, failedStage := some stage, error := some cause.message }
  | .halted (.trackFailed _ stage cause) =>
    let status := if cause.isCancelledStage then TrackStatus.cancelled else .failed
    { ran with status, failedStage := stage, error := some cause.message }
  | .halted signal => { ran with status := .cancelled, error := some signal.message }

/-- The body of a track once it holds a worker: its start event, then its stages in
the track's environment layer. -/
def Runner.driveTrack (r : Runner) (track : Track) (worker : Worker) : Running TrackResult := do
  match ← catchHalt (r.openTrack track worker) with
  | .error signal => pure (TrackResult.ofStages track worker [] (.halted signal))
  | .ok () =>
    let (stages, ending) ← r.runStages track worker (r.trackStack track) track.stages []
    pure (TrackResult.ofStages track worker stages ending)

def TrackResult.unstarted (track : Track) (status : TrackStatus) (message : String) : TrackResult :=
  { name := track.name, selector := track.selector, status,
    stages := track.stages.map fun s => StageResult.skipped s.name, error := some message }

/-- What asking the pool for a worker gives a track: the worker, or the track's result when
it gets none. -/
inductive Claim where
  | granted (worker : Worker)
  | refused (result : TrackResult)
  deriving Inhabited

/-- Asks the pool for a worker that matches the track's selector. Without one the track
ends at once with every stage skipped: failed when no worker matches, cancelled when the
wait for one was cancelled. A workspace that cannot be created unwinds. -/
def Runner.claimWorker (r : Runner) (track : Track) : Running Claim := do
  match (← get).pool.acquire r.root (.str track.selector) with
  | .error (.unavailable m) => pure (.refused (TrackResult.unstarted track .failed m))
  | .error (.cancelled m) => pure (.refused (TrackResult.unstarted track .cancelled m))
  | .error (.workspace f) | .error (.selector f) => throw (Thrown.ofFault f)
  | .ok (worker, pool) =>
    modify fun w => { w with pool := pool }
    pure (.granted worker)

/-- Ends the run of a track that held a worker: records the track's end with the status
reached (still running when the body unwound), releases the worker, and hands back how
the body ended. A failing end hook unwinds before the release. -/
def Runner.closeTrack (r : Runner) (track : Track) (worker : Worker)
    (outcome : Except Thrown TrackResult) : Running TrackResult := do
  let status := match outcome with
    | .ok result => result.status
    | .error _ => .running
  r.observe .finish (.finished track.name [("type", .str "track"), ("name", .str track.name),
    ("path", .str track.name), ("status", .str status.word), ("worker", .str worker.name)]) none
  modify fun w => { w with pool := w.pool.release worker.name }
  match outcome with
  | .ok result => pure result
  | .error t => throw t

def Runner.runTrack (r : Runner) (track : Track) : Running TrackResult := do
  match ← r.claimWorker track with
  | .refused result => pure result
  | .granted worker =>
    let outcome ← attempt (r.driveTrack track worker)
    r.closeTrack track worker outcome

end Conveyor.Pipeline

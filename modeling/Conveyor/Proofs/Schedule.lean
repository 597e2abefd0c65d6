import Mathlib
import Conveyor.Proofs.Outcome
import Conveyor.Pipeline.Batch

/-!
# The run of a track, step by step

A pipeline runs its tracks at the same time, each on its own thread, and they meet only in
the world they share: the pool of workers, the cancel flags, and the recorded calls and
events. To speak of every interleaving of their steps, the run of one track is cut into
steps here. A `Stand` says where a track's run is between two steps, and
`Runner.advance` takes one step: it runs one piece of the runner on the shared world
(asking for a worker, announcing the track or a stage, checking the flag before a stage,
starting an action, the check after it, ending a stage, ending the track) and the stand
that follows is a function of how that piece ended. Each step reads the track's cancel
flag at most once.

Driven one step after another, the machine is the runner itself: `run_member_drives`
shows that its walk from the queue reaches exactly the result and the world of a track's
run as the pipeline makes it.
-/

namespace Conveyor.Pipeline

open Conveyor.Env Conveyor.Workers

set_option autoImplicit false

/-- Where the run of one track stands between two of its steps. -/
inductive Stand where
  | queued
  | holding (worker : Worker)
  | stages (worker : Worker) (done : List StageResult) (rest : List Stage)
  | actions (worker : Worker) (done : List StageResult) (stage : Stage) (rest : List Stage)
      (ran : List ActionResult) (todo : List Action)
  | settling (worker : Worker) (done : List StageResult) (stage : Stage) (rest : List Stage)
      (ran : List ActionResult) (action : Action) (result : ActionResult) (todo : List Action)
  | closingStage (worker : Worker) (done : List StageResult) (stage : Stage) (rest : List Stage)
      (ran : List ActionResult) (stopped : Option Thrown)
  | closing (worker : Worker) (outcome : Except Thrown TrackResult)
  | ended (result : TrackResult)
  deriving Inhabited

namespace Stand

variable (track : Track) (worker : Worker) (done : List StageResult) (stage : Stage)
  (rest : List Stage) (ran : List ActionResult)

def claimed : Except Thrown Claim → Stand
  | .error t => .ended (TrackResult.crashed track t)
  | .ok (.refused result) => .ended result
  | .ok (.granted worker) => .holding worker

/-- After a part of the body unwound with `t`, with the stage results so far: a signal that
halts the track ends the body with its result, any other unwinds it. -/
def unwound (t : Thrown) : Stand :=
  .closing worker (if t.signal.haltsTrack then .ok (TrackResult.ofStages track worker done (.halted t.signal))
    else .error t)

def opened : Except Thrown Unit → Stand
  | .error t => unwound track worker [] t
  | .ok () => .stages worker [] track.stages

def stageOpened : Except Thrown Unit → Stand
  | .error t => unwound track worker done t
  | .ok () => .actions worker done stage rest [] stage.actions

def started (action : Action) (todo : List Action) : Except Thrown ActionResult → Stand
  | .error t => .closingStage worker done stage rest ran (some t)
  | .ok result => .settling worker done stage rest (ran ++ [result]) action result todo

def settled (todo : List Action) : Except Thrown Unit → Stand
  | .error t => .closingStage worker done stage rest ran (some t)
  | .ok () => .actions worker done stage rest ran todo

def afterStage : Except Thrown (StageResult × Option Signal) → Stand
  | .error t => unwound track worker done t
  | .ok (result, none) => .stages worker (done ++ [result]) rest
  | .ok (result, some cause) => .closing worker (.ok (TrackResult.ofStages track worker
      (done ++ [result] ++ rest.map fun s => StageResult.skipped s.name) (.failed stage.name cause)))

def closed : Except Thrown TrackResult → Stand
  | .ok result => .ended result
  | .error t => .ended (TrackResult.crashed track t)

end Stand

def Runner.stageStack (r : Runner) (track : Track) (stage : Stage) : Stack :=
  ((r.trackStack track).push (overlayOf stage.env)).2

/-- One step of a track's run from where it stands. A step that ends the track's run leaves
it ended; an ended run takes no further step. -/
def Runner.advance (r : Runner) (track : Track) : Stand → Running Stand
  | .queued => Stand.claimed track <$> attempt (r.claimWorker track)
  | .holding worker => Stand.opened track worker <$> attempt (r.openTrack track worker)
  | .stages worker done [] =>
    pure (.closing worker (.ok (TrackResult.ofStages track worker done .completed)))
  | .stages worker done (stage :: rest) => do
    if ← isCancelled track.name then
      pure (.closing worker (.ok (TrackResult.ofStages track worker
        (done ++ (stage :: rest).map fun s => StageResult.skipped s.name)
        (.cancelledBefore ("Track " ++ track.name ++ " cancelled before stage " ++ stage.name)))))
    else
      Stand.stageOpened track worker done stage rest <$>
        attempt (r.openStage track (r.trackStack track) stage)
  | .actions worker done stage rest ran [] => pure (.closingStage worker done stage rest ran none)
  | .actions worker done stage rest ran (action :: todo) =>
    Stand.started worker done stage rest ran action todo <$>
      attempt (r.startAction track.name worker (r.stageStack track stage)
        (track.name ++ "/" ++ stage.name) action)
  | .settling worker done stage rest ran action result todo =>
    Stand.settled worker done stage rest ran todo <$>
      attempt (r.settle track.name (track.name ++ "/" ++ stage.name) action result)
  | .closingStage worker done stage rest ran stopped =>
    Stand.afterStage track worker done stage rest <$> attempt (r.closeStage track stage ran stopped)
  | .closing worker outcome => Stand.closed track <$> attempt (r.closeTrack track worker outcome)
  | .ended result => pure (.ended result)

def Runner.Advances (r : Runner) (track : Track) (here there : Stand × World) : Prop :=
  (r.advance track here.1).run.run here.2 = (.ok there.1, there.2)

abbrev Runner.Drives (r : Runner) (track : Track) : Stand × World → Stand × World → Prop :=
  Relation.ReflTransGen (r.Advances track)

theorem advance_queued_of_acquired (r : Runner) (track : Track) {w : World} {worker : Worker}
    {pool : Pool} (acquired : w.pool.acquire r.root (.str track.selector) = .ok (worker, pool)) :
    (r.advance track .queued).run.run w = (.ok (.holding worker), { w with pool }) := by
  rw [Runner.advance, run_map_attempt, run_claim_worker, acquired]
  rfl

theorem advance_queued_of_cancelled (r : Runner) (track : Track) {w : World} {m : String}
    (refused : w.pool.acquire r.root (.str track.selector) = .error (.cancelled m)) :
    (r.advance track .queued).run.run w =
      (.ok (.ended (TrackResult.unstarted track .cancelled m)), w) := by
  rw [Runner.advance, run_map_attempt, run_claim_worker, refused]
  rfl

section Simulation

variable (r : Runner) (track : Track) (worker : Worker) (done : List StageResult) (stage : Stage)
  (rest : List Stage)

theorem drives_actions (ran : List ActionResult) (todo : List Action) (w : World)
    {results : List ActionResult} {stopped : Option Thrown} {w' : World}
    (loop : (r.runActions track.name worker (r.stageStack track stage)
      (track.name ++ "/" ++ stage.name) todo ran).run.run w = (.ok (results, stopped), w')) :
    r.Drives track (.actions worker done stage rest ran todo, w)
      (.closingStage worker done stage rest results stopped, w') := by
  induction todo generalizing ran w with
  | nil =>
    cases loop
    exact .single rfl
  | cons action todo ih =>
    rw [Runner.runActions, run_attempt_bind] at loop
    have start : r.Advances track (.actions worker done stage rest ran (action :: todo), w)
        (Stand.started worker done stage rest ran action todo
          ((r.startAction track.name worker (r.stageStack track stage)
            (track.name ++ "/" ++ stage.name) action).run.run w).1,
          ((r.startAction track.name worker (r.stageStack track stage)
            (track.name ++ "/" ++ stage.name) action).run.run w).2) :=
      run_map_attempt _ _ _
    rcases called : (r.startAction track.name worker (r.stageStack track stage)
        (track.name ++ "/" ++ stage.name) action).run.run w with ⟨_ | result, w₁⟩
    · rw [called] at loop start
      cases loop
      exact .single start
    · rw [called] at loop start
      dsimp only at loop
      rw [run_attempt_bind] at loop
      have check : r.Advances track
          (.settling worker done stage rest (ran ++ [result]) action result todo, w₁)
          (Stand.settled worker done stage rest (ran ++ [result]) todo
            ((r.settle track.name (track.name ++ "/" ++ stage.name) action result).run.run w₁).1,
            ((r.settle track.name (track.name ++ "/" ++ stage.name) action result).run.run w₁).2) :=
        run_map_attempt _ _ _
      rcases settled : (r.settle track.name (track.name ++ "/" ++ stage.name) action result).run.run w₁
        with ⟨_ | _, w₂⟩
      · rw [settled] at loop check
        cases loop
        exact .head start (.single check)
      · rw [settled] at loop check
        exact .head start (.head check (ih (ran ++ [result]) w₂ loop))

theorem drives_stage (w : World) (unflagged : track.name ∉ w.cancelled)
    {outcome : Except Thrown (StageResult × Option Signal)} {w' : World}
    (staged : (r.runStage track worker (r.trackStack track) stage).run.run w = (outcome, w')) :
    r.Drives track (.stages worker done (stage :: rest), w)
      (Stand.afterStage track worker done stage rest outcome, w') := by
  unfold Runner.runStage at staged
  rw [run_bind] at staged
  have opening : r.Advances track (.stages worker done (stage :: rest), w)
      (Stand.stageOpened track worker done stage rest
        ((r.openStage track (r.trackStack track) stage).run.run w).1,
        ((r.openStage track (r.trackStack track) stage).run.run w).2) := by
    show (r.advance track _).run.run w = _
    rw [Runner.advance, run_bind, run_is_cancelled]
    dsimp only
    rw [if_neg (by simpa using unflagged), run_map_attempt]
  rcases opened : (r.openStage track (r.trackStack track) stage).run.run w with ⟨_ | _, w₁⟩
  · rw [opened] at staged opening
    cases staged
    exact .single opening
  · rw [opened] at staged opening
    dsimp only at staged
    rw [run_bind] at staged
    obtain ⟨results, stopped, w₂, acted, -⟩ := run_actions_ends r track.name worker
      (r.stageStack track stage) (track.name ++ "/" ++ stage.name) stage.actions [] w₁
    rw [show ((r.trackStack track).push (overlayOf stage.env)).2 = r.stageStack track stage from rfl,
      acted] at staged
    dsimp only at staged
    have closing : r.Advances track (.closingStage worker done stage rest results stopped, w₂)
        (Stand.afterStage track worker done stage rest
          ((r.closeStage track stage results stopped).run.run w₂).1,
          ((r.closeStage track stage results stopped).run.run w₂).2) :=
      run_map_attempt _ _ _
    rw [staged] at closing
    exact .head opening ((drives_actions r track worker done stage rest [] stage.actions w₁ acted).tail
      closing)

theorem drives_stages (rest : List Stage) (done : List StageResult) (w : World)
    {outcome : Except Thrown (List StageResult × StagesEnd)} {w' : World}
    (loop : (r.runStages track worker (r.trackStack track) rest done).run.run w = (outcome, w')) :
    r.Drives track (.stages worker done rest, w)
      (.closing worker (outcome.map fun ended => TrackResult.ofStages track worker ended.1 ended.2),
        w') := by
  induction rest generalizing done w with
  | nil =>
    cases loop
    exact .single rfl
  | cons stage rest ih =>
    rw [Runner.runStages, run_bind, run_is_cancelled] at loop
    dsimp only at loop
    by_cases flagged : track.name ∈ w.cancelled
    · -- a flag set before the stage ends the track at once, as the loop does
      rw [if_pos (by simpa using flagged)] at loop
      cases loop
      refine .single ?_
      show (r.advance track _).run.run _ = _
      rw [Runner.advance, run_bind, run_is_cancelled]
      dsimp only
      rw [if_pos (by simpa using flagged)]
      rfl
    · rw [if_neg (by simpa using flagged), run_bind, run_catch_halt] at loop
      rcases staged : (r.runStage track worker (r.trackStack track) stage).run.run w with
        ⟨t | ⟨result, _ | cause⟩, w₁⟩
      · -- the stage unwound: a halting signal ends the body with the results so far
        rw [staged] at loop
        have walk := drives_stage r track worker done stage rest w flagged staged
        cases halts : t.signal.haltsTrack <;>
          simp only [halts, Bool.false_eq_true, if_true, if_false, Stand.afterStage, Stand.unwound]
            at loop walk <;>
          cases loop <;> exact walk
      · rw [staged] at loop
        exact (drives_stage r track worker done stage rest w flagged staged).trans
          (ih (done ++ [result]) w₁ loop)
      · rw [staged] at loop
        cases loop
        exact drives_stage r track worker done stage rest w flagged staged

theorem drives_body (w : World) :
    r.Drives track (.holding worker, w)
      (.closing worker ((r.driveTrack track worker).run.run w).1,
        ((r.driveTrack track worker).run.run w).2) := by
  have opening : r.Advances track (.holding worker, w)
      (Stand.opened track worker ((r.openTrack track worker).run.run w).1,
        ((r.openTrack track worker).run.run w).2) :=
    run_map_attempt _ _ _
  unfold Runner.driveTrack
  rw [run_bind, run_catch_halt]
  rcases opened : (r.openTrack track worker).run.run w with ⟨t | _, w₁⟩
  · rw [opened] at opening
    cases halts : t.signal.haltsTrack <;>
      simp only [halts, Bool.false_eq_true, if_true, if_false, Stand.opened, Stand.unwound] at opening ⊢ <;>
      exact .single opening
  · rw [opened] at opening
    dsimp only
    rw [run_bind]
    rcases staged : (r.runStages track worker (r.trackStack track) track.stages []).run.run w₁ with
      ⟨outcome, w₂⟩
    have walk := drives_stages r track worker track.stages [] w₁ staged
    cases outcome <;> exact .head opening walk

/-- A track's whole run, as the pipeline makes it, is the machine's walk from the queue to
the track's result. -/
theorem run_member_drives (w : World) :
    ∃ result w', (r.runMember track).run.run w = (.ok result, w') ∧
      r.Drives track (.queued, w) (.ended result, w') := by
  have claiming : r.Advances track (.queued, w)
      (Stand.claimed track ((r.claimWorker track).run.run w).1, ((r.claimWorker track).run.run w).2) :=
    run_map_attempt _ _ _
  unfold Runner.runMember Runner.runTrack
  rw [run_attempt_bind, run_bind]
  rcases claimed : (r.claimWorker track).run.run w with ⟨_ | (worker | result), w₁⟩
  · rw [claimed] at claiming
    exact ⟨_, _, rfl, .single claiming⟩
  · rw [claimed] at claiming
    dsimp only
    rw [run_attempt_bind]
    have closing : r.Advances track
        (.closing worker ((r.driveTrack track worker).run.run w₁).1,
          ((r.driveTrack track worker).run.run w₁).2)
        (Stand.closed track ((r.closeTrack track worker
            ((r.driveTrack track worker).run.run w₁).1).run.run
            ((r.driveTrack track worker).run.run w₁).2).1,
          ((r.closeTrack track worker ((r.driveTrack track worker).run.run w₁).1).run.run
            ((r.driveTrack track worker).run.run w₁).2).2) :=
      run_map_attempt _ _ _
    rcases closed : (r.closeTrack track worker ((r.driveTrack track worker).run.run w₁).1).run.run
        ((r.driveTrack track worker).run.run w₁).2 with ⟨_ | result, w₃⟩ <;>
      · rw [closed] at closing
        exact ⟨_, _, rfl, .head claiming ((drives_body r track worker w₁).tail closing)⟩
  · rw [claimed] at claiming
    exact ⟨_, _, rfl, .single claiming⟩

end Simulation

end Conveyor.Pipeline

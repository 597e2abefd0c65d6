import Mathlib
import Conveyor.Proofs.Track

/-!
# How the run of a track ends

The stage results of a track that held a worker, under an observer whose hooks never fail.
Such a run always ends with a result: every action's fault is caught at its stage, and
every stage's failure at its track. The result names the worker and lists one stage result
per declared stage, in order; read from the front they are

* stages that succeeded, and nothing more: the track succeeded;
* stages that succeeded, one stage that failed or was cancelled, and skipped stages: the
  track ends as that stage did, naming it and its failure;
* only skipped stages, when the track's cancel flag was set before it started.

The last case needs the flag set before the first stage, since a flag raised while a stage
runs is caught by the check after each action and stops that stage instead
(`run_actions_ends`). `StagesEnd.Describes` says how a list of stage results reads against
the way the stages ended; `run_stages_of_quiet` shows the loop over stages meets it, and
`run_track_result_shape` spells it out for a whole run.
-/

namespace Conveyor.Pipeline

open Conveyor.Env Conveyor.Workers

set_option autoImplicit false

def Observer.Quiet (o : Observer) : Prop :=
  ∀ hook path received, o.raises? hook path received = none

theorem settle_ok {r : Runner} {track stagePath : String} {action : Action} {result : ActionResult}
    {w w' : World} {u : Unit} (settled : (r.settle track stagePath action result).run.run w = (.ok u, w')) :
    track ∉ w.cancelled ∧ w' = w := by
  unfold Runner.settle at settled
  rw [run_bind, run_check_cancelled] at settled
  by_cases flagged : track ∈ w.cancelled
  · simp only [flagged, if_true] at settled
    cases settled
  · simp only [flagged, if_false] at settled
    refine ⟨flagged, ?_⟩
    split at settled
    · rw [run_bind, run_observe] at settled
      split at settled <;> cases settled
    · cases settled
      rfl

/-- A stage's actions never unwind: the loop hands back what ran and the signal that
stopped it. Started with the track's cancel flag unset, it ends unstopped only with the
flag still unset. -/
theorem run_actions_ends (r : Runner) (track : String) (worker : Worker) (stack : Stack)
    (stagePath : String) (actions : List Action) (done : List ActionResult) (w : World) :
    ∃ results stopped w', (r.runActions track worker stack stagePath actions done).run.run w =
      (.ok (results, stopped), w') ∧
      (stopped = none → track ∉ w.cancelled → track ∉ w'.cancelled) := by
  induction actions generalizing done w with
  | nil => exact ⟨done, none, w, rfl, fun _ unflagged => unflagged⟩
  | cons action rest ih =>
    rw [Runner.runActions, run_bind, run_attempt]
    rcases first : (r.startAction track worker stack stagePath action).run.run w
      with ⟨_ | result, w₁⟩
    · exact ⟨_, _, _, rfl, fun stoppedNone => absurd stoppedNone (Option.some_ne_none _)⟩
    · dsimp only
      rw [run_bind, run_attempt]
      rcases settled : (r.settle track stagePath action result).run.run w₁ with ⟨_ | u, w₂⟩
      · exact ⟨_, _, _, rfl, fun stoppedNone => absurd stoppedNone (Option.some_ne_none _)⟩
      · -- the check after the action saw the flag unset, and the loop goes on from there
        obtain ⟨unflagged₁, rfl⟩ := settle_ok settled
        obtain ⟨results, stopped, w', ran, unstopped⟩ := ih (done ++ [result]) w₂
        exact ⟨results, stopped, w', ran, fun stoppedNone _ => unstopped stoppedNone unflagged₁⟩

/-- The stage results of a track, as the way its stages ended describes them: stages that
succeeded and nothing more when all of them completed; stages that succeeded, the stage that
stopped and skipped stages when one failed; only skipped stages when the track was cancelled
before its first stage. -/
inductive StagesEnd.Describes : StagesEnd → List StageResult → Prop
  | completed {ran : List StageResult} (succeeded : ∀ s ∈ ran, s.status = .succeeded) :
      StagesEnd.Describes .completed ran
  | failed {ran skipped : List StageResult} {stopped : StageResult} {cause : Signal}
      (succeeded : ∀ s ∈ ran, s.status = .succeeded)
      (stoppedStatus : stopped.status =
        if (Signal.stageFailed stopped.name cause).isCancelledStage then .cancelled else .failed)
      (allSkipped : ∀ s ∈ skipped, s.status = .skipped) :
      StagesEnd.Describes (.failed stopped.name (.stageFailed stopped.name cause))
        (ran ++ stopped :: skipped)
  | cancelledBefore {message : String} {rest : List StageResult} (nonempty : rest ≠ [])
      (allSkipped : ∀ s ∈ rest, s.status = .skipped) :
      StagesEnd.Describes (.cancelledBefore message) rest

section Quiet

variable {r : Runner} (quiet : r.observer.Quiet)
include quiet

theorem run_observe_of_quiet (hook : Hook) (event : StepEvent) (received : Option Thrown)
    (w : World) :
    (r.observe hook event received).run.run w =
      (.ok (), { w with events := if r.observer.keeps then w.events ++ [event] else w.events }) := by
  rw [run_observe, quiet]
  cases r.observer.keeps <;> rfl

theorem run_close_stage_none (track : Track) (stage : Stage) (actions : List ActionResult) (w : World) :
    ∃ w', (r.closeStage track stage actions none).run.run w =
      (.ok ({ name := stage.name, status := .succeeded, actions }, none), w') ∧
      w'.cancelled = w.cancelled := by
  unfold Runner.closeStage Runner.recordStage
  rw [run_bind, run_observe_of_quiet quiet]
  exact ⟨_, rfl, rfl⟩

/-- A stage stopped by a signal is cancelled when the signal is the track's cancellation,
and failed otherwise; it hands the stage failure on. -/
theorem run_close_stage_some (track : Track) (stage : Stage) (actions : List ActionResult)
    (cause : Thrown) (w : World) :
    ∃ w', (r.closeStage track stage actions (some cause)).run.run w =
      (.ok ({ name := stage.name
              status := if (Signal.stageFailed stage.name cause.signal).isCancelledStage then
                .cancelled else .failed
              actions := actions
              error := some cause.signal.message },
        some (.stageFailed stage.name cause.signal)), w') ∧
      w'.cancelled = w.cancelled := by
  unfold Runner.closeStage Runner.recordStage
  dsimp only
  by_cases byCancel : (Signal.stageFailed stage.name cause.signal).isCancelledStage = true
  · simp only [byCancel, if_true]
    rw [run_bind, run_observe_of_quiet quiet]
    dsimp only
    rw [run_bind, run_observe_of_quiet quiet]
    exact ⟨_, rfl, rfl⟩
  · simp only [byCancel, if_false, Bool.false_eq_true, pure_bind]
    rw [run_bind, run_observe_of_quiet quiet]
    exact ⟨_, rfl, rfl⟩

theorem run_open_stage_of_quiet (track : Track) (stack : Stack) (stage : Stage) (w : World) :
    ∃ w', (r.openStage track stack stage).run.run w = (.ok (), w') ∧ w'.cancelled = w.cancelled :=
  ⟨_, run_observe_of_quiet quiet _ _ _ w, rfl⟩

/-- A stage always ends with its result under its own name. Without a failure it succeeded
and left the cancel flag unset; with one, the failure is the stage's, and the stage's status
says whether the track's cancellation caused it. -/
theorem run_stage_of_quiet (track : Track) (worker : Worker) (stack : Stack) (stage : Stage)
    {w : World} (unflagged : track.name ∉ w.cancelled) :
    ∃ result failure w', (r.runStage track worker stack stage).run.run w =
      (.ok (result, failure), w') ∧ result.name = stage.name ∧
      (failure = none → result.status = .succeeded ∧ track.name ∉ w'.cancelled) ∧
      (∀ cause, failure = some cause → ∃ c, cause = .stageFailed stage.name c ∧
        result.status = if cause.isCancelledStage then .cancelled else .failed) := by
  unfold Runner.runStage
  obtain ⟨w₁, opened, kept⟩ := run_open_stage_of_quiet quiet track stack stage w
  rw [run_bind, opened]
  dsimp only
  rw [run_bind]
  obtain ⟨results, stopped, w₂, ran, unstopped⟩ :=
    run_actions_ends r track.name worker (stack.push (overlayOf stage.env)).2
      (track.name ++ "/" ++ stage.name) stage.actions [] w₁
  rw [ran]
  dsimp only
  cases stopped with
  | none =>
    obtain ⟨w₃, closed, kept₃⟩ := run_close_stage_none quiet track stage results w₂
    rw [closed]
    exact ⟨_, _, _, rfl, rfl, fun _ => ⟨rfl, kept₃ ▸ unstopped rfl (kept ▸ unflagged)⟩,
      fun _ noneSome => absurd noneSome.symm (Option.some_ne_none _)⟩
  | some cause =>
    obtain ⟨w₃, closed, -⟩ := run_close_stage_some quiet track stage results cause w₂
    rw [closed]
    refine ⟨_, _, _, rfl, rfl, fun failedNone => absurd failedNone (Option.some_ne_none _),
      fun failure named => ?_⟩
    cases named
    exact ⟨cause.signal, rfl, rfl⟩
theorem run_stages_of_quiet (track : Track) (worker : Worker) (stack : Stack) (stages : List Stage)
    (done : List StageResult) {w : World} (succeeded : ∀ s ∈ done, s.status = .succeeded)
    (unflagged : done ≠ [] → track.name ∉ w.cancelled) :
    ∃ all ending w', (r.runStages track worker stack stages done).run.run w =
      (.ok (all, ending), w') ∧ all.map (·.name) = done.map (·.name) ++ stages.map (·.name) ∧
      ending.Describes all ∧ (∀ m, ending = .cancelledBefore m → track.name ∈ w.cancelled) := by
  induction stages generalizing done w with
  | nil => exact ⟨done, .completed, w, rfl, by simp, .completed succeeded, fun _ ended => by cases ended⟩
  | cons stage rest ih =>
    rw [Runner.runStages, run_bind, run_is_cancelled]
    dsimp only
    by_cases flagged : track.name ∈ w.cancelled
    · -- only a run that has not finished a stage yet can find its flag set here
      have noneDone : done = [] := by
        cases done with
        | nil => rfl
        | cons first later => exact absurd flagged (unflagged (List.cons_ne_nil first later))
      subst noneDone
      rw [if_pos (by simpa using flagged)]
      refine ⟨_, _, _, rfl, by simp [StageResult.skipped], .cancelledBefore (by simp) ?_, fun _ _ => flagged⟩
      simp [StageResult.skipped]
    · rw [if_neg (by simpa using flagged), run_bind]
      obtain ⟨result, failure, w₂, ran, named, unfailed, failedBy⟩ :=
        run_stage_of_quiet quiet track worker stack stage flagged
      rw [run_catch_halt_of_ok ran]
      dsimp only
      cases failure with
      | none =>
        obtain ⟨resultSucceeded, unflagged₂⟩ := unfailed rfl
        have succeeded₂ : ∀ s ∈ done ++ [result], s.status = .succeeded := by
          intro s mem
          rcases List.mem_append.mp mem with early | last
          · exact succeeded s early
          · rw [List.mem_singleton.mp last]
            exact resultSucceeded
        obtain ⟨all, ending, w', run, names, describes, before⟩ :=
          ih (done ++ [result]) succeeded₂ (fun _ => unflagged₂)
        refine ⟨all, ending, w', run, ?_, describes, fun m ended => absurd (before m ended) unflagged₂⟩
        rw [names]
        simp [named]
      | some cause =>
        obtain ⟨c, rfl, status⟩ := failedBy _ rfl
        refine ⟨_, _, _, rfl, by simp [named, StageResult.skipped], ?_, fun _ ended => by cases ended⟩
        rw [← named, List.append_assoc, List.singleton_append]
        exact .failed succeeded (named ▸ status) (by simp [StageResult.skipped])
theorem run_open_track_of_quiet (track : Track) (worker : Worker) (w : World) :
    ∃ w', (r.openTrack track worker).run.run w = (.ok (), w') ∧ w'.cancelled = w.cancelled :=
  ⟨_, run_observe_of_quiet quiet _ _ _ w, rfl⟩

theorem drive_track_of_quiet (track : Track) (worker : Worker) (w : World) :
    ∃ stages ending w', (r.driveTrack track worker).run.run w =
      (.ok (TrackResult.ofStages track worker stages ending), w') ∧
      stages.map (·.name) = track.stageNames ∧ ending.Describes stages ∧
      (∀ m, ending = .cancelledBefore m → track.name ∈ w.cancelled) := by
  obtain ⟨w₁, opened, kept⟩ := run_open_track_of_quiet quiet track worker w
  obtain ⟨stages, ending, w₂, ran, names, describes, before⟩ :=
    @run_stages_of_quiet r quiet track worker (r.trackStack track) track.stages [] w₁
      (fun _ mem => by cases mem) (fun nonempty => absurd rfl nonempty)
  rw [run_drive_track_of_opened r opened, ran]
  exact ⟨stages, ending, w₂, rfl, names, describes, fun m ended => kept ▸ before m ended⟩

theorem run_track_of_quiet (track : Track) {w : World} {worker : Worker} {pool : Pool}
    (acquired : w.pool.acquire r.root (.str track.selector) = .ok (worker, pool)) :
    ∃ stages ending w', (r.runTrack track).run.run w =
      (.ok (TrackResult.ofStages track worker stages ending), w') ∧
      stages.map (·.name) = track.stageNames ∧ ending.Describes stages ∧
      (∀ m, ending = .cancelledBefore m → track.name ∈ w.cancelled) := by
  rw [run_run_track_of_acquired r track acquired]
  obtain ⟨stages, ending, w₁, driven, names, describes, before⟩ :=
    drive_track_of_quiet quiet track worker { w with pool }
  rw [driven]
  have closed := (run_close_track r track worker (.ok (TrackResult.ofStages track worker stages ending)) w₁).1
  rw [quiet] at closed
  exact ⟨stages, ending, _, Prod.ext closed rfl, names, describes, before⟩
end Quiet

theorem of_stages_failed_status (track : Track) (worker : Worker) (stages : List StageResult)
    {stopped : StageResult} {cause : Signal}
    (stoppedStatus : stopped.status =
      if (Signal.stageFailed stopped.name cause).isCancelledStage then .cancelled else .failed) :
    (stopped.status = .failed ∧
        (TrackResult.ofStages track worker stages
          (.failed stopped.name (.stageFailed stopped.name cause))).status = .failed) ∨
      (stopped.status = .cancelled ∧
        (TrackResult.ofStages track worker stages
          (.failed stopped.name (.stageFailed stopped.name cause))).status = .cancelled) := by
  unfold TrackResult.ofStages
  dsimp only
  cases byCancel : (Signal.stageFailed stopped.name cause).isCancelledStage
  · rw [byCancel] at stoppedStatus
    exact .inl ⟨stoppedStatus, rfl⟩
  · rw [byCancel] at stoppedStatus
    exact .inr ⟨stoppedStatus, rfl⟩

/-- Under an observer whose hooks never fail, a run granted a worker ends with a result on
that worker with one stage result per declared stage, in order and under the declared
names: succeeded stages followed by nothing (the track succeeded), by one failed or
cancelled stage and skipped ones (the track ends as that stage did, naming it and its
failure), or, when the track's cancel flag was set before the run, by skipped stages only. -/
theorem run_track_result_shape (r : Runner) (track : Track) {w : World} {worker : Worker}
    {pool : Pool} (quiet : r.observer.Quiet)
    (acquired : w.pool.acquire r.root (.str track.selector) = .ok (worker, pool)) :
    ∃ result w', (r.runTrack track).run.run w = (.ok result, w') ∧
      result.worker = some worker.name ∧ result.stages.map (·.name) = track.stageNames ∧
      ∃ ran rest, result.stages = ran ++ rest ∧ (∀ s ∈ ran, s.status = .succeeded) ∧
        ((rest = [] ∧ result.status = .succeeded ∧ result.failedStage = none ∧
            result.error = none) ∨
          (∃ stopped skipped cause, rest = stopped :: skipped ∧
            (∀ s ∈ skipped, s.status = .skipped) ∧
            ((stopped.status = .failed ∧ result.status = .failed) ∨
              (stopped.status = .cancelled ∧ result.status = .cancelled)) ∧
            result.failedStage = some stopped.name ∧
            result.error = some (Signal.stageFailed stopped.name cause).message) ∨
          (ran = [] ∧ rest ≠ [] ∧ (∀ s ∈ rest, s.status = .skipped) ∧
            result.status = .cancelled ∧ result.failedStage = none ∧ track.name ∈ w.cancelled)) := by
  obtain ⟨stages, ending, w', ran, names, describes, before⟩ := run_track_of_quiet quiet track acquired
  refine ⟨_, w', ran, ?_⟩
  cases describes with
  | completed succeeded =>
    exact ⟨rfl, names, stages, [], (List.append_nil _).symm, succeeded, .inl ⟨rfl, rfl, rfl, rfl⟩⟩
  | @failed done skipped stopped cause succeeded stoppedStatus allSkipped =>
    exact ⟨rfl, names, done, stopped :: skipped, rfl, succeeded,
      .inr (.inl ⟨stopped, skipped, cause, rfl, allSkipped,
        of_stages_failed_status track worker _ stoppedStatus, rfl, rfl⟩)⟩
  | cancelledBefore nonempty allSkipped =>
    exact ⟨rfl, names, [], stages, rfl, (fun _ mem => by cases mem),
      .inr (.inr ⟨rfl, nonempty, allSkipped, rfl, rfl, before _ rfl⟩)⟩

/-- A one-stage track on the only worker, under an observer that records every event and
fails at no hook. -/
theorem run_track_result_shape_single_stage :
    ({} : Observer).Quiet ∧
      ({ workers := [⟨"w1", "w1", ["linux"]⟩] } : Pool).acquire "" (.str "linux") =
        .ok (⟨"w1", "w1", ["linux"]⟩,
          { workers := [⟨"w1", "w1", ["linux"]⟩], busy := ["w1"], directories := ["w1"] }) ∧
      ∃ result w', ((⟨fun _ => {}, {}, [], ":", ""⟩ : Runner).runTrack
          ⟨"t", "linux", [⟨"s", [⟨"a", ["true"]⟩], []⟩], []⟩).run.run
          { pool := { workers := [⟨"w1", "w1", ["linux"]⟩] } } = (.ok result, w') ∧
        result.worker = some "w1" ∧ result.stages.map (·.name) = ["s"] ∧
        ∃ ran rest, result.stages = ran ++ rest ∧ (∀ s ∈ ran, s.status = .succeeded) ∧
          ((rest = [] ∧ result.status = .succeeded ∧ result.failedStage = none ∧
              result.error = none) ∨
            (∃ stopped skipped cause, rest = stopped :: skipped ∧
              (∀ s ∈ skipped, s.status = .skipped) ∧
              ((stopped.status = .failed ∧ result.status = .failed) ∨
                (stopped.status = .cancelled ∧ result.status = .cancelled)) ∧
              result.failedStage = some stopped.name ∧
              result.error = some (Signal.stageFailed stopped.name cause).message) ∨
            (ran = [] ∧ rest ≠ [] ∧ (∀ s ∈ rest, s.status = .skipped) ∧
              result.status = .cancelled ∧ result.failedStage = none ∧ "t" ∈ ([] : List String))) :=
  have quiet : ({} : Observer).Quiet := fun _ _ _ => rfl
  ⟨quiet, Pool.acquire_single_idle, @run_track_result_shape ⟨fun _ => {}, {}, [], ":", ""⟩
    ⟨"t", "linux", [⟨"s", [⟨"a", ["true"]⟩], []⟩], []⟩
    { pool := { workers := [⟨"w1", "w1", ["linux"]⟩] } } _ _ quiet Pool.acquire_single_idle⟩

end Conveyor.Pipeline

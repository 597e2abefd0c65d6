import Mathlib
import Conveyor.Proofs.Outcome

/-!
# The events a track's run hands to its observer

Under an observer whose hooks never fail, the events of a run granted a worker are well
bracketed. The track's start comes first, naming the worker, and its end comes last,
carrying the status the run returns. In between, each stage that started gives one block:
its start, the events of its actions, one error at the stage's own path exactly when the
stage ends cancelled, and its end, carrying the stage's status. Each action that started
opens with its start and then has its end when it exited with zero, or an error at its own
path when its executor failed or when it exited otherwise while the track was not
cancelled. An action that exited otherwise once the track's cancel flag was set gets no
report of its own: the stage reports the cancellation. Every error names the step it is
reported at as the failure's origin.

`ActionsEvents`, `StageEvents`, `StagesEvents` and `TrackEvents` state this grammar level by
level, each against the results the run records; `run_track_events_bracketed` shows every
such run meets it, for executors whose every exit status reads as a whole number (a status
that does not read fails its stage without any report, a case left aside here).
-/

namespace Conveyor.Pipeline

open Conveyor.Env Conveyor.Workers

set_option autoImplicit false

variable {α β : Type}

/-! ## The grammar of a run's events -/

/-- The status a stage ends with once its actions stopped as given: succeeded when nothing
stopped them, cancelled when a cancellation did, failed otherwise. -/
def stoppedStatus : Option Thrown → StageStatus
  | none => .succeeded
  | some t => if t.signal.kind == .trackCancelled then .cancelled else .failed

/-- The events of a stage's actions from the first one, against the exit statuses recorded
for them and the status the stage ends with. Each started action opens with its start.
One that exited with zero ends, and the next one follows, or the track's cancel flag, found
set after it, stops the stage. One that exited otherwise is reported at its own path and
fails the stage, or, when the flag was found set after it, gets no report and the stage is
cancelled. One whose executor raised is reported at its own path, with no status recorded,
and cancels the stage when it raised a cancellation and fails it otherwise. A flag found set
before an action cancels the stage. -/
inductive ActionsEvents (stagePath : String) :
    List Action → List ActionResult → StageStatus → List StepEvent → Prop
  | finished : ActionsEvents stagePath [] [] .succeeded []
  | ended {action : Action} {rest : List Action} {result : ActionResult}
      {results : List ActionResult} {status : StageStatus} {events : List StepEvent}
      (metrics record : List (String × Value)) (exitedZero : result.exitCode = 0)
      (next : ActionsEvents stagePath rest results status events) :
      ActionsEvents stagePath (action :: rest) (result :: results) status
        (.started (stagePath ++ "/" ++ action.name) metrics ::
          .finished (stagePath ++ "/" ++ action.name) record :: events)
  | exitedOtherwise {action : Action} {rest : List Action} {result : ActionResult}
      (metrics : List (String × Value)) (t : Thrown) (exitedOtherwise : result.exitCode ≠ 0)
      (origin : t.origin = some ⟨stagePath ++ "/" ++ action.name, "action", action.name⟩) :
      ActionsEvents stagePath (action :: rest) [result] .failed
        [.started (stagePath ++ "/" ++ action.name) metrics,
          .failed (stagePath ++ "/" ++ action.name) action.name t]
  | raised {action : Action} {rest : List Action} (metrics : List (String × Value)) (t : Thrown)
      (origin : t.origin = some ⟨stagePath ++ "/" ++ action.name, "action", action.name⟩) :
      ActionsEvents stagePath (action :: rest) [] (stoppedStatus (some t))
        [.started (stagePath ++ "/" ++ action.name) metrics,
          .failed (stagePath ++ "/" ++ action.name) action.name t]
  | cancelledAfterEnd {action : Action} {rest : List Action} {result : ActionResult}
      (metrics record : List (String × Value)) (exitedZero : result.exitCode = 0) :
      ActionsEvents stagePath (action :: rest) [result] .cancelled
        [.started (stagePath ++ "/" ++ action.name) metrics,
          .finished (stagePath ++ "/" ++ action.name) record]
  | cancelledAfterFailure {action : Action} {rest : List Action} {result : ActionResult}
      (metrics : List (String × Value)) (exitedOtherwise : result.exitCode ≠ 0) :
      ActionsEvents stagePath (action :: rest) [result] .cancelled
        [.started (stagePath ++ "/" ++ action.name) metrics]
  | cancelledBefore {action : Action} {rest : List Action} :
      ActionsEvents stagePath (action :: rest) [] .cancelled []

/-- The events of a stage that started, at its path: its start, its actions' events, one
error at its own path naming it exactly when it ends cancelled, and its end, whose record
carries the status of its result. -/
inductive StageEvents (path : String) (stage : Stage) : StageResult → List StepEvent → Prop
  | mk {results : List ActionResult} {status : StageStatus} {error : Option String}
      {body report : List StepEvent} (metrics record : List (String × Value))
      (actions : ActionsEvents path stage.actions results status body)
      (reported : (status = .cancelled ∧ ∃ t : Thrown,
          t.origin = some ⟨path, "stage", stage.name⟩ ∧ report = [.failed path stage.name t]) ∨
        (status ≠ .cancelled ∧ report = []))
      (recorded : record.lookup "status" = some (.str status.word)) :
      StageEvents path stage { name := stage.name, status, actions := results, error }
        (.started path metrics :: (body ++ report ++ [.finished path record]))

/-- The events of a track's stages from the first one, against their results: each stage
that started gives its block, in order, and the events stop where the stages stop running,
every later stage being skipped. -/
inductive StagesEvents (trackName : String) : List Stage → List StageResult → List StepEvent → Prop
  | rest {stages : List Stage} {results : List StageResult}
      (skipped : ∀ result ∈ results, result.status = .skipped) :
      StagesEvents trackName stages results []
  | ran {stage : Stage} {stages : List Stage} {result : StageResult} {results : List StageResult}
      {block events : List StepEvent}
      (started : StageEvents (trackName ++ "/" ++ stage.name) stage result block)
      (next : StagesEvents trackName stages results events) :
      StagesEvents trackName (stage :: stages) (result :: results) (block ++ events)

/-- The events of a track's run on a worker: its start, naming the worker, the events of
its stages, and its end, whose record carries the status the run returns. -/
def TrackEvents (track : Track) (worker : Worker) (result : TrackResult) (events : List StepEvent) :
    Prop :=
  ∃ metrics body record, events = .started track.name metrics :: (body ++ [.finished track.name record]) ∧
    metrics.lookup "worker" = some (.str worker.name) ∧
    record.lookup "status" = some (.str result.status.word) ∧
    StagesEvents track.name track.stages result.stages body

def StepEvent.isFailure : StepEvent → Bool
  | .failed .. => true
  | _ => false

theorem ActionsEvents.failed_ends_with_error {stagePath : String} {actions : List Action}
    {results : List ActionResult} {status : StageStatus} {events : List StepEvent}
    (grammar : ActionsEvents stagePath actions results status events) (failed : status = .failed) :
    ∃ (before : List StepEvent) (action : Action) (metrics : List (String × Value)) (t : Thrown),
      action ∈ actions ∧
      events = before ++ [.started (stagePath ++ "/" ++ action.name) metrics,
        .failed (stagePath ++ "/" ++ action.name) action.name t] ∧
      before.filter StepEvent.isFailure = [] := by
  induction grammar with
  | finished => cases failed
  | @ended action _ _ _ _ _ metrics record _ _ ih =>
    obtain ⟨before, last, lastMetrics, t, mem, split, clean⟩ := ih failed
    refine ⟨.started (stagePath ++ "/" ++ action.name) metrics ::
      .finished (stagePath ++ "/" ++ action.name) record :: before, last, lastMetrics, t,
      List.mem_cons_of_mem _ mem, by rw [split]; rfl, ?_⟩
    simp [StepEvent.isFailure, clean]
  | exitedOtherwise metrics t => exact ⟨[], _, metrics, t, List.mem_cons_self, rfl, rfl⟩
  | raised metrics t => exact ⟨[], _, metrics, t, List.mem_cons_self, rfl, rfl⟩
  | cancelledAfterEnd => cases failed
  | cancelledAfterFailure => cases failed
  | cancelledBefore => cases failed

theorem StageEvents.failed_reported_once {path : String} {stage : Stage} {result : StageResult}
    {block : List StepEvent} (events : StageEvents path stage result block)
    (failed : result.status = .failed) :
    ∃ (before : List StepEvent) (action : Action) (metrics : List (String × Value)) (t : Thrown)
      (record : List (String × Value)), action ∈ stage.actions ∧
      block = before ++ [.started (path ++ "/" ++ action.name) metrics,
        .failed (path ++ "/" ++ action.name) action.name t, .finished path record] ∧
      before.filter StepEvent.isFailure = [] := by
  cases events with
  | mk metrics record grammar reported _ =>
    dsimp only at failed
    subst failed
    obtain ⟨before, action, actionMetrics, t, mem, rfl, clean⟩ := grammar.failed_ends_with_error rfl
    obtain ⟨-, rfl⟩ := reported.resolve_left fun cancelled => nomatch cancelled.1
    refine ⟨.started path metrics :: before, action, actionMetrics, t, record, mem, by simp, ?_⟩
    simp [StepEvent.isFailure, clean]

def Runner.ReadsExits (r : Runner) : Prop :=
  ∀ c v, (r.executor c).result = .ok v → ∃ n, Value.toInt v = .ok n

def Observer.kept (o : Observer) (events : List StepEvent) : List StepEvent :=
  if o.keeps then events else []

theorem Observer.kept_append (o : Observer) (first second : List StepEvent) :
    o.kept (first ++ second) = o.kept first ++ o.kept second := by
  unfold Observer.kept
  split <;> simp

theorem Observer.kept_nil (o : Observer) : o.kept [] = [] := by
  unfold Observer.kept
  split <;> rfl

theorem stopped_status_some (name : String) (t : Thrown) :
    (if (Signal.stageFailed name t.signal).isCancelledStage then StageStatus.cancelled else .failed) =
      stoppedStatus (some t) :=
  rfl

theorem TrackResult.of_stages_stages (track : Track) (worker : Worker) (stages : List StageResult)
    (ending : StagesEnd) : (TrackResult.ofStages track worker stages ending).stages = stages := by
  cases ending with
  | halted signal => cases signal <;> rfl
  | _ => rfl

/-! ## Steps that hand no event -/

/-- A computation that hands no event to the observer, answers only with values that satisfy
`P`, and unwinds, if at all, only with a fault no step has claimed yet. -/
def Unheard (P : α → Prop) (m : Running α) : Prop :=
  ∀ w, (m.run.run w).2.events = w.events ∧
    match (m.run.run w).1 with
    | .ok a => P a
    | .error t => ∃ f, t = Thrown.ofFault f

namespace Unheard

variable {P : α → Prop} {Q : β → Prop}

theorem pure {a : α} (holds : P a) : Unheard P (Pure.pure a : Running α) :=
  fun _ => ⟨rfl, holds⟩

theorem throw (f : Fault) : Unheard P (MonadExcept.throw (Thrown.ofFault f) : Running α) :=
  fun _ => ⟨rfl, f, rfl⟩

theorem get : Unheard (fun _ => True) (MonadState.get : Running World) :=
  fun _ => ⟨rfl, trivial⟩

theorem modify (f : World → World) (kept : ∀ w, (f w).events = w.events) :
    Unheard (fun _ => True) (modify f : Running Unit) :=
  fun w => ⟨kept w, trivial⟩

theorem bind {m : Running α} {f : α → Running β} (first : Unheard P m)
    (next : ∀ a, P a → Unheard Q (f a)) : Unheard Q (m >>= f) := by
  intro w
  obtain ⟨quiet₁, answered₁⟩ := first w
  rw [run_bind]
  rcases ran : m.run.run w with ⟨_ | a, w₁⟩
  · rw [ran] at quiet₁ answered₁
    exact ⟨quiet₁, answered₁⟩
  · rw [ran] at quiet₁ answered₁
    obtain ⟨quiet₂, answered₂⟩ := next a answered₁ w₁
    exact ⟨quiet₂.trans quiet₁, answered₂⟩

theorem ite {c : Prop} [Decidable c] {m₁ m₂ : Running α} (yes : Unheard P m₁) (no : Unheard P m₂) :
    Unheard P (if c then m₁ else m₂) := by
  split
  · exact yes
  · exact no

theorem events {m : Running α} (unheard : Unheard P m) (w : World) :
    (m.run.run w).2.events = w.events :=
  (unheard w).1

theorem answer {m : Running α} (unheard : Unheard P m) {w w' : World} {a : α}
    (ran : m.run.run w = (.ok a, w')) : P a := by
  have answered := (unheard w).2
  rw [ran] at answered
  exact answered

theorem unclaimed {m : Running α} (unheard : Unheard P m) {w w' : World} {t : Thrown}
    (ran : m.run.run w = (.error t, w')) : ∃ f, t = Thrown.ofFault f := by
  have answered := (unheard w).2
  rw [ran] at answered
  exact answered

end Unheard

theorem cancel_unheard (track : String) : Unheard (fun _ => True) (cancel track) :=
  Unheard.modify _ fun _ => rfl

theorem apply_cancels_unheard (track : String) (reply : Reply) :
    Unheard (fun _ => True) (applyCancels track reply) := by
  unfold applyCancels cancelNamed cancelLive
  refine Unheard.bind (Unheard.ite (cancel_unheard track) (Unheard.pure trivial)) fun _ _ => ?_
  refine Unheard.bind (P := fun _ => True) ?_ fun _ _ =>
    Unheard.ite (Unheard.modify _ fun _ => rfl) (Unheard.pure trivial)
  split
  · exact Unheard.bind Unheard.get fun _ _ => Unheard.ite (cancel_unheard _) (Unheard.throw _)
  · exact Unheard.pure trivial

/-- Handing an action to the executor hands no event; it answers with a status some reply of
the executor carries, or unwinds with a fault no step has claimed yet. -/
theorem execute_unheard (r : Runner) (track : String) (worker : Worker) (stack : Stack)
    (path : String) (action : Action) :
    Unheard (fun v => ∃ c, (r.executor c).result = .ok v) (r.execute track worker stack path action) := by
  unfold Runner.execute
  refine Unheard.bind (P := fun _ => True) ?_ fun env _ => ?_
  · split
    · exact Unheard.pure trivial
    · exact Unheard.throw _
  · refine Unheard.bind (Unheard.modify _ fun _ => rfl) fun _ _ =>
      Unheard.bind (apply_cancels_unheard track _) fun _ _ => ?_
    split
    · rename_i v answered
      exact Unheard.pure ⟨_, answered⟩
    · exact Unheard.throw _

/-! ## One action -/

section Quiet

variable {r : Runner} (quiet : r.observer.Quiet)
include quiet

theorem run_observe_kept (hook : Hook) (event : StepEvent) (received : Option Thrown) (w : World) :
    (r.observe hook event received).run.run w =
      (.ok (), { w with events := w.events ++ r.observer.kept [event] }) := by
  rw [run_observe_of_quiet quiet]
  unfold Observer.kept
  split <;> simp_all

/-- After an action: a cancelled track unwinds with its cancellation and hands no event; a
status other than zero is reported at the action, as a failure first seen there; a zero
status lets the stage go on. -/
theorem run_settle_kept (track stagePath : String) (action : Action) (result : ActionResult)
    (w : World) :
    (r.settle track stagePath action result).run.run w =
      if track ∈ w.cancelled then
        (.error { signal := .cancelled ("Track " ++ track ++ " cancelled") }, w)
      else if result.exitCode ≠ 0 then
        (.error (Thrown.mk (.actionFailed action.name result.exitCode)
            (some ⟨stagePath ++ "/" ++ action.name, "action", action.name⟩)),
          { w with
            events := (w.events ++ r.observer.kept
              [.failed (stagePath ++ "/" ++ action.name) action.name
                (Thrown.mk (.actionFailed action.name result.exitCode)
                  (some ⟨stagePath ++ "/" ++ action.name, "action", action.name⟩))]) })
      else (.ok (), w) := by
  unfold Runner.settle
  rw [run_bind, run_check_cancelled]
  by_cases flagged : track ∈ w.cancelled
  · simp only [flagged, if_true]
  · simp only [flagged, if_false]
    by_cases exited : result.exitCode = 0
    · simp only [exited, bne_self_eq_false, Bool.false_eq_true, if_false, ne_eq, not_true_eq_false]
      rfl
    · simp only [exited, bne_iff_ne, ne_eq, not_false_eq_true, if_true]
      rw [run_bind, run_observe_kept quiet]
      rfl

theorem run_call_action_kept (readable : r.ReadsExits) (track : String) (worker : Worker)
    (stack : Stack) (stagePath : String) (action : Action) (w : World) :
    (∃ f w', (r.callAction track worker stack stagePath action).run.run w =
        (.error (Thrown.mk (.raised f) (some ⟨stagePath ++ "/" ++ action.name, "action", action.name⟩)), w') ∧
      w'.events = w.events ++ r.observer.kept
        [.failed (stagePath ++ "/" ++ action.name) action.name
          (Thrown.mk (.raised f) (some ⟨stagePath ++ "/" ++ action.name, "action", action.name⟩))]) ∨
    (∃ code w' record, (r.callAction track worker stack stagePath action).run.run w =
        (.ok ⟨action.name, action.command, code⟩, w') ∧
      w'.events = w.events ++ r.observer.kept
        (if code = 0 then [.finished (stagePath ++ "/" ++ action.name) record] else [])) := by
  unfold Runner.callAction
  rw [run_bind, run_try_catch]
  have unheard := execute_unheard r track worker stack (stagePath ++ "/" ++ action.name) action
  have unchanged := unheard.events w
  rcases executed : (r.execute track worker stack (stagePath ++ "/" ++ action.name) action).run.run w
    with ⟨_ | v, w₁⟩
  · -- the executor failed: its fault is claimed at the action and reported there
    obtain ⟨f, rfl⟩ := unheard.unclaimed executed
    rw [executed] at unchanged
    left
    refine ⟨f, { w₁ with events := (w₁.events ++ r.observer.kept
      [.failed (stagePath ++ "/" ++ action.name) action.name
        (Thrown.mk (.raised f) (some ⟨stagePath ++ "/" ++ action.name, "action", action.name⟩))]) },
      ?_, by rw [← unchanged]⟩
    dsimp only
    rw [run_bind, run_observe_kept quiet]
    rfl
  · -- the executor answered: its status reads, and a zero status ends the action
    rw [executed] at unchanged
    dsimp only at unchanged
    obtain ⟨c, replied⟩ := unheard.answer executed
    obtain ⟨code, read⟩ := readable c v replied
    right
    refine ⟨code, ?_⟩
    dsimp only
    rw [run_bind, read]
    dsimp only
    rw [run_pure]
    dsimp only
    rw [run_bind]
    by_cases zero : code = 0
    · rw [if_pos (by simp [zero]), run_observe_kept quiet]
      exact ⟨_, _, rfl, by rw [if_pos zero, ← unchanged]⟩
    · rw [if_neg (by simpa using zero)]
      refine ⟨_, [], rfl, ?_⟩
      rw [if_neg zero, Observer.kept_nil, List.append_nil, ← unchanged]

theorem run_start_action_kept (readable : r.ReadsExits) (track : String) (worker : Worker)
    (stack : Stack) (stagePath : String) (action : Action) (w : World) :
    (track ∈ w.cancelled ∧ (r.startAction track worker stack stagePath action).run.run w =
        (.error { signal := .cancelled ("Track " ++ track ++ " cancelled") }, w)) ∨
    (∃ f w' metrics, (r.startAction track worker stack stagePath action).run.run w =
        (.error (Thrown.mk (.raised f) (some ⟨stagePath ++ "/" ++ action.name, "action", action.name⟩)),
          w') ∧
      w'.events = w.events ++ r.observer.kept
        [.started (stagePath ++ "/" ++ action.name) metrics,
          .failed (stagePath ++ "/" ++ action.name) action.name
            (Thrown.mk (.raised f) (some ⟨stagePath ++ "/" ++ action.name, "action", action.name⟩))]) ∨
    (∃ code w' metrics record, (r.startAction track worker stack stagePath action).run.run w =
        (.ok ⟨action.name, action.command, code⟩, w') ∧
      w'.events = w.events ++ r.observer.kept
        (.started (stagePath ++ "/" ++ action.name) metrics ::
          if code = 0 then [.finished (stagePath ++ "/" ++ action.name) record] else [])) := by
  unfold Runner.startAction
  rw [run_bind, run_check_cancelled]
  by_cases flagged : track ∈ w.cancelled
  · exact .inl ⟨flagged, by rw [if_pos flagged]⟩
  · right
    rw [if_neg flagged]
    dsimp only
    unfold Runner.runAction Runner.openAction
    rw [run_bind, run_observe_kept quiet]
    dsimp only
    rcases run_call_action_kept quiet readable track worker stack stagePath action
        { w with events := w.events ++ r.observer.kept [.started (stagePath ++ "/" ++ action.name)
          [("node_type", .str "action"), ("command", .str action.command)]] } with
      ⟨f, w', ran, events⟩ | ⟨code, w', record, ran, events⟩
    · exact .inl ⟨f, w', _, ran, by rw [events, List.append_assoc, ← Observer.kept_append]; rfl⟩
    · exact .inr ⟨code, w', _, record, ran,
        by rw [events, List.append_assoc, ← Observer.kept_append]; rfl⟩

theorem run_actions_events (readable : r.ReadsExits) (track : String) (worker : Worker)
    (stack : Stack) (stagePath : String) (actions : List Action) (done : List ActionResult)
    (w : World) :
    ∃ results stopped w' events,
      (r.runActions track worker stack stagePath actions done).run.run w =
        (.ok (done ++ results, stopped), w') ∧
      ActionsEvents stagePath actions results (stoppedStatus stopped) events ∧
      w'.events = w.events ++ r.observer.kept events := by
  induction actions generalizing done w with
  | nil => exact ⟨[], none, w, [], by simp [Runner.runActions]; rfl, .finished, by simp [Observer.kept_nil]⟩
  | cons action rest ih =>
    rw [Runner.runActions, run_bind, run_attempt]
    rcases run_start_action_kept quiet readable track worker stack stagePath action w with
      ⟨-, ran⟩ | ⟨f, w₁, metrics, ran, events₁⟩ | ⟨code, w₁, metrics, record, ran, events₁⟩
    · -- the track was found cancelled before the action
      rw [ran]
      exact ⟨[], _, w, [], by simp; rfl, .cancelledBefore, by simp [Observer.kept_nil]⟩
    · -- the executor failed: reported at the action, the stage fails
      rw [ran]
      exact ⟨[], _, w₁, _, by simp; rfl, .raised metrics _ rfl, events₁⟩
    · -- the action exited; the check after it decides what follows
      rw [ran]
      dsimp only
      rw [run_bind, run_attempt, run_settle_kept quiet]
      by_cases flagged : track ∈ w₁.cancelled
      · rw [if_pos flagged]
        by_cases zero : code = 0
        · rw [if_pos zero] at events₁
          exact ⟨[_], _, w₁, _, rfl, .cancelledAfterEnd metrics record zero, events₁⟩
        · rw [if_neg zero] at events₁
          exact ⟨[_], _, w₁, _, rfl, .cancelledAfterFailure metrics zero, events₁⟩
      · rw [if_neg flagged]
        by_cases zero : code = 0
        · -- ended with zero: the rest of the actions follow
          rw [if_neg (by simpa using zero)]
          rw [if_pos zero] at events₁
          obtain ⟨results, stopped, w', events, loop, grammar, events'⟩ :=
            ih (done ++ [⟨action.name, action.command, code⟩]) w₁
          refine ⟨⟨action.name, action.command, code⟩ :: results, stopped, w', _, ?_,
            .ended metrics record zero grammar, ?_⟩
          · dsimp only
            rw [loop, List.append_assoc, List.singleton_append]
          · rw [events', events₁, List.append_assoc, ← Observer.kept_append]
            rfl
        · -- exited otherwise while the track runs on: reported at the action
          rw [if_pos (by simpa using zero)]
          rw [if_neg zero] at events₁
          refine ⟨[⟨action.name, action.command, code⟩], _, _, _, rfl,
            .exitedOtherwise metrics (Thrown.mk (.actionFailed action.name code)
              (some ⟨stagePath ++ "/" ++ action.name, "action", action.name⟩)) zero rfl, ?_⟩
          rw [events₁, List.append_assoc, ← Observer.kept_append]
          rfl

/-! ## One stage -/

theorem run_close_stage_kept (track : Track) (stage : Stage) (actions : List ActionResult)
    (stopped : Option Thrown) (w : World) :
    ∃ report record, (r.closeStage track stage actions stopped).run.run w =
        (.ok (StageResult.mk stage.name (stoppedStatus stopped) actions
            (stopped.map (·.signal.message)),
          stopped.map fun cause => .stageFailed stage.name cause.signal),
          { w with events := (w.events ++ r.observer.kept
            (report ++ [.finished (track.name ++ "/" ++ stage.name) record])) }) ∧
      ((stoppedStatus stopped = .cancelled ∧ ∃ t : Thrown,
          t.origin = some ⟨track.name ++ "/" ++ stage.name, "stage", stage.name⟩ ∧
          report = [.failed (track.name ++ "/" ++ stage.name) stage.name t]) ∨
        (stoppedStatus stopped ≠ .cancelled ∧ report = [])) ∧
      record.lookup "status" = some (.str (stoppedStatus stopped).word) := by
  unfold Runner.closeStage Runner.recordStage
  cases stopped with
  | none =>
    rw [run_bind, run_observe_kept quiet]
    exact ⟨[], _, rfl, .inr ⟨by decide, rfl⟩, by simp [List.lookup, stoppedStatus]⟩
  | some cause =>
    dsimp only
    rw [stopped_status_some]
    by_cases byCancel : (Signal.stageFailed stage.name cause.signal).isCancelledStage = true
    · -- the cancellation is reported at the stage before its end
      have cancelled : stoppedStatus (some cause) = .cancelled := by
        rw [← stopped_status_some stage.name, if_pos byCancel]
      rw [if_pos byCancel, run_bind, run_observe_kept quiet]
      dsimp only
      rw [run_bind, run_observe_kept quiet, cancelled]
      refine ⟨[.failed (track.name ++ "/" ++ stage.name) stage.name
          (Thrown.mk (.stageFailed stage.name cause.signal)
            (some ⟨track.name ++ "/" ++ stage.name, "stage", stage.name⟩))],
        [("type", .str "stage"), ("name", .str stage.name),
          ("path", .str (track.name ++ "/" ++ stage.name)), ("status", .str StageStatus.cancelled.word)],
        ?_, .inl ⟨rfl, _, rfl, rfl⟩, by simp [List.lookup]⟩
      rw [List.append_assoc, ← Observer.kept_append, List.singleton_append]
      rfl
    · have failed : stoppedStatus (some cause) = .failed := by
        rw [← stopped_status_some stage.name, if_neg byCancel]
      rw [if_neg byCancel, run_bind, run_pure]
      dsimp only
      rw [run_bind, run_observe_kept quiet, failed]
      exact ⟨[], _, rfl, .inr ⟨by decide, rfl⟩, by simp [List.lookup, StageStatus.word]⟩

theorem run_stage_events (readable : r.ReadsExits) (track : Track) (worker : Worker) (stack : Stack)
    (stage : Stage) (w : World) :
    ∃ result failure w' block, (r.runStage track worker stack stage).run.run w =
        (.ok (result, failure), w') ∧
      StageEvents (track.name ++ "/" ++ stage.name) stage result block ∧
      w'.events = w.events ++ r.observer.kept block := by
  unfold Runner.runStage Runner.openStage
  rw [run_bind, run_observe_kept quiet]
  dsimp only
  rw [run_bind]
  obtain ⟨results, stopped, w₁, body, loop, grammar, events₁⟩ :=
    run_actions_events quiet readable track.name worker (stack.push (overlayOf stage.env)).2
      (track.name ++ "/" ++ stage.name) stage.actions [] { w with events := (w.events ++
        r.observer.kept [.started (track.name ++ "/" ++ stage.name)
          [("node_type", .str "stage"),
            ("env_layers", .int ((stack.depth + if stage.env.isEmpty then 0 else 1 : Nat)))]]) }
  rw [loop]
  dsimp only
  obtain ⟨report, record, closed, reported, recorded⟩ :=
    run_close_stage_kept quiet track stage ([] ++ results) stopped w₁
  rw [closed, List.nil_append]
  refine ⟨_, _, _, _, rfl, .mk [("node_type", .str "stage"),
    ("env_layers", .int ((stack.depth + if stage.env.isEmpty then 0 else 1 : Nat)))]
      record grammar reported recorded, ?_⟩
  simp only [events₁, List.append_assoc, ← Observer.kept_append, List.nil_append,
    List.cons_append]

/-! ## A track's stages and the track -/

theorem run_stages_events (readable : r.ReadsExits) (track : Track) (worker : Worker)
    (stack : Stack) (stages : List Stage) (done : List StageResult) (w : World) :
    ∃ results ending w' events, (r.runStages track worker stack stages done).run.run w =
        (.ok (done ++ results, ending), w') ∧
      StagesEvents track.name stages results events ∧
      w'.events = w.events ++ r.observer.kept events := by
  induction stages generalizing done w with
  | nil =>
    exact ⟨[], .completed, w, [], by simp [Runner.runStages]; rfl, .rest (fun _ mem => by cases mem),
      by simp [Observer.kept_nil]⟩
  | cons stage rest ih =>
    rw [Runner.runStages, run_bind, run_is_cancelled]
    dsimp only
    by_cases flagged : track.name ∈ w.cancelled
    · -- a cancelled track skips every stage left and hands nothing
      rw [if_pos (by simpa using flagged)]
      exact ⟨_, _, w, [], rfl, .rest (by simp [StageResult.skipped]), by simp [Observer.kept_nil]⟩
    · rw [if_neg (by simpa using flagged), run_bind]
      obtain ⟨result, failure, w₁, block, ran, started, events₁⟩ :=
        run_stage_events quiet readable track worker stack stage w
      rw [run_catch_halt_of_ok ran]
      dsimp only
      cases failure with
      | none =>
        obtain ⟨results, ending, w', events, loop, grammar, events'⟩ := ih (done ++ [result]) w₁
        refine ⟨result :: results, ending, w', block ++ events, ?_, .ran started grammar, ?_⟩
        · rw [loop, List.append_assoc, List.singleton_append]
        · rw [events', events₁, List.append_assoc, ← Observer.kept_append]
      | some cause =>
        refine ⟨result :: rest.map (fun s => StageResult.skipped s.name), .failed stage.name cause, w₁,
          block ++ [], ?_,
          .ran started (.rest (by simp [StageResult.skipped])), by rw [List.append_nil]; exact events₁⟩
        simp only [List.append_assoc, List.singleton_append]
        rfl

theorem drive_track_events (readable : r.ReadsExits) (track : Track) (worker : Worker) (w : World) :
    ∃ result w' metrics body, (r.driveTrack track worker).run.run w = (.ok result, w') ∧
      metrics.lookup "worker" = some (.str worker.name) ∧
      StagesEvents track.name track.stages result.stages body ∧
      w'.events = w.events ++ r.observer.kept (.started track.name metrics :: body) := by
  obtain ⟨stages, ending, w', body, loop, grammar, events'⟩ :=
    run_stages_events quiet readable track worker (r.trackStack track) track.stages []
      { w with events := (w.events ++ r.observer.kept
        [.started track.name [("node_type", .str "track"), ("worker", .str worker.name)]]) }
  rw [run_drive_track_of_opened r (run_observe_kept quiet _ _ _ _), loop]
  refine ⟨_, w', [("node_type", .str "track"), ("worker", .str worker.name)], body, rfl,
    by simp [List.lookup], ?_, ?_⟩
  · rw [TrackResult.of_stages_stages, List.nil_append]
    exact grammar
  · rw [events', List.append_assoc, ← Observer.kept_append, List.singleton_append]

theorem run_close_track_kept (track : Track) (worker : Worker) (result : TrackResult) (w : World) :
    ∃ record w', (r.closeTrack track worker (.ok result)).run.run w = (.ok result, w') ∧
      record.lookup "status" = some (.str result.status.word) ∧
      w'.events = w.events ++ r.observer.kept [.finished track.name record] := by
  unfold Runner.closeTrack
  rw [run_bind, run_observe_kept quiet]
  exact ⟨_, _, rfl, by simp [List.lookup], rfl⟩

end Quiet

/-- Under an observer whose hooks never fail and an executor whose every exit status reads
as a whole number, a track's run hands no event when the pool grants it no worker. A run
granted one ends with a result, and the events it hands read as `TrackEvents`: the track's
start naming the worker, the block of every stage that started with one error at the
stage exactly when it ends cancelled, and the track's end carrying the returned status. -/
theorem run_track_events_bracketed (r : Runner) (track : Track) (w : World)
    (quiet : r.observer.Quiet) (readable : r.ReadsExits) :
    (∀ refusal, w.pool.acquire r.root (.str track.selector) = .error refusal →
        ((r.runTrack track).run.run w).2.events = w.events) ∧
    (∀ worker pool, w.pool.acquire r.root (.str track.selector) = .ok (worker, pool) →
      ∃ result w' events, (r.runTrack track).run.run w = (.ok result, w') ∧
        TrackEvents track worker result events ∧ w'.events = w.events ++ r.observer.kept events) := by
  constructor
  · -- refused: the run ends at the pool, before any event
    intro refusal refused
    unfold Runner.runTrack
    rw [run_bind, run_claim_worker, refused]
    rcases refusal with _ | _ | _ | _ <;> rfl
  · intro worker pool acquired
    rw [run_run_track_of_acquired r track acquired]
    obtain ⟨result, w₁, metrics, body, driven, named, grammar, events₁⟩ :=
      drive_track_events quiet readable track worker { w with pool }
    rw [driven]
    obtain ⟨record, w', closed, recorded, events'⟩ := run_close_track_kept quiet track worker result w₁
    refine ⟨result, w', _, closed, ⟨metrics, body, record, rfl, named, recorded, grammar⟩, ?_⟩
    rw [events', events₁, List.append_assoc, ← Observer.kept_append, List.cons_append]

/-- A one-stage track on the only worker, under an observer that records every event and
fails at no hook, with an executor that exits with zero. -/
theorem run_track_events_bracketed_single_stage :
    ({} : Observer).Quiet ∧ (⟨fun _ => {}, {}, [], ":", ""⟩ : Runner).ReadsExits ∧
      ({ workers := [⟨"w1", "w1", ["linux"]⟩] } : Pool).acquire "" (.str "linux") =
        .ok (⟨"w1", "w1", ["linux"]⟩,
          { workers := [⟨"w1", "w1", ["linux"]⟩], busy := ["w1"], directories := ["w1"] }) ∧
      ∃ result w' events, ((⟨fun _ => {}, {}, [], ":", ""⟩ : Runner).runTrack
          ⟨"t", "linux", [⟨"s", [⟨"a", ["true"]⟩], []⟩], []⟩).run.run
          { pool := { workers := [⟨"w1", "w1", ["linux"]⟩] } } = (.ok result, w') ∧
        TrackEvents ⟨"t", "linux", [⟨"s", [⟨"a", ["true"]⟩], []⟩], []⟩ ⟨"w1", "w1", ["linux"]⟩
          result events ∧
        w'.events = [] ++ ({} : Observer).kept events :=
  have quiet : ({} : Observer).Quiet := fun _ _ _ => rfl
  have readable : (⟨fun _ => {}, {}, [], ":", ""⟩ : Runner).ReadsExits := fun _ _ replied =>
    ⟨0, by cases replied; rfl⟩
  ⟨quiet, readable, Pool.acquire_single_idle, (run_track_events_bracketed ⟨fun _ => {}, {}, [], ":", ""⟩
    ⟨"t", "linux", [⟨"s", [⟨"a", ["true"]⟩], []⟩], []⟩
    { pool := { workers := [⟨"w1", "w1", ["linux"]⟩] } } quiet readable).2 _ _ Pool.acquire_single_idle⟩

/-- An action that exits with 1 while its executor sets the track's cancel flag: the stage
ends cancelled, with the cancellation reported at the stage, and the only event at the
action's own path is its start. -/
theorem run_track_cancelled_exit_unreported :
    ∃ result w', ((⟨fun _ => { cancelOwn := true, result := .ok (.int 1) }, {}, [], ":", ""⟩ :
        Runner).runTrack ⟨"t", "linux", [⟨"s", [⟨"a", ["a"]⟩], []⟩], []⟩).run.run
        { pool := { workers := [⟨"w1", "w1", ["linux"]⟩] } } = (.ok result, w') ∧
      result.stages.map (fun stage => stage.actions.map (·.exitCode)) = [[1]] ∧
      result.stages.map (·.status) = [.cancelled] ∧
      w'.events.map StepEvent.path = ["t", "t/s", "t/s/a", "t/s", "t/s", "t"] := by
  rw [run_run_track_of_acquired _ _ Pool.acquire_single_idle]
  exact ⟨_, _, rfl, rfl, rfl, rfl⟩

end Conveyor.Pipeline

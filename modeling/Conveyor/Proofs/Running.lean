import Mathlib
import Conveyor.Pipeline.Runner

/-!
# Running computations

Equations for running the runner's computations, and what a run may change in the
world while a track holds its worker. Such a run keeps the pool and the names that may be
cancelled, only ever adds cancel flags, and only appends calls. A computation all of whose
runs are of that kind, with every call it appends satisfying a property `P`, is *confined*
to `P`. Confinement is closed under the monad's operations, so each step of the runner is
shown confined once, and stages and whole track bodies inherit it; the property of a call
grows from "made for this action" to "made for some action of some stage of this track".
-/

namespace Conveyor.Pipeline

open Conveyor.Env Conveyor.Workers

set_option autoImplicit false

variable {α β : Type}

theorem run_bind (m : Running α) (f : α → Running β) (w : World) :
    (m >>= f).run.run w = match m.run.run w with
      | (.ok a, w') => (f a).run.run w'
      | (.error t, w') => (.error t, w') := by
  simp only [ExceptT.run_bind, StateT.run_bind]
  rcases m.run.run w with ⟨_ | _, w'⟩ <;> rfl

theorem run_bind_of_ok {m : Running α} {w w' : World} {a : α} (f : α → Running β)
    (ran : m.run.run w = (.ok a, w')) : (m >>= f).run.run w = (f a).run.run w' := by
  rw [run_bind, ran]

theorem run_bind_of_error {m : Running α} {w w' : World} {t : Thrown} (f : α → Running β)
    (ran : m.run.run w = (.error t, w')) : (m >>= f).run.run w = (.error t, w') := by
  rw [run_bind, ran]

theorem run_pure (a : α) (w : World) : (Pure.pure a : Running α).run.run w = (.ok a, w) := rfl

theorem run_throw (t : Thrown) (w : World) : (throw t : Running α).run.run w = (.error t, w) := rfl

theorem run_get (w : World) : (get : Running World).run.run w = (.ok w, w) := rfl

theorem run_modify (f : World → World) (w : World) :
    (modify f : Running Unit).run.run w = (.ok (), f w) := rfl

theorem run_try_catch (m : Running α) (h : Thrown → Running α) (w : World) :
    (tryCatch m h).run.run w = match m.run.run w with
      | (.ok a, w') => (.ok a, w')
      | (.error t, w') => (h t).run.run w' := by
  show (ExceptT.tryCatch m h).run.run w = _
  have plain : StateT.run m w = m.run.run w := rfl
  simp only [ExceptT.tryCatch, ExceptT.run_mk, StateT.run_bind, plain]
  rcases m.run.run w with ⟨_ | _, w'⟩ <;> rfl

/-- `attempt` never unwinds: it hands back how the computation ended, in the world it
reached. -/
theorem run_attempt (m : Running α) (w : World) :
    (attempt m).run.run w = (.ok (m.run.run w).1, (m.run.run w).2) := by
  simp only [attempt, run_try_catch, run_bind]
  rcases m.run.run w with ⟨_ | _, w'⟩ <;> rfl

theorem run_map_attempt (f : Except Thrown α → β) (m : Running α) (w : World) :
    (f <$> attempt m).run.run w = (.ok (f (m.run.run w).1), (m.run.run w).2) := by
  rw [← bind_pure_comp, run_bind, run_attempt]
  rfl

theorem run_attempt_bind (m : Running α) (f : Except Thrown α → Running β) (w : World) :
    (attempt m >>= f).run.run w = (f (m.run.run w).1).run.run (m.run.run w).2 := by
  rw [run_bind, run_attempt]

theorem run_catch_halt (m : Running α) (w : World) :
    (catchHalt m).run.run w = match m.run.run w with
      | (.ok a, w') => (.ok (.ok a), w')
      | (.error t, w') => (if t.signal.haltsTrack then .ok (.error t.signal) else .error t, w') := by
  unfold catchHalt
  rw [run_try_catch, run_bind]
  rcases m.run.run w with ⟨_ | a, w'⟩
  · dsimp only
    split <;> rfl
  · rfl

theorem run_catch_halt_of_ok {m : Running α} {w w' : World} {a : α}
    (ran : m.run.run w = (.ok a, w')) : (catchHalt m).run.run w = (.ok (.ok a), w') := by
  rw [run_catch_halt, ran]

theorem run_is_cancelled (track : String) (w : World) :
    (isCancelled track).run.run w = (.ok (w.cancelled.contains track), w) := rfl

theorem run_check_cancelled (track : String) (w : World) :
    (checkCancelled track).run.run w =
      (if track ∈ w.cancelled then
        .error { signal := .cancelled ("Track " ++ track ++ " cancelled") }
      else .ok (), w) := by
  unfold checkCancelled
  rw [run_bind, run_is_cancelled]
  dsimp only
  by_cases flagged : track ∈ w.cancelled
  · rw [if_pos flagged, if_pos (by simpa using flagged)]
    rfl
  · rw [if_neg flagged, if_neg (by simpa using flagged)]
    rfl

theorem run_observe (r : Runner) (hook : Hook) (event : StepEvent) (received : Option Thrown)
    (w : World) :
    (r.observe hook event received).run.run w =
      ((match r.observer.raises? hook event.path received with
        | none => .ok ()
        | some t => .error t),
        if r.observer.keeps then { w with events := w.events ++ [event] } else w) := by
  unfold Runner.observe
  cases r.observer.keeps <;> cases r.observer.raises? hook event.path received <;> rfl

/-! ## Confinement -/

/-- What a run may do to the world while its track holds a worker: keep the pool and the
names that may be cancelled, add cancel flags, and append calls that satisfy `P`. -/
structure World.Within (P : Call → Prop) (w w' : World) : Prop where
  pool : w'.pool = w.pool
  live : w'.live = w.live
  flags : w.cancelled ⊆ w'.cancelled
  calls : ∃ made, w'.calls = w.calls ++ made ∧ ∀ c ∈ made, P c

theorem World.Within.refl (P : Call → Prop) (w : World) : World.Within P w w :=
  ⟨rfl, rfl, List.Subset.refl _, [], by simp, by simp⟩

theorem World.Within.trans {P : Call → Prop} {w₁ w₂ w₃ : World} (first : World.Within P w₁ w₂)
    (second : World.Within P w₂ w₃) : World.Within P w₁ w₃ := by
  obtain ⟨made₁, calls₁, satisfies₁⟩ := first.calls
  obtain ⟨made₂, calls₂, satisfies₂⟩ := second.calls
  refine ⟨second.pool.trans first.pool, second.live.trans first.live,
    List.Subset.trans first.flags second.flags, made₁ ++ made₂, ?_, ?_⟩
  · rw [calls₂, calls₁, List.append_assoc]
  · intro c mem
    rcases List.mem_append.mp mem with inFirst | inSecond
    · exact satisfies₁ c inFirst
    · exact satisfies₂ c inSecond

theorem World.Within.weaken {P Q : Call → Prop} {w w' : World} (within : World.Within P w w')
    (implies : ∀ c, P c → Q c) : World.Within Q w w' := by
  obtain ⟨made, calls, satisfies⟩ := within.calls
  exact ⟨within.pool, within.live, within.flags, made, calls, fun c mem => implies c (satisfies c mem)⟩

def Confined (P : Call → Prop) (m : Running α) : Prop :=
  ∀ w, World.Within P w (m.run.run w).2

section Confined

variable {P : Call → Prop}

theorem Confined.weaken {Q : Call → Prop} {m : Running α} (confined : Confined P m)
    (implies : ∀ c, P c → Q c) : Confined Q m :=
  fun w => (confined w).weaken implies

theorem Confined.pure (a : α) : Confined P (pure a : Running α) :=
  fun w => World.Within.refl P w

theorem Confined.throw (t : Thrown) : Confined P (throw t : Running α) :=
  fun w => World.Within.refl P w

theorem Confined.get : Confined P (get : Running World) :=
  fun w => World.Within.refl P w

theorem Confined.throw_bind (t : Thrown) (f : α → Running β) :
    Confined P ((MonadExcept.throw t : Running α) >>= f) := by
  intro w
  rw [run_bind]
  exact World.Within.refl P w

theorem Confined.bind {m : Running α} {f : α → Running β} (first : Confined P m)
    (next : ∀ a, Confined P (f a)) : Confined P (m >>= f) := by
  intro w
  have stepped := first w
  rw [run_bind]
  rcases ran : m.run.run w with ⟨_ | a, w'⟩
  · simpa [ran] using stepped
  · rw [ran] at stepped
    exact stepped.trans (next a w')

theorem Confined.try_catch {m : Running α} {h : Thrown → Running α} (first : Confined P m)
    (handler : ∀ t, Confined P (h t)) : Confined P (tryCatch m h) := by
  intro w
  have stepped := first w
  rw [run_try_catch]
  rcases ran : m.run.run w with ⟨_ | a, w'⟩
  · rw [ran] at stepped
    exact stepped.trans (handler _ w')
  · simpa [ran] using stepped

theorem Confined.attempt {m : Running α} (confined : Confined P m) : Confined P (attempt m) := by
  intro w
  rw [run_attempt]
  exact confined w

theorem Confined.ite {c : Prop} [Decidable c] {m₁ m₂ : Running α} (yes : Confined P m₁)
    (no : Confined P m₂) : Confined P (if c then m₁ else m₂) := by
  split
  · exact yes
  · exact no

theorem Confined.catch_halt {m : Running α} (confined : Confined P m) :
    Confined P (catchHalt m) :=
  Confined.try_catch (Confined.bind confined fun _ => Confined.pure _) fun _ =>
    Confined.ite (Confined.pure _) (Confined.throw _)

theorem cancel_confined (track : String) : Confined P (cancel track) := by
  intro w
  exact ⟨rfl, rfl, List.subset_append_left _ _, [], (List.append_nil _).symm, by simp⟩

theorem is_cancelled_confined (track : String) : Confined P (isCancelled track) := by
  intro w
  rw [run_is_cancelled]
  exact World.Within.refl P w

theorem check_cancelled_confined (track : String) : Confined P (checkCancelled track) := by
  intro w
  rw [run_check_cancelled]
  exact World.Within.refl P w

theorem observe_confined (r : Runner) (hook : Hook) (event : StepEvent)
    (received : Option Thrown) : Confined P (r.observe hook event received) := by
  intro w
  rw [run_observe]
  dsimp only
  split
  · exact ⟨rfl, rfl, List.Subset.refl _, [], by simp, by simp⟩
  · exact World.Within.refl P w

theorem Confined.modify_flags (f : List String → List String → List String)
    (grows : ∀ flags live, flags ⊆ f flags live) :
    Confined P (modify fun w => { w with cancelled := f w.cancelled w.live } : Running Unit) := by
  intro w
  exact ⟨rfl, rfl, grows w.cancelled w.live, [], (List.append_nil _).symm, by simp⟩

theorem apply_cancels_confined (track : String) (reply : Reply) :
    Confined P (applyCancels track reply) := by
  unfold applyCancels
  refine Confined.bind (Confined.ite (cancel_confined track) (Confined.pure ())) fun _ => ?_
  refine Confined.bind ?_ fun _ => Confined.ite ?_ (Confined.pure ())
  · split
    · exact Confined.bind Confined.get fun _ => Confined.ite (cancel_confined _) (Confined.throw _)
    · exact Confined.pure ()
  · exact Confined.modify_flags (fun flags live => flags ++ live) fun _ _ => List.subset_append_left _ _

end Confined

/-! ## The calls of a run -/

def Runner.CallFor (r : Runner) (track : String) (worker : Worker) (stack : Stack) (path : String)
    (action : Action) (c : Call) : Prop :=
  ∃ env, stack.resolve r.ambient = .ok env ∧
    c = { track, path, argv := action.argv, cwd := worker.workspace, env }

/-- A call the runner makes for an action of a stage, in the stage's layer over the given
layers. -/
def Runner.StageCall (r : Runner) (track : Track) (worker : Worker) (stack : Stack) (stage : Stage)
    (c : Call) : Prop :=
  ∃ a ∈ stage.actions, r.CallFor track.name worker (stack.push (overlayOf stage.env)).2
    (track.name ++ "/" ++ stage.name ++ "/" ++ a.name) a c

section Steps

variable {P : Call → Prop} (r : Runner) (worker : Worker) (stack : Stack)

theorem execute_confined (track path : String) (action : Action) :
    Confined (r.CallFor track worker stack path action) (r.execute track worker stack path action) := by
  unfold Runner.execute
  cases resolved : stack.resolve r.ambient with
  | error f => exact Confined.throw_bind _ _
  | ok env =>
    simp only [pure_bind]
    refine Confined.bind ?_ fun _ => Confined.bind (apply_cancels_confined _ _) fun _ => ?_
    · intro w
      exact ⟨rfl, rfl, List.Subset.refl _, _, rfl, by simpa using ⟨env, resolved, rfl⟩⟩
    · split
      · exact Confined.pure _
      · exact Confined.throw _

theorem call_action_confined (track stagePath : String) (action : Action) :
    Confined (r.CallFor track worker stack (stagePath ++ "/" ++ action.name) action)
      (r.callAction track worker stack stagePath action) := by
  unfold Runner.callAction
  refine Confined.bind (Confined.try_catch (execute_confined r worker stack track _ action)
    fun t => Confined.bind (observe_confined r _ _ _) fun _ => Confined.throw _) fun exit => ?_
  refine Confined.bind ?_ fun code =>
    Confined.bind (Confined.ite (observe_confined r _ _ _) (Confined.pure ())) fun _ => Confined.pure _
  split
  · exact Confined.pure _
  · exact Confined.throw _

theorem run_action_confined (track stagePath : String) (action : Action) :
    Confined (r.CallFor track worker stack (stagePath ++ "/" ++ action.name) action)
      (r.runAction track worker stack stagePath action) :=
  Confined.bind (observe_confined r _ _ _) fun _ => call_action_confined r worker stack track stagePath action

theorem start_action_confined (track stagePath : String) (action : Action) :
    Confined (r.CallFor track worker stack (stagePath ++ "/" ++ action.name) action)
      (r.startAction track worker stack stagePath action) :=
  Confined.bind (check_cancelled_confined track) fun _ =>
    run_action_confined r worker stack track stagePath action

theorem settle_confined (track stagePath : String) (action : Action) (result : ActionResult) :
    Confined P (r.settle track stagePath action result) := by
  unfold Runner.settle
  refine Confined.bind (check_cancelled_confined track) fun _ => ?_
  exact Confined.ite (Confined.bind (observe_confined r _ _ _) fun _ => Confined.throw _) (Confined.pure ())

theorem run_actions_confined (track stagePath : String) (actions : List Action)
    (done : List ActionResult) :
    Confined (fun c => ∃ a ∈ actions, r.CallFor track worker stack (stagePath ++ "/" ++ a.name) a c)
      (r.runActions track worker stack stagePath actions done) := by
  induction actions generalizing done with
  | nil => exact Confined.pure _
  | cons action rest ih =>
    rw [Runner.runActions]
    have first : Confined (fun c => ∃ a ∈ action :: rest,
        r.CallFor track worker stack (stagePath ++ "/" ++ a.name) a c)
        (attempt (r.startAction track worker stack stagePath action)) :=
      Confined.attempt ((start_action_confined r worker stack track stagePath action).weaken
        fun c made => ⟨action, List.mem_cons_self, made⟩)
    refine Confined.bind first fun outcome => ?_
    split
    · exact Confined.pure _
    · refine Confined.bind (Confined.attempt (settle_confined r track stagePath action _))
        fun settled => ?_
      split
      · exact Confined.pure _
      · exact (ih _).weaken fun c ⟨a, mem, made⟩ => ⟨a, List.mem_cons_of_mem _ mem, made⟩

theorem close_stage_confined (track : Track) (stage : Stage) (actions : List ActionResult)
    (stopped : Option Thrown) : Confined P (r.closeStage track stage actions stopped) := by
  unfold Runner.closeStage Runner.recordStage
  split
  · exact Confined.bind (observe_confined r _ _ _) fun _ => Confined.pure _
  · exact Confined.bind (Confined.ite (observe_confined r _ _ _) (Confined.pure ())) fun _ =>
      Confined.bind (observe_confined r _ _ _) fun _ => Confined.pure _

theorem run_stage_confined (track : Track) (stage : Stage) :
    Confined (r.StageCall track worker stack stage) (r.runStage track worker stack stage) := by
  unfold Runner.runStage Runner.openStage
  exact Confined.bind (observe_confined r _ _ _) fun _ =>
    Confined.bind (run_actions_confined r _ _ _ _ _ _) fun ⟨actions, stopped⟩ =>
      close_stage_confined r track stage actions stopped

theorem run_stages_confined (track : Track) (stages : List Stage) (done : List StageResult) :
    Confined (fun c => ∃ s ∈ stages, r.StageCall track worker stack s c)
      (r.runStages track worker stack stages done) := by
  induction stages generalizing done with
  | nil => exact Confined.pure _
  | cons stage rest ih =>
    rw [Runner.runStages]
    refine Confined.bind (is_cancelled_confined _) fun flagged => Confined.ite (Confined.pure _) ?_
    refine Confined.bind (Confined.catch_halt ((run_stage_confined r worker stack track stage).weaken
      fun c made => ⟨stage, List.mem_cons_self, made⟩)) fun outcome => ?_
    rcases outcome with signal | ⟨result, _ | cause⟩
    · exact Confined.pure _
    · exact (ih _).weaken fun c ⟨s, mem, made⟩ => ⟨s, List.mem_cons_of_mem _ mem, made⟩
    · exact Confined.pure _

end Steps

/-- The body of a track keeps the pool, and each call it makes is for an action of one of
the track's stages, in the stage's layer over the track's. -/
theorem drive_track_confined (r : Runner) (track : Track) (worker : Worker) :
    Confined (fun c => ∃ s ∈ track.stages, r.StageCall track worker (r.trackStack track) s c)
      (r.driveTrack track worker) := by
  unfold Runner.driveTrack Runner.openTrack
  refine Confined.bind (Confined.catch_halt (observe_confined r _ _ _)) fun opened => ?_
  rcases opened with signal | ⟨⟩
  · exact Confined.pure _
  · exact Confined.bind (run_stages_confined r _ _ _ _ _) fun _ => Confined.pure _

theorem run_drive_track_of_opened (r : Runner) {track : Track} {worker : Worker} {w w₁ : World}
    (opened : (r.openTrack track worker).run.run w = (.ok (), w₁)) :
    (r.driveTrack track worker).run.run w =
      match (r.runStages track worker (r.trackStack track) track.stages []).run.run w₁ with
      | (.ok (stages, ending), w') => (.ok (TrackResult.ofStages track worker stages ending), w')
      | (.error t, w') => (.error t, w') := by
  unfold Runner.driveTrack
  rw [run_bind, run_catch_halt_of_ok opened]
  dsimp only
  rw [run_bind]
  rcases (r.runStages track worker (r.trackStack track) track.stages []).run.run w₁ with
    ⟨_ | ⟨stages, ending⟩, w'⟩ <;> rfl

/-! ## Claiming and giving back the worker -/

theorem run_claim_worker (r : Runner) (track : Track) (w : World) :
    (r.claimWorker track).run.run w =
      match w.pool.acquire r.root (.str track.selector) with
      | .error (.unavailable m) => (.ok (.refused (TrackResult.unstarted track .failed m)), w)
      | .error (.cancelled m) => (.ok (.refused (TrackResult.unstarted track .cancelled m)), w)
      | .error (.workspace f) => (.error (Thrown.ofFault f), w)
      | .error (.selector f) => (.error (Thrown.ofFault f), w)
      | .ok (worker, pool) => (.ok (.granted worker), { w with pool }) := by
  unfold Runner.claimWorker
  rw [run_bind, run_get]
  dsimp only
  rcases w.pool.acquire r.root (.str track.selector) with (_ | _ | _ | _) | ⟨worker, pool⟩ <;> rfl

/-- Ending a track's run: the end hook decides whether the body's outcome is handed back
and whether the worker is released; calls, cancel flags and the names that may be cancelled
stay as they were. -/
theorem run_close_track (r : Runner) (track : Track) (worker : Worker)
    (outcome : Except Thrown TrackResult) (w : World) :
    ((r.closeTrack track worker outcome).run.run w).1 =
        (match r.observer.raises? .finish track.name none with
          | some t => .error t
          | none => outcome) ∧
      ((r.closeTrack track worker outcome).run.run w).2.pool =
        (match r.observer.raises? .finish track.name none with
          | some _ => w.pool
          | none => w.pool.release worker.name) ∧
      ((r.closeTrack track worker outcome).run.run w).2.calls = w.calls ∧
      ((r.closeTrack track worker outcome).run.run w).2.cancelled = w.cancelled ∧
      ((r.closeTrack track worker outcome).run.run w).2.live = w.live := by
  unfold Runner.closeTrack
  rw [run_bind, run_observe]
  simp only [StepEvent.path]
  cases r.observer.raises? .finish track.name none with
  | some t => cases r.observer.keeps <;> exact ⟨rfl, rfl, rfl, rfl, rfl⟩
  | none => cases r.observer.keeps <;> cases outcome <;> exact ⟨rfl, rfl, rfl, rfl, rfl⟩

/-- Once the pool grants a worker, a track's run is its body, run with the worker marked
busy, followed by the end of the run. -/
theorem run_run_track_of_acquired (r : Runner) (track : Track) {w : World} {worker : Worker}
    {pool : Pool} (acquired : w.pool.acquire r.root (.str track.selector) = .ok (worker, pool)) :
    (r.runTrack track).run.run w =
      (r.closeTrack track worker ((r.driveTrack track worker).run.run { w with pool }).1).run.run
        ((r.driveTrack track worker).run.run { w with pool }).2 := by
  unfold Runner.runTrack
  rw [run_bind, run_claim_worker, acquired]
  dsimp only
  rw [run_bind, run_attempt]

end Conveyor.Pipeline

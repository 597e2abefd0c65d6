import Mathlib
import Conveyor.Proofs.Events
import Conveyor.Pipeline.Batch
import Conveyor.Proofs.ActionNames

/-!
# What escapes the run of a track

Every fault inside an action is caught at its stage: an executor that raises, an exit
status that does not read, a cancellation, and a hook that fails at the action's own path
all end the stage instead. A hook that fails at the track's start or at a stage's path (its
start, end or error report) with a signal that halts the track is caught by the track's run,
which ends with a result. What unwinds a track's run is such a hook failing with any other
signal, the hook of the track's end failing with anything, and a workspace that cannot be
made.

`Heard Q P U m` says that `m` hands the observer only events `Q` holds of and unwinds with
`t` exactly when the hook of one of them at a path `P` holds of raises `t` and `U` holds of
`t`. It is shown level by level, from the actions of a stage (which never unwind) to the
stages and the body of a track, where the halting signals are caught; `run_track_unwinds`
reads it off for a whole run, where a failing end hook replaces whatever the body unwound
with. The pipeline turns a run that unwound into a crashed result of its member and goes on
(`run_all_crash_contract`). That result names a stage only when a stage's error hook raised
again the cancellation report it was handed, the one signal that carries the step it was
first seen at.

This module goes up to the stages and the body of a track; the whole run and the
pipeline follow in `TrackEscapes`.
-/

namespace Conveyor.Pipeline

open Conveyor.Env Conveyor.Text Conveyor.Workers

set_option autoImplicit false

variable {α β : Type}

/-! ## Events and the hooks they are handed to -/

def StepEvent.hook : StepEvent → Hook
  | .started .. => .start
  | .finished .. => .finish
  | .failed .. => .failure

def StepEvent.received : StepEvent → Option Thrown
  | .failed _ _ t => some t
  | _ => none

theorem Observer.raises?_cases {o : Observer} {hook : Hook} {path : String}
    {received : Option Thrown} {t : Thrown} (raised : o.raises? hook path received = some t) :
    t.origin = none ∨ received = some t := by
  unfold Observer.raises? at raised
  split at raised
  · split at raised
    · cases raised
    · split at raised
      · cases raised
        exact .inl rfl
      · exact .inr raised
  · cases raised

/-! ## Paths of steps -/

theorem ne_append_slash (path name : String) : path ++ "/" ++ name ≠ path := by
  intro same
  have lengths := congrArg String.length same
  simp only [String.length_append] at lengths
  have slash : "/".length = 1 := rfl
  omega

theorem below_stage_ne {track stage other name : String} (slashless : '/' ∉ other.toList) :
    track ++ "/" ++ stage ++ "/" ++ name ≠ track ++ "/" ++ other := by
  intro same
  have chars := congrArg String.toList same
  simp only [String.toList_append, List.append_assoc] at chars
  have rest := List.append_cancel_left chars
  have slash : "/".toList = ['/'] := rfl
  simp only [slash, List.singleton_append, List.cons.injEq, true_and] at rest
  apply slashless
  rw [← rest]
  simp

theorem path_segments_stage {track stage : String} (trackSlashless : '/' ∉ track.toList)
    (stageSlashless : '/' ∉ stage.toList) : pathSegments (track ++ "/" ++ stage) = [track, stage] := by
  have joined : (track ++ "/" ++ stage).toList = ['/'].intercalate [track.toList, stage.toList] := by
    simp [String.toList_append, List.intercalate]
  have parts : (track ++ "/" ++ stage).toList.splitOn '/' = [track.toList, stage.toList] := by
    rw [joined]
    apply List.splitOn_intercalate
    · intro l mem
      simp only [List.mem_cons, List.not_mem_nil, or_false] at mem
      rcases mem with rfl | rfl
      · exact trackSlashless
      · exact stageSlashless
    · simp
  unfold pathSegments
  rw [parts]
  simp

/-! ## Computations and the events they hand over -/

def Hands (Q : StepEvent → Prop) (m : Running α) : Prop :=
  ∀ w, ∃ E, (m.run.run w).2.events = w.events ++ E ∧ ∀ e ∈ E, Q e

namespace Hands

variable {Q : StepEvent → Prop}

theorem pure (a : α) : Hands Q (Pure.pure a : Running α) :=
  fun w => ⟨[], (List.append_nil _).symm, by simp⟩

theorem throw (t : Thrown) : Hands Q (MonadExcept.throw t : Running α) :=
  fun w => ⟨[], (List.append_nil _).symm, by simp⟩

theorem of_unheard {P : α → Prop} {m : Running α} (unheard : Unheard P m) : Hands Q m :=
  fun w => ⟨[], by simp [unheard.events w], by simp⟩

theorem bind {m : Running α} {f : α → Running β} (first : Hands Q m) (next : ∀ a, Hands Q (f a)) :
    Hands Q (m >>= f) := by
  intro w
  obtain ⟨E₁, events₁, handed₁⟩ := first w
  rw [run_bind]
  rcases ran : m.run.run w with ⟨_ | a, w₁⟩
  · rw [ran] at events₁
    exact ⟨E₁, events₁, handed₁⟩
  · rw [ran] at events₁
    obtain ⟨E₂, events₂, handed₂⟩ := next a w₁
    refine ⟨E₁ ++ E₂, by rw [events₂, events₁, List.append_assoc], fun e mem => ?_⟩
    rcases List.mem_append.mp mem with early | late
    · exact handed₁ e early
    · exact handed₂ e late

theorem try_catch {m : Running α} {h : Thrown → Running α} (first : Hands Q m)
    (handler : ∀ t, Hands Q (h t)) : Hands Q (tryCatch m h) := by
  intro w
  obtain ⟨E₁, events₁, handed₁⟩ := first w
  rw [run_try_catch]
  rcases ran : m.run.run w with ⟨_ | a, w₁⟩
  · rw [ran] at events₁
    obtain ⟨E₂, events₂, handed₂⟩ := handler _ w₁
    refine ⟨E₁ ++ E₂, by rw [events₂, events₁, List.append_assoc], fun e mem => ?_⟩
    rcases List.mem_append.mp mem with early | late
    · exact handed₁ e early
    · exact handed₂ e late
  · rw [ran] at events₁
    exact ⟨E₁, events₁, handed₁⟩

theorem attempt {m : Running α} (handed : Hands Q m) : Hands Q (attempt m) := by
  intro w
  rw [run_attempt]
  exact handed w

theorem ite {c : Prop} [Decidable c] {m₁ m₂ : Running α} (yes : Hands Q m₁) (no : Hands Q m₂) :
    Hands Q (if c then m₁ else m₂) := by
  split
  · exact yes
  · exact no

theorem observe (r : Runner) (hook : Hook) {event : StepEvent} (received : Option Thrown)
    (holds : Q event) : Hands Q (r.observe hook event received) := by
  intro w
  rw [run_observe]
  by_cases keeps : r.observer.keeps = true
  · refine ⟨[event], by simp [keeps], by simpa using holds⟩
  · refine ⟨[], by simp [keeps], by simp⟩

theorem weaken {Q' : StepEvent → Prop} {m : Running α} (handed : Hands Q m)
    (implies : ∀ e, Q e → Q' e) : Hands Q' m := by
  intro w
  obtain ⟨E, events, holds⟩ := handed w
  exact ⟨E, events, fun e mem => implies e (holds e mem)⟩

end Hands

theorem check_cancelled_hands {Q : StepEvent → Prop} (track : String) : Hands Q (checkCancelled track) := by
  intro w
  refine ⟨[], ?_, by simp⟩
  rw [run_check_cancelled]
  simp

/-! ## The actions of a stage hand events at their own paths -/

def ActionEvent (stagePath : String) (e : StepEvent) : Prop :=
  ∃ name, e.path = stagePath ++ "/" ++ name

section Actions

variable (r : Runner) (track : String) (worker : Worker) (stack : Stack) (stagePath : String)

theorem call_action_hands (action : Action) :
    Hands (ActionEvent stagePath) (r.callAction track worker stack stagePath action) := by
  unfold Runner.callAction
  refine Hands.bind (Hands.try_catch (Hands.of_unheard (execute_unheard r track worker stack _ action))
    fun t => Hands.bind (Hands.observe r _ _ ⟨action.name, rfl⟩) fun _ => Hands.throw _) fun exit => ?_
  refine Hands.bind ?_ fun code =>
    Hands.bind (Hands.ite (Hands.observe r _ _ ⟨action.name, rfl⟩) (Hands.pure ())) fun _ => Hands.pure _
  split
  · exact Hands.pure _
  · exact Hands.throw _

theorem start_action_hands (action : Action) :
    Hands (ActionEvent stagePath) (r.startAction track worker stack stagePath action) :=
  Hands.bind (check_cancelled_hands track) fun _ =>
    Hands.bind (Hands.observe r _ _ ⟨action.name, rfl⟩) fun _ =>
      call_action_hands r track worker stack stagePath action

theorem settle_hands (action : Action) (result : ActionResult) :
    Hands (ActionEvent stagePath) (r.settle track stagePath action result) :=
  Hands.bind (check_cancelled_hands track) fun _ =>
    Hands.ite (Hands.bind (Hands.observe r _ _ ⟨action.name, rfl⟩) fun _ => Hands.throw _) (Hands.pure ())

theorem run_actions_hands (actions : List Action) (done : List ActionResult) :
    Hands (ActionEvent stagePath) (r.runActions track worker stack stagePath actions done) := by
  induction actions generalizing done with
  | nil => exact Hands.pure _
  | cons action rest ih =>
    rw [Runner.runActions]
    refine Hands.bind (Hands.attempt (start_action_hands r track worker stack stagePath action))
      fun started => ?_
    split
    · exact Hands.pure _
    · refine Hands.bind (Hands.attempt (settle_hands r track stagePath action _)) fun settled => ?_
      split
      · exact Hands.pure _
      · exact ih _

end Actions

/-! ## Computations that unwind only on failing hooks -/

/-- A computation every run of which hands the observer only events `Q` holds of, and unwinds
with `t` exactly when the hook of one of those events, at a path `P` holds of, raises `t`
and `U` holds of `t`. -/
def Heard (r : Runner) (Q : StepEvent → Prop) (P : String → Prop) (U : Thrown → Prop)
    (m : Running α) : Prop :=
  ∀ w, ∃ E, (m.run.run w).2.events = w.events ++ E ∧ (∀ e ∈ E, Q e) ∧
    ∀ t, (m.run.run w).1 = .error t ↔
      ∃ e ∈ E, P e.path ∧ r.observer.raises? e.hook e.path e.received = some t ∧ U t

namespace Heard

variable {r : Runner} {Q : StepEvent → Prop} {P : String → Prop} {U : Thrown → Prop}

theorem of_returns {m : Running α} (returns : ∀ w, ∃ a, (m.run.run w).1 = .ok a)
    (handed : Hands Q m) (apart : ∀ e, Q e → ¬ P e.path) : Heard r Q P U m := by
  intro w
  obtain ⟨E, events, holds⟩ := handed w
  obtain ⟨a, ran⟩ := returns w
  refine ⟨E, events, holds, fun t => ?_⟩
  rw [ran]
  constructor
  · intro same
    cases same
  · rintro ⟨e, mem, atP, -⟩
    exact absurd atP (apart e (holds e mem))

theorem of_silent {m : Running α} (returns : ∀ w, ∃ a, (m.run.run w).1 = .ok a)
    (silent : ∀ w, (m.run.run w).2.events = w.events) : Heard r Q P U m := by
  intro w
  obtain ⟨a, ran⟩ := returns w
  refine ⟨[], by rw [silent w, List.append_nil], by simp, fun t => ?_⟩
  rw [ran]
  simp

theorem pure (a : α) : Heard r Q P U (Pure.pure a : Running α) :=
  of_silent (fun _ => ⟨a, rfl⟩) fun _ => rfl

theorem bind {m : Running α} {f : α → Running β} (first : Heard r Q P U m)
    (next : ∀ a, Heard r Q P U (f a)) : Heard r Q P U (m >>= f) := by
  intro w
  obtain ⟨E₁, events₁, handed₁, unwinds₁⟩ := first w
  rw [run_bind]
  rcases ran : m.run.run w with ⟨_ | a, w₁⟩
  · -- the first part unwound, and the whole with it
    rw [ran] at events₁ unwinds₁
    dsimp only
    exact ⟨E₁, events₁, handed₁, fun t => by rw [← unwinds₁ t]; simp⟩
  · rw [ran] at events₁ unwinds₁
    dsimp only
    obtain ⟨E₂, events₂, handed₂, unwinds₂⟩ := next a w₁
    have quiet : ∀ t,
        ¬ ∃ e ∈ E₁, P e.path ∧ r.observer.raises? e.hook e.path e.received = some t ∧ U t :=
      fun t found => by cases (unwinds₁ t).mpr found
    refine ⟨E₁ ++ E₂, by rw [events₂, events₁, List.append_assoc], fun e mem => ?_, fun t => ?_⟩
    · rcases List.mem_append.mp mem with early | late
      · exact handed₁ e early
      · exact handed₂ e late
    · rw [unwinds₂ t]
      constructor
      · rintro ⟨e, mem, atP, raised⟩
        exact ⟨e, List.mem_append_right _ mem, atP, raised⟩
      · rintro ⟨e, mem, atP, raised⟩
        rcases List.mem_append.mp mem with early | late
        · exact absurd ⟨e, early, atP, raised⟩ (quiet t)
        · exact ⟨e, late, atP, raised⟩

theorem ite {c : Prop} [Decidable c] {m₁ m₂ : Running α} (yes : c → Heard r Q P U m₁)
    (no : ¬ c → Heard r Q P U m₂) : Heard r Q P U (if c then m₁ else m₂) := by
  split
  · rename_i holds
    exact yes holds
  · rename_i fails
    exact no fails

theorem observe (e : StepEvent) (holds : Q e) (atP : P e.path) :
    Heard r Q P (fun _ => True) (r.observe e.hook e e.received) := by
  intro w
  rw [run_observe]
  by_cases keeps : r.observer.keeps = true
  · refine ⟨[e], by simp [keeps], by simpa using holds, fun t => ?_⟩
    cases raised : r.observer.raises? e.hook e.path e.received <;> simp [raised, atP]
  · have silent : r.observer.raises? e.hook e.path e.received = none := by
      simp [Observer.raises?, keeps]
    refine ⟨[], by simp [keeps], by simp, fun t => ?_⟩
    simp [silent]

theorem weaken {Q' : StepEvent → Prop} {P' : String → Prop} {m : Running α}
    (heard : Heard r Q P U m) (implies : ∀ e, Q e → Q' e) (same : ∀ e, Q e → (P e.path ↔ P' e.path)) :
    Heard r Q' P' U m := by
  intro w
  obtain ⟨E, events, holds, unwinds⟩ := heard w
  refine ⟨E, events, fun e mem => implies e (holds e mem), fun t => (unwinds t).trans ?_⟩
  constructor
  · rintro ⟨e, mem, atP, raised⟩
    exact ⟨e, mem, (same e (holds e mem)).mp atP, raised⟩
  · rintro ⟨e, mem, atP, raised⟩
    exact ⟨e, mem, (same e (holds e mem)).mpr atP, raised⟩

/-- A part of a track's body whose halting signals are caught unwinds only with what a hook
raised that does not halt the track. -/
theorem catch_halt {m : Running α} (heard : Heard r Q P (fun _ => True) m) :
    Heard r Q P (fun t => t.signal.haltsTrack = false) (catchHalt m) := by
  intro w
  obtain ⟨E, events, handed, unwinds⟩ := heard w
  rw [run_catch_halt]
  rcases ran : m.run.run w with ⟨t₀ | a, w₁⟩
  · rw [ran] at events unwinds
    have raised : ∀ t, (∃ e ∈ E, P e.path ∧ r.observer.raises? e.hook e.path e.received = some t) ↔
        t₀ = t := fun t => by simpa using (unwinds t).symm
    refine ⟨E, events, handed, fun t => ?_⟩
    cases halts : t₀.signal.haltsTrack
    · simp only [halts, Bool.false_eq_true, if_false, Except.error.injEq]
      constructor
      · rintro rfl
        obtain ⟨e, mem, atP, raise⟩ := (raised t₀).mpr rfl
        exact ⟨e, mem, atP, raise, halts⟩
      · rintro ⟨e, mem, atP, raise, -⟩
        exact (raised t).mp ⟨e, mem, atP, raise⟩
    · simp only [halts, if_true, reduceCtorEq, false_iff]
      rintro ⟨e, mem, atP, raise, goesOn⟩
      rw [← (raised t).mp ⟨e, mem, atP, raise⟩, halts] at goesOn
      cases goesOn
  · rw [ran] at events unwinds
    refine ⟨E, events, handed, fun t => ?_⟩
    simp only [reduceCtorEq, false_iff]
    rintro ⟨e, mem, atP, raise, -⟩
    cases (unwinds t).mpr ⟨e, mem, atP, raise, trivial⟩

end Heard

/-! ## A stage unwinds only on its own hooks -/

/-- An event of a stage's run: at the stage's own path, where an error report hands the
stage's cancellation, naming the stage as the step it was seen at; or at the path of one of
the stage's actions. -/
def StageEvent (stagePath stageName : String) (e : StepEvent) : Prop :=
  (e.path = stagePath ∧ ∀ t, e.received = some t →
      t.origin = some ⟨stagePath, "stage", stageName⟩ ∧ t.signal.isCancelledStage = true) ∨
    ActionEvent stagePath e

theorem StageEvent.plain {stagePath stageName : String} {e : StepEvent} (at_ : e.path = stagePath)
    (plain : e.received = none) : StageEvent stagePath stageName e :=
  .inl ⟨at_, fun t handed => by rw [plain] at handed; cases handed⟩

section Stage

variable (r : Runner) (track : Track) (worker : Worker) (stack : Stack) (stage : Stage)

theorem run_actions_heard (actions : List Action) (done : List ActionResult) :
    Heard r (StageEvent (track.name ++ "/" ++ stage.name) stage.name)
      (· = track.name ++ "/" ++ stage.name) (fun _ => True)
      (r.runActions track.name worker stack (track.name ++ "/" ++ stage.name) actions done) := by
  have returns : ∀ w, ∃ a, ((r.runActions track.name worker stack (track.name ++ "/" ++ stage.name)
      actions done).run.run w).1 = .ok a := by
    intro w
    obtain ⟨results, stopped, w', ran, -⟩ :=
      run_actions_ends r track.name worker stack (track.name ++ "/" ++ stage.name) actions done w
    exact ⟨(results, stopped), by rw [ran]⟩
  have below : Heard r (ActionEvent (track.name ++ "/" ++ stage.name))
      (· = track.name ++ "/" ++ stage.name) (fun _ => True)
      (r.runActions track.name worker stack (track.name ++ "/" ++ stage.name) actions done) :=
    Heard.of_returns returns (run_actions_hands r track.name worker stack _ actions done)
      fun e action atStage => by
        obtain ⟨name, atAction⟩ := action
        exact ne_append_slash _ name (atAction.symm.trans atStage)
  exact below.weaken (fun e q => .inr q) fun _ _ => Iff.rfl

theorem close_stage_heard (actions : List ActionResult) (stopped : Option Thrown) :
    Heard r (StageEvent (track.name ++ "/" ++ stage.name) stage.name)
      (· = track.name ++ "/" ++ stage.name) (fun _ => True)
      (r.closeStage track stage actions stopped) := by
  unfold Runner.closeStage Runner.recordStage
  dsimp only
  split
  · exact Heard.bind (Heard.observe _ (StageEvent.plain rfl rfl) rfl) fun _ => Heard.pure _
  · refine Heard.bind (Heard.ite (fun byCancel => Heard.observe _ (.inl ⟨rfl, fun t handed => ?_⟩) rfl)
      fun _ => Heard.pure ()) fun _ =>
        Heard.bind (Heard.observe _ (StageEvent.plain rfl rfl) rfl) fun _ => Heard.pure _
    cases handed
    exact ⟨rfl, byCancel⟩

theorem run_stage_heard :
    Heard r (StageEvent (track.name ++ "/" ++ stage.name) stage.name)
      (· = track.name ++ "/" ++ stage.name) (fun _ => True) (r.runStage track worker stack stage) := by
  unfold Runner.runStage Runner.openStage
  refine Heard.bind (Heard.observe _ (StageEvent.plain rfl rfl) rfl) fun _ =>
    Heard.bind (run_actions_heard r track worker _ stage _ _) fun outcome => ?_
  obtain ⟨actions, stopped⟩ := outcome
  exact close_stage_heard r track stage actions stopped

end Stage

/-! ## The stages and the body of a track -/

theorem StageEvent.path_eq {track stage other name : String} {e : StepEvent}
    (event : StageEvent (track ++ "/" ++ stage) name e) (slashless : '/' ∉ other.toList)
    (atOther : e.path = track ++ "/" ++ other) : e.path = track ++ "/" ++ stage := by
  rcases event with ⟨atStage, -⟩ | ⟨action, atAction⟩
  · exact atStage
  · exact absurd (atAction.symm.trans atOther) (below_stage_ne slashless)

theorem StageEvent.path_ne {track stage name : String} {e : StepEvent}
    (event : StageEvent (track ++ "/" ++ stage) name e) : e.path ≠ track := by
  rcases event with ⟨atStage, -⟩ | ⟨action, atAction⟩
  · rw [atStage]
    exact ne_append_slash track stage
  · rw [atAction, String.append_assoc, String.append_assoc]
    exact ne_append_slash track _

theorem StageEvent.at_stages_iff {track : String} {stages : List Stage}
    (slashless : ∀ s ∈ stages, '/' ∉ s.name.toList) {s : Stage} {e : StepEvent}
    (mem : s ∈ stages) (event : StageEvent (track ++ "/" ++ s.name) s.name e) :
    (∃ s' ∈ stages, e.path = track ++ "/" ++ s'.name) ↔ e.path = track ++ "/" ++ s.name := by
  constructor
  · rintro ⟨s', mem', atOther⟩
    exact event.path_eq (slashless s' mem') atOther
  · intro atOwn
    exact ⟨s, mem, atOwn⟩

section Stages

variable (r : Runner) (track : Track) (worker : Worker) (stack : Stack)

theorem run_stages_heard (stages : List Stage) (slashless : ∀ s ∈ stages, '/' ∉ s.name.toList)
    (done : List StageResult) :
    Heard r (fun e => ∃ s ∈ stages, StageEvent (track.name ++ "/" ++ s.name) s.name e)
      (fun p => ∃ s ∈ stages, p = track.name ++ "/" ++ s.name) (fun t => t.signal.haltsTrack = false)
      (r.runStages track worker stack stages done) := by
  induction stages generalizing done with
  | nil => exact Heard.pure _
  | cons stage rest ih =>
    rw [Runner.runStages]
    have restSlashless : ∀ s ∈ rest, '/' ∉ s.name.toList :=
      fun s mem => slashless s (List.mem_cons_of_mem _ mem)
    have first : Heard r (fun e => ∃ s ∈ stage :: rest, StageEvent (track.name ++ "/" ++ s.name) s.name e)
        (fun p => ∃ s ∈ stage :: rest, p = track.name ++ "/" ++ s.name) (fun _ => True)
        (r.runStage track worker stack stage) :=
      (run_stage_heard r track worker stack stage).weaken
        (fun e event => ⟨stage, List.mem_cons_self, event⟩)
        fun e event => (StageEvent.at_stages_iff slashless List.mem_cons_self event).symm
    have later : ∀ done, Heard r (fun e => ∃ s ∈ stage :: rest, StageEvent (track.name ++ "/" ++ s.name) s.name e)
        (fun p => ∃ s ∈ stage :: rest, p = track.name ++ "/" ++ s.name) (fun t => t.signal.haltsTrack = false)
        (r.runStages track worker stack rest done) := by
      intro done
      refine (ih restSlashless done).weaken (fun e found => ?_) fun e found => ?_
      · obtain ⟨s, mem, event⟩ := found
        exact ⟨s, List.mem_cons_of_mem _ mem, event⟩
      · obtain ⟨s, mem, event⟩ := found
        rw [StageEvent.at_stages_iff restSlashless mem event,
          StageEvent.at_stages_iff slashless (List.mem_cons_of_mem _ mem) event]
    refine Heard.bind (Heard.of_silent (fun w => ⟨_, by rw [run_is_cancelled]⟩)
      fun w => by rw [run_is_cancelled]) fun cancelled => ?_
    refine Heard.ite (fun _ => Heard.pure _) fun _ => Heard.bind first.catch_halt fun outcome => ?_
    rcases outcome with signal | ⟨result, _ | cause⟩
    · exact Heard.pure _
    · exact later _
    · exact Heard.pure _

end Stages

end Conveyor.Pipeline

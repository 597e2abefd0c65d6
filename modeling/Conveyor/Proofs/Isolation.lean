import Mathlib
import Conveyor.Proofs.InterleavedResults

/-!
# What decides a track's result

The tracks of a pipeline share the world, but a track's steps read little of it: its own
cancel flag, which names may be cancelled by name, and, while it waits for a worker, the
pool's answer. Everything else a step does to the world (calls, events, other flags, the
pool) is written, never read back by the same track. So a track's run is decided by the
track, by what the runner answers for its own calls and does at its own paths, and by what
it saw at each of its steps.

Of these sights only one can carry a sibling's doing. A track that is not cancelled waits
until a worker would be handed to it, and then the pool answers from its workers alone
(`Pool.acquire_answer`). A track cancelled while it waits is handed an idle worker if there
is one and is refused otherwise, so whether a sibling has given its worker back decides its
result.

`Related` compares two computations of one track run side by side from worlds that agree on
what the track reads; each piece of the runner is related to itself under two runners alike
for the track, whatever worker it runs on (`Runner.Alike`: the executor's answers may not
depend on the directory a call runs in). One step then takes twin stands to twin stands
(`advance_twin`), a whole walk does (`Runner.Walk.twin`), and a run of the floor, seen from one
track, is a walk through that track's own steps (`Floor.Run.walk`). Together with the results
of `Interleaving`, the last section gathers what every interleaving guarantees.

This module covers one step; whole runs and the pipeline's tracks follow in
`IsolatedRuns`.
-/

namespace Conveyor.Pipeline

open Conveyor.Env Conveyor.Workers

set_option autoImplicit false

variable {α β γ δ : Type}

/-! ## Two runs side by side -/

/-- What the steps of the track `name` read of the shared world: its own cancel flag, and
which names may be cancelled by name. -/
structure World.Agree (name : String) (w₁ w₂ : World) : Prop where
  flag : w₁.cancelled.contains name = w₂.cancelled.contains name
  live : ∀ other, w₁.live.contains other = w₂.live.contains other

theorem World.Agree.keep {name : String} {w₁ w₂ w₁' w₂' : World} (agree : World.Agree name w₁ w₂)
    (cancelled₁ : w₁'.cancelled = w₁.cancelled) (live₁ : w₁'.live = w₁.live)
    (cancelled₂ : w₂'.cancelled = w₂.cancelled) (live₂ : w₂'.live = w₂.live) :
    World.Agree name w₁' w₂' :=
  ⟨by rw [cancelled₁, cancelled₂]; exact agree.flag, by rw [live₁, live₂]; exact agree.live⟩

/-- How two computations end, side by side: both with values related by `R`, or both
unwinding with the same signal. -/
inductive Ends (R : α → β → Prop) : Except Thrown α → Except Thrown β → Prop
  | ok {a : α} {b : β} (related : R a b) : Ends R (.ok a) (.ok b)
  | error (t : Thrown) : Ends R (.error t) (.error t)

theorem Ends.refl {R : α → α → Prop} (reflexive : ∀ a, R a a) (o : Except Thrown α) : Ends R o o := by
  cases o with
  | ok a => exact .ok (reflexive a)
  | error t => exact .error t

theorem Ends.eq {o₁ o₂ : Except Thrown α} (ends : Ends Eq o₁ o₂) : o₁ = o₂ := by
  cases ends with
  | ok same => rw [same]
  | error t => rfl

/-- Two computations of the track `name` that, from worlds agreeing for it, end alike up to
`R`, in worlds that still agree. -/
def Related (name : String) (R : α → β → Prop) (m₁ : Running α) (m₂ : Running β) : Prop :=
  ∀ w₁ w₂, World.Agree name w₁ w₂ →
    Ends R (m₁.run.run w₁).1 (m₂.run.run w₂).1 ∧
      World.Agree name (m₁.run.run w₁).2 (m₂.run.run w₂).2

namespace Related

variable {name : String} {R : α → β → Prop} {S : γ → δ → Prop}

theorem pure {a : α} {b : β} (related : R a b) :
    Related name R (Pure.pure a : Running α) (Pure.pure b : Running β) :=
  fun _ _ agree => ⟨.ok related, agree⟩

theorem throw (t : Thrown) : Related name R (MonadExcept.throw t : Running α)
    (MonadExcept.throw t : Running β) :=
  fun _ _ agree => ⟨.error t, agree⟩

theorem bind {m₁ : Running α} {m₂ : Running β} {f : α → Running γ} {g : β → Running δ}
    (first : Related name R m₁ m₂) (rest : ∀ a b, R a b → Related name S (f a) (g b)) :
    Related name S (m₁ >>= f) (m₂ >>= g) := by
  intro w₁ w₂ agree
  obtain ⟨ends, agreed⟩ := first w₁ w₂ agree
  rw [run_bind, run_bind]
  revert ends agreed
  rcases m₁.run.run w₁ with ⟨o₁, w₁'⟩
  rcases m₂.run.run w₂ with ⟨o₂, w₂'⟩
  intro ends agreed
  cases ends with
  | ok related => exact rest _ _ related _ _ agreed
  | error t => exact ⟨.error t, agreed⟩

theorem try_catch {m₁ : Running α} {m₂ : Running β} {h₁ : Thrown → Running α}
    {h₂ : Thrown → Running β} (first : Related name R m₁ m₂)
    (handler : ∀ t, Related name R (h₁ t) (h₂ t)) :
    Related name R (MonadExcept.tryCatch m₁ h₁) (MonadExcept.tryCatch m₂ h₂) := by
  intro w₁ w₂ agree
  obtain ⟨ends, agreed⟩ := first w₁ w₂ agree
  rw [run_try_catch, run_try_catch]
  revert ends agreed
  rcases m₁.run.run w₁ with ⟨o₁, w₁'⟩
  rcases m₂.run.run w₂ with ⟨o₂, w₂'⟩
  intro ends agreed
  cases ends with
  | ok related => exact ⟨.ok related, agreed⟩
  | error t => exact handler t _ _ agreed

theorem map_attempt {m₁ : Running α} {m₂ : Running β} {f : Except Thrown α → γ}
    {g : Except Thrown β → δ} (related : Related name R m₁ m₂)
    (follows : ∀ o₁ o₂, Ends R o₁ o₂ → S (f o₁) (g o₂)) :
    Related name S (f <$> Pipeline.attempt m₁) (g <$> Pipeline.attempt m₂) := by
  intro w₁ w₂ agree
  rw [run_map_attempt, run_map_attempt]
  obtain ⟨ends, agreed⟩ := related w₁ w₂ agree
  exact ⟨.ok (follows _ _ ends), agreed⟩

theorem ite (c : Prop) [Decidable c] {a₁ b₁ : Running α} {a₂ b₂ : Running β}
    (yes : Related name R a₁ a₂) (no : Related name R b₁ b₂) :
    Related name R (if c then a₁ else b₁) (if c then a₂ else b₂) := by
  by_cases holds : c
  · rw [if_pos holds, if_pos holds]
    exact yes
  · rw [if_neg holds, if_neg holds]
    exact no

/-- Changes to the world that leave every cancel flag and the names that may be cancelled
alone. -/
theorem modify {f₁ f₂ : World → World}
    (kept₁ : ∀ w, (f₁ w).cancelled = w.cancelled ∧ (f₁ w).live = w.live)
    (kept₂ : ∀ w, (f₂ w).cancelled = w.cancelled ∧ (f₂ w).live = w.live) :
    Related name Eq (modify f₁ : Running Unit) (modify f₂) :=
  fun w₁ w₂ agree =>
    ⟨.ok rfl, agree.keep (kept₁ w₁).1 (kept₁ w₁).2 (kept₂ w₂).1 (kept₂ w₂).2⟩

theorem get_bind {f : World → Running α} {g : World → Running β}
    (each : ∀ w₁ w₂, World.Agree name w₁ w₂ → Related name R (f w₁) (g w₂)) :
    Related name R (MonadState.get >>= f) (MonadState.get >>= g) := by
  intro w₁ w₂ agree
  have reading : ∀ w : World, (MonadState.get : Running World).run.run w = (.ok w, w) :=
    fun _ => rfl
  rw [run_bind, run_bind, reading, reading]
  exact each w₁ w₂ agree w₁ w₂ agree

end Related

/-! ## What a track reads of the world -/

section Reads

variable {name : String}

theorem is_cancelled_related : Related name Eq (isCancelled name) (isCancelled name) := by
  intro w₁ w₂ agree
  rw [run_is_cancelled, run_is_cancelled]
  exact ⟨.ok agree.flag, agree⟩

theorem check_cancelled_related : Related name Eq (checkCancelled name) (checkCancelled name) := by
  unfold checkCancelled
  refine is_cancelled_related.bind fun flagged _ same => ?_
  subst same
  exact Related.ite _ (Related.throw _) (Related.pure rfl)

theorem cancel_related (other : String) : Related name Eq (cancel other) (cancel other) := by
  intro w₁ w₂ agree
  refine ⟨.ok rfl, ⟨?_, agree.live⟩⟩
  show (w₁.cancelled ++ [other]).contains name = (w₂.cancelled ++ [other]).contains name
  rw [List.contains_append, List.contains_append, agree.flag]

theorem cancel_named_related (other : String) :
    Related name Eq (cancelNamed other) (cancelNamed other) := by
  unfold cancelNamed
  refine Related.get_bind fun w₁ w₂ agree => ?_
  rw [agree.live other]
  exact Related.ite _ (cancel_related other) (Related.throw _)

theorem cancel_live_related : Related name Eq cancelLive cancelLive := by
  intro w₁ w₂ agree
  refine ⟨.ok rfl, ⟨?_, agree.live⟩⟩
  show (w₁.cancelled ++ w₁.live).contains name = (w₂.cancelled ++ w₂.live).contains name
  rw [List.contains_append, List.contains_append, agree.flag, agree.live name]

theorem apply_cancels_related (track : String) (reply : Reply) :
    Related name Eq (applyCancels track reply) (applyCancels track reply) := by
  unfold applyCancels
  refine (Related.ite _ (cancel_related track) (Related.pure rfl)).bind fun _ _ _ => ?_
  refine (?_ : Related name Eq _ _).bind fun _ _ _ =>
    Related.ite _ cancel_live_related (Related.pure rfl)
  cases reply.cancelTrack with
  | some other => exact cancel_named_related other
  | none => exact Related.pure rfl

end Reads

/-! ## Runners alike for a track -/

def OwnPath (track path : String) : Prop :=
  path = track ∨ ∃ rest, path = track ++ "/" ++ rest

theorem OwnPath.stage (track stage : String) : OwnPath track (track ++ "/" ++ stage) :=
  .inr ⟨stage, rfl⟩

theorem OwnPath.child {track path : String} (own : OwnPath track path) (name : String) :
    OwnPath track (path ++ "/" ++ name) := by
  rcases own with rfl | ⟨rest, rfl⟩
  · exact .inr ⟨name, rfl⟩
  · exact .inr ⟨rest ++ "/" ++ name, by simp only [String.append_assoc]⟩

/-- Two runners that treat one track alike: the executor answers the track's calls the same
wherever they run, the hooks act the same at the track's paths, and the track's layers
resolve over the same ambient environment. -/
structure Runner.Alike (track : String) (r₁ r₂ : Runner) : Prop where
  executor : ∀ (call : Call) (cwd : String), call.track = track →
    r₁.executor call = r₂.executor { call with cwd }
  hooks : ∀ hook path received, OwnPath track path →
    r₁.observer.raises? hook path received = r₂.observer.raises? hook path received
  ambient : r₁.ambient = r₂.ambient
  separator : r₁.separator = r₂.separator

def TrackResult.Twin (t₁ t₂ : TrackResult) : Prop :=
  { t₁ with worker := none } = { t₂ with worker := none }

theorem TrackResult.Twin.refl (t : TrackResult) : t.Twin t := rfl

theorem TrackResult.of_stages_twin (track : Track) (worker₁ worker₂ : Worker)
    (stages : List StageResult) (ending : StagesEnd) :
    (TrackResult.ofStages track worker₁ stages ending).Twin
      (TrackResult.ofStages track worker₂ stages ending) := by
  cases ending with
  | halted signal => cases signal <;> rfl
  | _ => rfl

section Alike

variable {r₁ r₂ : Runner} {track : Track} (alike : Runner.Alike track.name r₁ r₂)
include alike

theorem observe_related (hook : Hook) {event₁ event₂ : StepEvent} (received : Option Thrown)
    (path : event₁.path = event₂.path) (own : OwnPath track.name event₁.path) :
    Related track.name Eq (r₁.observe hook event₁ received) (r₂.observe hook event₂ received) := by
  intro w₁ w₂ agree
  rw [run_observe, run_observe, ← path, ← alike.hooks hook _ received own]
  refine ⟨Ends.refl (fun _ => rfl) _, agree.keep ?_ ?_ ?_ ?_⟩ <;> dsimp only <;> split <;> rfl

theorem execute_related (worker₁ worker₂ : Worker) (stack : Stack) (path : String)
    (action : Action) :
    Related track.name Eq (r₁.execute track.name worker₁ stack path action)
      (r₂.execute track.name worker₂ stack path action) := by
  unfold Runner.execute
  rw [alike.ambient]
  refine (?_ : Related track.name Eq _ _).bind fun env _ same => ?_
  · cases stack.resolve r₂.ambient with
    | ok env => exact Related.pure rfl
    | error f => exact Related.throw _
  · subst same
    dsimp only
    refine Related.bind (Related.modify (fun _ => ⟨rfl, rfl⟩) (fun _ => ⟨rfl, rfl⟩)) fun _ _ _ => ?_
    rw [alike.executor _ worker₂.workspace rfl]
    refine (apply_cancels_related track.name _).bind fun _ _ _ => ?_
    cases (r₂.executor _).result with
    | ok v => exact Related.pure rfl
    | error f => exact Related.throw _

theorem call_action_related (worker₁ worker₂ : Worker) (stack : Stack) {stagePath : String}
    (action : Action) (own : OwnPath track.name stagePath) :
    Related track.name Eq (r₁.callAction track.name worker₁ stack stagePath action)
      (r₂.callAction track.name worker₂ stack stagePath action) := by
  have child := own.child action.name
  unfold Runner.callAction
  dsimp only
  refine Related.bind ((execute_related alike worker₁ worker₂ stack _ action).try_catch fun t =>
    Related.bind (observe_related alike .failure _ rfl child) fun _ _ _ => Related.throw _)
    fun exit _ same => ?_
  subst same
  refine Related.bind (?_ : Related track.name Eq _ _) fun code _ same => ?_
  · cases Value.toInt exit with
    | ok n => exact Related.pure rfl
    | error f => exact Related.throw _
  · subst same
    exact Related.bind (Related.ite _ (observe_related alike .finish none rfl child)
      (Related.pure rfl)) fun _ _ _ => Related.pure rfl

theorem start_action_related (worker₁ worker₂ : Worker) (stack : Stack) {stagePath : String}
    (action : Action) (own : OwnPath track.name stagePath) :
    Related track.name Eq (r₁.startAction track.name worker₁ stack stagePath action)
      (r₂.startAction track.name worker₂ stack stagePath action) := by
  unfold Runner.startAction Runner.runAction Runner.openAction
  refine check_cancelled_related.bind fun _ _ _ => ?_
  exact Related.bind (observe_related alike .start none rfl (own.child action.name)) fun _ _ _ =>
    call_action_related alike worker₁ worker₂ stack action own

theorem settle_related {stagePath : String} (action : Action) (result : ActionResult)
    (own : OwnPath track.name stagePath) :
    Related track.name Eq (r₁.settle track.name stagePath action result)
      (r₂.settle track.name stagePath action result) := by
  unfold Runner.settle
  refine check_cancelled_related.bind fun _ _ _ => Related.ite _ ?_ (Related.pure rfl)
  exact Related.bind (observe_related alike .failure _ rfl (own.child action.name)) fun _ _ _ =>
    Related.throw _

theorem open_track_related (worker₁ worker₂ : Worker) :
    Related track.name Eq (r₁.openTrack track worker₁) (r₂.openTrack track worker₂) :=
  observe_related alike .start none rfl (.inl rfl)

theorem open_stage_related (stack₁ stack₂ : Stack) (stage : Stage) :
    Related track.name Eq (r₁.openStage track stack₁ stage) (r₂.openStage track stack₂ stage) :=
  observe_related alike .start none rfl (OwnPath.stage track.name stage.name)

theorem close_stage_related (stage : Stage) (actions : List ActionResult) (stopped : Option Thrown) :
    Related track.name Eq (r₁.closeStage track stage actions stopped)
      (r₂.closeStage track stage actions stopped) := by
  have own := OwnPath.stage track.name stage.name
  unfold Runner.closeStage Runner.recordStage
  cases stopped with
  | none =>
    exact Related.bind (observe_related alike .finish none rfl own) fun _ _ _ => Related.pure rfl
  | some cause =>
    refine Related.bind (Related.ite _ (observe_related alike .failure _ rfl own)
      (Related.pure rfl)) fun _ _ _ => ?_
    exact Related.bind (observe_related alike .finish none rfl own) fun _ _ _ => Related.pure rfl

theorem close_track_related (worker₁ worker₂ : Worker) {outcome₁ outcome₂ : Except Thrown TrackResult}
    (outcomes : Ends TrackResult.Twin outcome₁ outcome₂) :
    Related track.name TrackResult.Twin (r₁.closeTrack track worker₁ outcome₁)
      (r₂.closeTrack track worker₂ outcome₂) := by
  unfold Runner.closeTrack
  dsimp only
  refine Related.bind (observe_related alike .finish none rfl (.inl rfl)) fun _ _ _ => ?_
  refine Related.bind (Related.modify (fun _ => ⟨rfl, rfl⟩) (fun _ => ⟨rfl, rfl⟩)) fun _ _ _ => ?_
  cases outcomes with
  | ok twin => exact Related.pure twin
  | error t => exact Related.throw t

end Alike

/-! ## One step, whatever the worker -/

/-- Two places of a track's run that differ at most in the worker held, and in the worker a
result names. -/
inductive Stand.Twin : Stand → Stand → Prop
  | queued : Stand.Twin .queued .queued
  | holding (worker₁ worker₂ : Worker) : Stand.Twin (.holding worker₁) (.holding worker₂)
  | stages (worker₁ worker₂ : Worker) (done : List StageResult) (rest : List Stage) :
      Stand.Twin (.stages worker₁ done rest) (.stages worker₂ done rest)
  | actions (worker₁ worker₂ : Worker) (done : List StageResult) (stage : Stage)
      (rest : List Stage) (ran : List ActionResult) (todo : List Action) :
      Stand.Twin (.actions worker₁ done stage rest ran todo) (.actions worker₂ done stage rest ran todo)
  | settling (worker₁ worker₂ : Worker) (done : List StageResult) (stage : Stage)
      (rest : List Stage) (ran : List ActionResult) (action : Action) (result : ActionResult)
      (todo : List Action) :
      Stand.Twin (.settling worker₁ done stage rest ran action result todo)
        (.settling worker₂ done stage rest ran action result todo)
  | closingStage (worker₁ worker₂ : Worker) (done : List StageResult) (stage : Stage)
      (rest : List Stage) (ran : List ActionResult) (stopped : Option Thrown) :
      Stand.Twin (.closingStage worker₁ done stage rest ran stopped)
        (.closingStage worker₂ done stage rest ran stopped)
  | closing (worker₁ worker₂ : Worker) {outcome₁ outcome₂ : Except Thrown TrackResult}
      (same : Ends TrackResult.Twin outcome₁ outcome₂) :
      Stand.Twin (.closing worker₁ outcome₁) (.closing worker₂ outcome₂)
  | ended {result₁ result₂ : TrackResult} (same : result₁.Twin result₂) :
      Stand.Twin (.ended result₁) (.ended result₂)

section Continuations

variable (track : Track) (worker₁ worker₂ : Worker) (done : List StageResult) (stage : Stage)
  (rest : List Stage) (ran : List ActionResult)

theorem Stand.twin_unwound (t : Thrown) :
    (Stand.unwound track worker₁ done t).Twin (Stand.unwound track worker₂ done t) := by
  unfold Stand.unwound
  split
  · exact .closing worker₁ worker₂ (.ok (TrackResult.of_stages_twin track worker₁ worker₂ _ _))
  · exact .closing worker₁ worker₂ (.error t)

theorem Stand.twin_opened {o₁ o₂ : Except Thrown Unit} (same : Ends Eq o₁ o₂) :
    (Stand.opened track worker₁ o₁).Twin (Stand.opened track worker₂ o₂) := by
  obtain rfl := same.eq
  cases o₁ with
  | ok => exact .stages worker₁ worker₂ [] track.stages
  | error t => exact Stand.twin_unwound track worker₁ worker₂ [] t

theorem Stand.twin_stage_opened {o₁ o₂ : Except Thrown Unit} (same : Ends Eq o₁ o₂) :
    (Stand.stageOpened track worker₁ done stage rest o₁).Twin
      (Stand.stageOpened track worker₂ done stage rest o₂) := by
  obtain rfl := same.eq
  cases o₁ with
  | ok => exact .actions worker₁ worker₂ done stage rest [] stage.actions
  | error t => exact Stand.twin_unwound track worker₁ worker₂ done t

theorem Stand.twin_started (action : Action) (todo : List Action) {o₁ o₂ : Except Thrown ActionResult}
    (same : Ends Eq o₁ o₂) :
    (Stand.started worker₁ done stage rest ran action todo o₁).Twin
      (Stand.started worker₂ done stage rest ran action todo o₂) := by
  obtain rfl := same.eq
  cases o₁ with
  | ok result => exact .settling worker₁ worker₂ done stage rest _ action result todo
  | error t => exact .closingStage worker₁ worker₂ done stage rest ran (some t)

theorem Stand.twin_settled (todo : List Action) {o₁ o₂ : Except Thrown Unit} (same : Ends Eq o₁ o₂) :
    (Stand.settled worker₁ done stage rest ran todo o₁).Twin
      (Stand.settled worker₂ done stage rest ran todo o₂) := by
  obtain rfl := same.eq
  cases o₁ with
  | ok => exact .actions worker₁ worker₂ done stage rest ran todo
  | error t => exact .closingStage worker₁ worker₂ done stage rest ran (some t)

theorem Stand.twin_after_stage {o₁ o₂ : Except Thrown (StageResult × Option Signal)}
    (same : Ends Eq o₁ o₂) :
    (Stand.afterStage track worker₁ done stage rest o₁).Twin
      (Stand.afterStage track worker₂ done stage rest o₂) := by
  obtain rfl := same.eq
  rcases o₁ with t | ⟨result, _ | cause⟩
  · exact Stand.twin_unwound track worker₁ worker₂ done t
  · exact .stages worker₁ worker₂ _ rest
  · exact .closing worker₁ worker₂ (.ok (TrackResult.of_stages_twin track worker₁ worker₂ _ _))

theorem Stand.twin_closed {o₁ o₂ : Except Thrown TrackResult} (same : Ends TrackResult.Twin o₁ o₂) :
    (Stand.closed track o₁).Twin (Stand.closed track o₂) := by
  cases same with
  | ok twin => exact .ended twin
  | error t => exact .ended (TrackResult.Twin.refl _)

end Continuations

section Alike

variable {r₁ r₂ : Runner} {track : Track} (alike : Runner.Alike track.name r₁ r₂)
include alike

theorem stage_stack_alike (stage : Stage) : r₁.stageStack track stage = r₂.stageStack track stage := by
  unfold Runner.stageStack Runner.trackStack
  rw [alike.separator]

theorem advance_related {stand₁ stand₂ : Stand} (twin : stand₁.Twin stand₂)
    (started : stand₁ ≠ .queued) :
    Related track.name Stand.Twin (r₁.advance track stand₁) (r₂.advance track stand₂) := by
  cases twin with
  | queued => exact absurd rfl started
  | holding worker₁ worker₂ =>
    exact (open_track_related alike worker₁ worker₂).map_attempt fun _ _ same =>
      Stand.twin_opened track worker₁ worker₂ same
  | stages worker₁ worker₂ done rest =>
    cases rest with
    | nil => exact Related.pure (.closing worker₁ worker₂ (.ok (TrackResult.of_stages_twin ..)))
    | cons stage rest =>
      refine is_cancelled_related.bind fun flagged _ same => ?_
      subst same
      refine Related.ite _ (Related.pure (.closing worker₁ worker₂
        (.ok (TrackResult.of_stages_twin ..)))) ?_
      exact (open_stage_related alike _ _ stage).map_attempt fun _ _ same =>
        Stand.twin_stage_opened track worker₁ worker₂ done stage rest same
  | actions worker₁ worker₂ done stage rest ran todo =>
    cases todo with
    | nil => exact Related.pure (.closingStage worker₁ worker₂ done stage rest ran none)
    | cons action todo =>
      rw [Runner.advance, Runner.advance, stage_stack_alike alike]
      exact (start_action_related alike worker₁ worker₂ _ action (OwnPath.stage _ _)).map_attempt
        fun _ _ same => Stand.twin_started worker₁ worker₂ done stage rest ran action todo same
  | settling worker₁ worker₂ done stage rest ran action result todo =>
    exact (settle_related alike action result (OwnPath.stage _ _)).map_attempt fun _ _ same =>
      Stand.twin_settled worker₁ worker₂ done stage rest ran todo same
  | closingStage worker₁ worker₂ done stage rest ran stopped =>
    exact (close_stage_related alike stage ran stopped).map_attempt fun _ _ same =>
      Stand.twin_after_stage track worker₁ worker₂ done stage rest same
  | closing worker₁ worker₂ same =>
    exact (close_track_related alike worker₁ worker₂ same).map_attempt fun _ _ same =>
      Stand.twin_closed track same
  | ended same => exact Related.pure (.ended same)

end Alike

theorem claim_worker_twin {r₁ r₂ : Runner} (track : Track) {w₁ w₂ : World}
    (claims : (w₁.pool.acquire r₁.root (.str track.selector)).map (fun _ => ()) =
      (w₂.pool.acquire r₂.root (.str track.selector)).map (fun _ => ())) :
    (Stand.claimed track ((r₁.claimWorker track).run.run w₁).1).Twin
      (Stand.claimed track ((r₂.claimWorker track).run.run w₂).1) := by
  rw [run_claim_worker, run_claim_worker]
  revert claims
  rcases w₁.pool.acquire r₁.root (.str track.selector) with refusal | ⟨worker₁, pool₁⟩ <;>
    rcases w₂.pool.acquire r₂.root (.str track.selector) with refusal₂ | ⟨worker₂, pool₂⟩ <;>
    intro claims <;> simp only [Except.map, Except.error.injEq, reduceCtorEq] at claims
  · -- the same refusal ends the track at once, the same way
    subst claims
    cases refusal <;> exact .ended (TrackResult.Twin.refl _)
  · exact .holding worker₁ worker₂

theorem advance_twin {r₁ r₂ : Runner} {track : Track} (alike : Runner.Alike track.name r₁ r₂)
    {stand₁ stand₂ next₁ next₂ : Stand} {w₁ w₂ w₁' w₂' : World} (twin : stand₁.Twin stand₂)
    (sights : r₁.sight track stand₁ w₁ = r₂.sight track stand₂ w₂)
    (live : ∀ other, w₁.live.contains other = w₂.live.contains other)
    (moved₁ : (r₁.advance track stand₁).run.run w₁ = (.ok next₁, w₁'))
    (moved₂ : (r₂.advance track stand₂).run.run w₂ = (.ok next₂, w₂')) : next₁.Twin next₂ := by
  by_cases waiting : stand₁ = .queued
  · -- waiting for a worker, the track reads only the pool's answer
    subst waiting
    cases twin
    rw [Runner.advance, run_map_attempt] at moved₁ moved₂
    cases moved₁
    cases moved₂
    have claims := congrArg Sight.claim sights
    simp only [Runner.sight, Option.some.injEq] at claims
    exact claim_worker_twin track claims
  · -- past the claim, it reads only its own flag and the names that may be cancelled
    have agree : World.Agree track.name w₁ w₂ := ⟨congrArg Sight.flagged sights, live⟩
    have ends := (advance_related alike twin waiting w₁ w₂ agree).1
    rw [moved₁, moved₂] at ends
    cases ends with
    | ok twin => exact twin

end Conveyor.Pipeline

import Mathlib
import Conveyor.Proofs.Schedule

/-!
# Tracks running side by side

The tracks of a pipeline run at the same time and meet only in the world they share: the
pool of workers and the cancel flags. A `Floor` holds that world and where each track's run
stands; a `Move` is one step of one track, taken as one atomic piece (an acquire and a
release happen under the pool's lock), or a cancel request arriving from outside. Every
interleaving of the tracks' steps and of cancel requests is a `Floor.Run`.

A track waiting for a worker steps only when the pool answers it or when it is cancelled;
while every worker that matches is busy it waits. Over every run from the start:

* no worker is held by two tracks, and every worker held is busy in the pool
  (`Floor.Run.exclusive`);
* every result bears the name of its own track, so a finished pipeline lists its results in
  the order the tracks were given (`Floor.Run.batch_follows_tracks`).

The pipeline's own run, one track after the other, is one of these interleavings when no
worker is busy at the start and no track's end hook raises (`run_all_is_interleaving`).

This module covers the floor and the exclusive holding of workers; results, calls and the
pipeline's own schedule follow in `InterleavedResults`.
-/

namespace Conveyor.Pipeline
open Conveyor.Env Conveyor.Workers Conveyor.Text
set_option autoImplicit false

/-! ## The worker a track holds -/

def Stand.holder : Stand → Option Worker
  | .queued => none
  | .holding worker => some worker
  | .stages worker _ _ => some worker
  | .actions worker _ _ _ _ _ => some worker
  | .settling worker _ _ _ _ _ _ _ => some worker
  | .closingStage worker _ _ _ _ _ => some worker
  | .closing worker _ => some worker
  | .ended _ => none

section Holder

variable (track : Track) (worker : Worker) (done : List StageResult) (stage : Stage)
  (rest : List Stage) (ran : List ActionResult)

@[simp] theorem Stand.holder_opened (o : Except Thrown Unit) :
    (Stand.opened track worker o).holder = some worker := by
  cases o <;> rfl

@[simp] theorem Stand.holder_stage_opened (o : Except Thrown Unit) :
    (Stand.stageOpened track worker done stage rest o).holder = some worker := by
  cases o <;> rfl

@[simp] theorem Stand.holder_started (action : Action) (todo : List Action)
    (o : Except Thrown ActionResult) :
    (Stand.started worker done stage rest ran action todo o).holder = some worker := by
  cases o <;> rfl

@[simp] theorem Stand.holder_settled (todo : List Action) (o : Except Thrown Unit) :
    (Stand.settled worker done stage rest ran todo o).holder = some worker := by
  cases o <;> rfl

@[simp] theorem Stand.holder_after_stage (o : Except Thrown (StageResult × Option Signal)) :
    (Stand.afterStage track worker done stage rest o).holder = some worker := by
  rcases o with _ | ⟨_, _ | _⟩ <;> rfl

@[simp] theorem Stand.holder_closed (o : Except Thrown TrackResult) :
    (Stand.closed track o).holder = none := by
  cases o <;> rfl

end Holder

theorem advance_holds (r : Runner) (track : Track) {stand next : Stand} {w w' : World}
    (moved : (r.advance track stand).run.run w = (.ok next, w')) :
    (next.holder = stand.holder ∧ World.Within (fun _ => True) w w') ∨
    (stand = .queued ∧ ∃ worker pool, w.pool.acquire r.root (.str track.selector) = .ok (worker, pool) ∧
      next = .holding worker ∧ w' = { w with pool }) ∨
    (∃ worker outcome, stand = .closing worker outcome ∧ next.holder = none ∧ w'.live = w.live ∧
      (w'.pool = w.pool ∨ w'.pool = w.pool.release worker.name)) := by
  cases stand with
  | queued =>
    rw [Runner.advance, run_map_attempt, run_claim_worker] at moved
    rcases acquired : w.pool.acquire r.root (.str track.selector) with
      (_ | _ | _ | _) | ⟨worker, pool⟩ <;> rw [acquired] at moved <;> cases moved
    case ok.refl => exact .inr (.inl ⟨rfl, worker, pool, rfl, rfl, rfl⟩)
    all_goals exact .inl ⟨rfl, World.Within.refl _ w⟩
  | holding worker =>
    rw [Runner.advance, run_map_attempt] at moved
    cases moved
    exact .inl ⟨Stand.holder_opened track worker _, observe_confined r _ _ _ w⟩
  | closing worker outcome =>
    rw [Runner.advance, run_map_attempt] at moved
    cases moved
    have closed := run_close_track r track worker outcome w
    refine .inr (.inr ⟨worker, outcome, rfl, by simp, closed.2.2.2.2, ?_⟩)
    rw [closed.2.1]
    cases r.observer.raises? .finish track.name none
    · exact .inr rfl
    · exact .inl rfl
  | ended result =>
    cases moved
    exact .inl ⟨rfl, World.Within.refl _ w⟩
  | stages worker done rest =>
    cases rest with
    | nil =>
      cases moved
      exact .inl ⟨rfl, World.Within.refl _ w⟩
    | cons stage rest =>
      rw [Runner.advance, run_bind, run_is_cancelled] at moved
      dsimp only at moved
      split at moved
      · cases moved
        exact .inl ⟨rfl, World.Within.refl _ w⟩
      · rw [run_map_attempt] at moved
        cases moved
        exact .inl ⟨Stand.holder_stage_opened track worker done stage rest _, observe_confined r _ _ _ w⟩
  | actions worker done stage rest ran todo =>
    cases todo with
    | nil =>
      cases moved
      exact .inl ⟨rfl, World.Within.refl _ w⟩
    | cons action todo =>
      rw [Runner.advance, run_map_attempt] at moved
      cases moved
      exact .inl ⟨Stand.holder_started worker done stage rest ran action todo _,
        (start_action_confined r worker _ _ _ action w).weaken fun _ _ => trivial⟩
  | settling worker done stage rest ran action result todo =>
    rw [Runner.advance, run_map_attempt] at moved
    cases moved
    exact .inl ⟨Stand.holder_settled worker done stage rest ran todo _,
      settle_confined r _ _ action result w⟩
  | closingStage worker done stage rest ran stopped =>
    rw [Runner.advance, run_map_attempt] at moved
    cases moved
    exact .inl ⟨Stand.holder_after_stage track worker done stage rest _,
      close_stage_confined r track stage ran stopped w⟩

theorem advance_stock (r : Runner) (track : Track) {stand next : Stand} {w w' : World}
    (moved : (r.advance track stand).run.run w = (.ok next, w')) :
    w'.live = w.live ∧ w'.pool.workers = w.pool.workers ∧ w'.pool.files = w.pool.files := by
  rcases advance_holds r track moved with
    ⟨_, within⟩ | ⟨_, _, _, acquired, _, rfl⟩ | ⟨_, _, _, _, live, given⟩
  · exact ⟨within.live, by rw [within.pool], by rw [within.pool]⟩
  · exact ⟨rfl, Pool.acquire_stock acquired⟩
  · rcases given with kept | kept <;> rw [kept] <;> exact ⟨live, rfl, rfl⟩

theorem advance_ne_queued (r : Runner) (track : Track) {stand next : Stand} {w w' : World}
    (moved : (r.advance track stand).run.run w = (.ok next, w')) : next ≠ .queued := by
  rintro rfl
  rcases advance_holds r track moved with
    ⟨held, _⟩ | ⟨_, _, _, _, granted, _⟩ | ⟨worker, outcome, rfl, _⟩
  · -- a step that keeps the holder starts from a stand that holds none: waiting, or ended
    cases stand with
    | queued =>
      rw [Runner.advance, run_map_attempt, run_claim_worker] at moved
      split at moved <;> cases moved
    | ended result => cases moved
    | _ => simp [Stand.holder] at held
  · cases granted
  · -- the end of the run is an ended stand
    rw [Runner.advance, run_map_attempt, Prod.mk.injEq, Except.ok.injEq] at moved
    generalize ((r.closeTrack track worker outcome).run.run w).1 = closed at moved
    cases closed <;> cases moved.1

/-! ## The floor -/

/-- What a track's step sees of the shared world: whether its cancel flag is set and, for a
track waiting for a worker, the pool's answer with the worker's identity left out. -/
structure Sight where
  flagged : Bool
  claim : Option (Except AcquireError Unit)

def Runner.sight (r : Runner) (track : Track) (stand : Stand) (w : World) : Sight :=
  { flagged := w.cancelled.contains track.name
    claim := match stand with
      | .queued => some ((w.pool.acquire r.root (.str track.selector)).map fun _ => ())
      | _ => none }

/-- Whether a track can take its next step. An ended run takes none. A track waiting for a
worker waits while every worker that matches is busy, until it is cancelled. -/
def Stand.Ready (r : Runner) (track : Track) (w : World) : Stand → Prop
  | .queued => (∀ m, w.pool.acquire r.root (.str track.selector) ≠ .error (.cancelled m)) ∨
      track.name ∈ w.cancelled
  | .ended _ => False
  | _ => True

/-- The shared world and where the run of each track of a pipeline stands, in the order the
tracks were given. -/
structure Floor where
  world : World
  stands : List Stand

/-- What can happen next on a floor: one track takes a step, seeing what it sees; a track
that may be cancelled is cancelled by name; or every such track is. -/
inductive Move where
  | step (index : Nat) (sight : Sight)
  | cancel (name : String)
  | cancelAll

/-- One move on the floor of a pipeline running the given tracks. -/
inductive Floor.Step (r : Runner) (tracks : List Track) : Floor → Move → Floor → Prop
  | step {f : Floor} {i : Nat} {track : Track} {stand next : Stand} {w : World}
      (named : tracks[i]? = some track) (standing : f.stands[i]? = some stand)
      (ready : stand.Ready r track f.world)
      (moved : (r.advance track stand).run.run f.world = (.ok next, w)) :
      Floor.Step r tracks f (.step i (r.sight track stand f.world)) ⟨w, f.stands.set i next⟩
  | cancel {f : Floor} {name : String} (live : name ∈ f.world.live) :
      Floor.Step r tracks f (.cancel name)
        ⟨{ f.world with cancelled := f.world.cancelled ++ [name] }, f.stands⟩
  | cancelAll {f : Floor} :
      Floor.Step r tracks f .cancelAll
        ⟨{ f.world with cancelled := f.world.cancelled ++ f.world.live }, f.stands⟩

theorem Floor.Step.step_seeing {r : Runner} {tracks : List Track} {f : Floor} {i : Nat}
    {track : Track} {stand next : Stand} {w : World} {sight : Sight}
    (named : tracks[i]? = some track) (standing : f.stands[i]? = some stand)
    (ready : stand.Ready r track f.world) (moved : (r.advance track stand).run.run f.world = (.ok next, w))
    (seen : r.sight track stand f.world = sight) :
    Floor.Step r tracks f (.step i sight) ⟨w, f.stands.set i next⟩ :=
  seen ▸ .step named standing ready moved

/-- A run of moves on the floor, the first move first. -/
inductive Floor.Run (r : Runner) (tracks : List Track) : Floor → List Move → Floor → Prop
  | done (f : Floor) : Floor.Run r tracks f [] f
  | step {f g h : Floor} {m : Move} {ms : List Move} (first : Floor.Step r tracks f m g)
      (rest : Floor.Run r tracks g ms h) : Floor.Run r tracks f (m :: ms) h

/-- The floor a pipeline starts from: every track may be cancelled by name, none is yet,
and every track waits for a worker. -/
def Floor.start (w : World) (tracks : List Track) : Floor :=
  { world := { w with live := tracks.map (·.name), cancelled := [] }
    stands := tracks.map fun _ => .queued }

/-! ## No worker is held twice -/

def Floor.holderAt (f : Floor) (i : Nat) : Option Worker :=
  f.stands[i]?.bind Stand.holder

/-- No worker is held by two tracks, and every worker held is busy in the pool. -/
structure Floor.Exclusive (f : Floor) : Prop where
  apart : ∀ i j w₁ w₂, i ≠ j → f.holderAt i = some w₁ → f.holderAt j = some w₂ →
    w₁.name ≠ w₂.name
  busy : ∀ i w, f.holderAt i = some w → w.name ∈ f.world.pool.busy

theorem Floor.holder_at_set (f : Floor) (w : World) {i : Nat} {stand : Stand}
    (standing : f.stands[i]? = some stand) (next : Stand) (j : Nat) :
    (Floor.mk w (f.stands.set i next)).holderAt j = if i = j then next.holder else f.holderAt j := by
  have inside : i < f.stands.length := (List.getElem?_eq_some_iff.mp standing).1
  unfold Floor.holderAt
  rw [List.getElem?_set]
  by_cases same : i = j
  · subst same
    simp [inside]
  · simp [same]

theorem Floor.exclusive_start (w : World) (tracks : List Track) :
    (Floor.start w tracks).Exclusive := by
  have free : ∀ i, (Floor.start w tracks).holderAt i = none := by
    intro i
    unfold Floor.holderAt Floor.start
    rw [List.getElem?_map]
    cases tracks[i]? <;> rfl
  exact ⟨fun i _ _ _ _ held => by simp [free i] at held, fun i _ held => by simp [free i] at held⟩

section Exclusive

variable {f : Floor} {i : Nat} {stand : Stand} (inv : f.Exclusive)
  (standing : f.stands[i]? = some stand)
include inv standing

theorem Floor.Exclusive.of_kept {next : Stand} {w' : World} (same : next.holder = stand.holder)
    (pool : w'.pool = f.world.pool) : (Floor.mk w' (f.stands.set i next)).Exclusive := by
  have after := Floor.holder_at_set f w' standing next
  have before : f.holderAt i = stand.holder := by simp [Floor.holderAt, standing]
  have unchanged : ∀ j, (Floor.mk w' (f.stands.set i next)).holderAt j = f.holderAt j := by
    intro j
    rw [after]
    split
    · subst_vars
      rw [same, before]
    · rfl
  refine ⟨fun j k w₁ w₂ apart held₁ held₂ => ?_, fun j w held => ?_⟩
  · rw [unchanged] at held₁ held₂
    exact inv.apart j k w₁ w₂ apart held₁ held₂
  · rw [unchanged] at held
    rw [pool]
    exact inv.busy j w held

theorem Floor.Exclusive.of_acquired {worker : Worker} {w' : World}
    (idle : worker.name ∉ f.world.pool.busy)
    (grown : w'.pool.busy = f.world.pool.busy ++ [worker.name]) :
    (Floor.mk w' (f.stands.set i (.holding worker))).Exclusive := by
  have after := Floor.holder_at_set f w' standing (.holding worker)
  have others : ∀ j w, j ≠ i → (Floor.mk w' (f.stands.set i (.holding worker))).holderAt j =
      some w → w.name ∈ f.world.pool.busy := by
    intro j w other held
    rw [after, if_neg (Ne.symm other)] at held
    exact inv.busy j w held
  have mine : ∀ w, (Floor.mk w' (f.stands.set i (.holding worker))).holderAt i = some w →
      w = worker := by
    intro w held
    rw [after, if_pos rfl] at held
    exact (Option.some.inj held).symm
  refine ⟨fun j k w₁ w₂ apart held₁ held₂ => ?_, fun j w held => ?_⟩
  · -- a worker held elsewhere is busy, and the new one was idle
    by_cases first : j = i
    · subst first
      have second : k ≠ j := Ne.symm apart
      rw [mine w₁ held₁]
      exact fun same => idle (same ▸ others k w₂ second held₂)
    · by_cases second : k = i
      · subst second
        rw [mine w₂ held₂]
        exact fun same => idle (same ▸ others j w₁ first held₁)
      · rw [after, if_neg (Ne.symm first)] at held₁
        rw [after, if_neg (Ne.symm second)] at held₂
        exact inv.apart j k w₁ w₂ apart held₁ held₂
  · show w.name ∈ w'.pool.busy
    rw [grown]
    by_cases first : j = i
    · subst first
      rw [mine w held]
      exact List.mem_append_right _ (List.mem_singleton_self _)
    · exact List.mem_append_left _ (others j w first held)

theorem Floor.Exclusive.of_released {worker : Worker} {next : Stand} {w' : World}
    (mine : stand.holder = some worker) (released : next.holder = none)
    (given : w'.pool = f.world.pool ∨ w'.pool = f.world.pool.release worker.name) :
    (Floor.mk w' (f.stands.set i next)).Exclusive := by
  have after := Floor.holder_at_set f w' standing next
  have held : f.holderAt i = some worker := by simp [Floor.holderAt, standing, mine]
  have others : ∀ j w, (Floor.mk w' (f.stands.set i next)).holderAt j = some w →
      j ≠ i ∧ f.holderAt j = some w := by
    intro j w held
    rw [after] at held
    split at held
    · rw [released] at held
      cases held
    · exact ⟨Ne.symm ‹_›, held⟩
  refine ⟨fun j k w₁ w₂ apart held₁ held₂ => ?_, fun j w holding => ?_⟩
  · exact inv.apart j k w₁ w₂ apart (others j w₁ held₁).2 (others k w₂ held₂).2
  · obtain ⟨other, holding⟩ := others j w holding
    have busy := inv.busy j w holding
    have distinct : w.name ≠ worker.name := inv.apart j i w worker other holding held
    show w.name ∈ w'.pool.busy
    rcases given with kept | kept <;> rw [kept]
    · exact busy
    · simpa [Pool.release_busy] using ⟨busy, distinct⟩

end Exclusive

/-- One move keeps the held workers apart and busy: a worker is only ever handed out idle,
and the step that gives one back lets go of it. -/
theorem Floor.Step.exclusive {r : Runner} {tracks : List Track} {f g : Floor} {m : Move}
    (step : Floor.Step r tracks f m g) (inv : f.Exclusive) : g.Exclusive := by
  cases step with
  | cancel => exact ⟨inv.apart, inv.busy⟩
  | cancelAll => exact ⟨inv.apart, inv.busy⟩
  | @step i track stand next w' named standing ready moved =>
    rcases advance_holds r track moved with
      ⟨same, within⟩ | ⟨rfl, worker, pool, acquired, rfl, rfl⟩ | ⟨worker, outcome, rfl, released, -, given⟩
    · exact inv.of_kept standing same within.pool
    · obtain ⟨idle, grown⟩ := Pool.acquire_busy acquired
      exact inv.of_acquired standing idle grown
    · exact inv.of_released standing rfl released given

theorem Floor.Run.exclusive {r : Runner} {tracks : List Track} {f g : Floor} {ms : List Move}
    (run : Floor.Run r tracks f ms g) (inv : f.Exclusive) : g.Exclusive := by
  induction run with
  | done => exact inv
  | step first _ ih => exact ih (first.exclusive inv)

end Conveyor.Pipeline

import Mathlib
import Conveyor.Proofs.Running
import Conveyor.Proofs.Pool

/-!
# The run of one track

What a whole run of a track does once the pool has granted it a worker. The body of the
run keeps the pool (it is confined, see `drive_track_confined`), so the worker's fate is
decided by the end of the run alone: the worker is given back exactly when the end hook
of the track lets the run reach its release. An end hook that raises unwinds past the
release and leaves the worker busy.
-/

namespace Conveyor.Pipeline

open Conveyor.Env Conveyor.Workers

set_option autoImplicit false

theorem run_track_pool_of_acquired (r : Runner) (track : Track) {w : World} {worker : Worker}
    {pool : Pool} (acquired : w.pool.acquire r.root (.str track.selector) = .ok (worker, pool)) :
    ((r.runTrack track).run.run w).2.pool =
      match r.observer.raises? .finish track.name none with
      | some _ => pool
      | none => pool.release worker.name := by
  rw [run_run_track_of_acquired r track acquired]
  have kept : ((r.driveTrack track worker).run.run { w with pool }).2.pool = pool :=
    (drive_track_confined r track worker { w with pool }).pool
  refine (run_close_track r track worker _ _).2.1.trans ?_
  cases r.observer.raises? .finish track.name none with
  | some _ => exact kept
  | none => exact congrArg (fun held => held.release worker.name) kept

/-- Under an end hook that does not raise, a track's run gives back the busy list it
started from, whether or not it was granted a worker. -/
theorem run_track_busy_of_quiet (r : Runner) (track : Track) (w : World)
    (quiet : r.observer.raises? .finish track.name none = none) :
    ((r.runTrack track).run.run w).2.pool.busy = w.pool.busy := by
  rcases acquired : w.pool.acquire r.root (.str track.selector) with refusal | ⟨worker, pool⟩
  · -- refused, or failed before taking anything: the world is as it was
    unfold Runner.runTrack
    rw [run_bind, run_claim_worker, acquired]
    cases refusal <;> rfl
  · rw [run_track_pool_of_acquired r track acquired, quiet]
    exact Pool.release_acquired acquired

/-- A run that was granted a worker gives back the busy list it started from exactly
when the track's end hook does not raise. -/
theorem run_track_restores_busy_iff (r : Runner) (track : Track) {w : World} {worker : Worker}
    {pool : Pool} (acquired : w.pool.acquire r.root (.str track.selector) = .ok (worker, pool)) :
    ((r.runTrack track).run.run w).2.pool.busy = w.pool.busy ↔
      r.observer.raises? .finish track.name none = none := by
  rw [run_track_pool_of_acquired r track acquired]
  cases r.observer.raises? .finish track.name none with
  | none => exact ⟨fun _ => rfl, fun _ => Pool.release_acquired acquired⟩
  | some t =>
    exact ⟨fun same => absurd same (Pool.acquire_busy_ne acquired),
      fun raisedNone => absurd raisedNone (Option.some_ne_none _)⟩

/-- A single worker labelled `linux`, taken by a one-stage track under a quiet observer:
the release condition holds, so the worker comes back. -/
theorem run_track_restores_busy_iff_single_worker :
    ({ workers := [⟨"w1", "w1", ["linux"]⟩] } : Pool).acquire "" (.str "linux") =
        .ok (⟨"w1", "w1", ["linux"]⟩,
          { workers := [⟨"w1", "w1", ["linux"]⟩], busy := ["w1"], directories := ["w1"] }) ∧
      ((((⟨fun _ => {}, {}, [], ":", ""⟩ : Runner).runTrack
          ⟨"t", "linux", [⟨"s", [⟨"a", ["true"]⟩], []⟩], []⟩).run.run
          { pool := { workers := [⟨"w1", "w1", ["linux"]⟩] } }).2.pool.busy = [] ↔
        ({} : Observer).raises? .finish "t" none = none) :=
  ⟨Pool.acquire_single_idle, run_track_restores_busy_iff _ _ Pool.acquire_single_idle⟩

/-- The end hook of a track that raises: the run unwinds before its release, and the
worker it was granted stays busy. -/
theorem run_track_end_hook_fault_keeps_worker_busy :
    (((⟨fun _ => {}, { faults := [⟨.finish, "t", .raise (.raised ⟨.runtimeError, "recorder fault at end t"⟩)⟩] },
        [], ":", ""⟩ : Runner).runTrack ⟨"t", "linux", [⟨"s", [⟨"a", ["a"]⟩], []⟩], []⟩).run.run
        { pool := { workers := [⟨"w1", "w1", ["linux"]⟩] } }).2.pool.busy = ["w1"] := by
  rw [@run_track_pool_of_acquired _ _ { pool := { workers := [⟨"w1", "w1", ["linux"]⟩] } } _ _
    Pool.acquire_single_idle]
  rfl

/-! ## The calls of a track's run -/

theorem filter_map_parse_of_read {texts : List String} {bindings : List Binding}
    (read : (texts.map Value.str).mapM Binding.parse = .ok bindings) :
    texts.filterMap (fun t => (Binding.parse (.str t)).toOption) = bindings := by
  induction texts generalizing bindings with
  | nil =>
    cases read
    rfl
  | cons text rest ih =>
    simp only [List.map_cons, List.mapM_cons] at read
    cases parsed : Binding.parse (.str text) with
    | error e =>
      rw [parsed] at read
      cases read
    | ok b =>
      cases restRead : (rest.map Value.str).mapM Binding.parse with
      | error e =>
        rw [parsed, restRead] at read
        cases read
      | ok bs =>
        rw [parsed, restRead] at read
        cases read
        rw [List.filterMap_cons, parsed, ih restRead]
        rfl

/-- The layer a run builds from binding texts is the overlay the texts read as, whenever
they all read (as the bindings of a definition that was accepted do). -/
theorem overlay_of_eq_of_read {texts : List String} {layer : Overlay}
    (read : Overlay.ofValues (texts.map .str) = .ok layer) : overlayOf texts = layer := by
  unfold Overlay.ofValues at read
  cases bindingsRead : (texts.map Value.str).mapM Binding.parse with
  | error e =>
    rw [bindingsRead] at read
    cases read
  | ok bindings =>
    rw [bindingsRead] at read
    cases read
    exact congrArg Overlay.mk (filter_map_parse_of_read bindingsRead)

theorem stage_layers (r : Runner) (track : Track) (stage : Stage) :
    ((r.trackStack track).push (overlayOf stage.env)).2 =
      { separator := r.separator, layers := [overlayOf track.env, overlayOf stage.env] } := rfl

theorem run_track_calls (r : Runner) (track : Track) (w : World) :
    ∃ made, ((r.runTrack track).run.run w).2.calls = w.calls ++ made ∧
      ∀ c ∈ made, ∃ worker, ∃ s ∈ track.stages, r.StageCall track worker (r.trackStack track) s c := by
  unfold Runner.runTrack
  rw [run_bind, run_claim_worker]
  rcases acquired : w.pool.acquire r.root (.str track.selector) with
    (_ | _ | _ | _) | ⟨worker, pool⟩
  case error.unavailable | error.cancelled | error.workspace | error.selector =>
    exact ⟨[], (List.append_nil _).symm, by simp⟩
  case ok =>
    dsimp only
    rw [run_bind, run_attempt]
    obtain ⟨made, calls, forStage⟩ := (drive_track_confined r track worker { w with pool }).calls
    refine ⟨made, ?_, fun c mem => ⟨worker, forStage c mem⟩⟩
    rw [(run_close_track r track worker _ _).2.2.1, calls]

theorem run_track_call_env (r : Runner) (track : Track) (w : World) :
    ∃ made, ((r.runTrack track).run.run w).2.calls = w.calls ++ made ∧
      ∀ c ∈ made, ∃ s ∈ track.stages, ∃ a ∈ s.actions,
        c.track = track.name ∧ c.path = track.name ++ "/" ++ s.name ++ "/" ++ a.name ∧
          c.argv = a.argv ∧
          ({ separator := r.separator, layers := [overlayOf track.env, overlayOf s.env] } : Stack).resolve
            r.ambient = .ok c.env := by
  obtain ⟨made, calls, forStage⟩ := run_track_calls r track w
  refine ⟨made, calls, fun c mem => ?_⟩
  obtain ⟨worker, s, inTrack, a, inStage, env, resolved, rfl⟩ := forStage c mem
  rw [stage_layers] at resolved
  exact ⟨s, inTrack, a, inStage, rfl, rfl, rfl, resolved⟩

/-- For a track whose binding texts all read, every call of its run sees the ambient
environment under the track's layer and then the layer of the action's stage, each read
from the definition's texts; the world the run starts from (earlier runs, their calls and
cancellations) and the hooks play no part in it. -/
theorem call_env_is_track_then_stage_layer (r : Runner) (track : Track) (w : World)
    {trackLayer : Overlay} (layerOf : Stage → Overlay)
    (trackRead : Overlay.ofValues (track.env.map .str) = .ok trackLayer)
    (stagesRead : ∀ s ∈ track.stages, Overlay.ofValues (s.env.map .str) = .ok (layerOf s)) :
    ∃ made, ((r.runTrack track).run.run w).2.calls = w.calls ++ made ∧
      ∀ c ∈ made, ∃ s ∈ track.stages, ∃ a ∈ s.actions,
        c.track = track.name ∧ c.path = track.name ++ "/" ++ s.name ++ "/" ++ a.name ∧
          c.argv = a.argv ∧
          ({ separator := r.separator, layers := [trackLayer, layerOf s] } : Stack).resolve
            r.ambient = .ok c.env := by
  obtain ⟨made, calls, forAction⟩ := run_track_call_env r track w
  refine ⟨made, calls, fun c mem => ?_⟩
  obtain ⟨s, inTrack, a, inStage, named, path, argv, resolved⟩ := forAction c mem
  rw [overlay_of_eq_of_read trackRead, overlay_of_eq_of_read (stagesRead s inTrack)] at resolved
  exact ⟨s, inTrack, a, inStage, named, path, argv, resolved⟩

def twoStageLayer (s : Stage) : Overlay :=
  if s.name = "s" then ⟨[⟨"B", "2"⟩]⟩ else ⟨[⟨"C", "3"⟩]⟩

/-- A track binding `A=1` with a stage binding `B=2` and a stage binding `C=3`: every call
sees `A` with the binding of its own stage only. -/
theorem call_env_is_track_then_stage_layer_two_stages :
    Overlay.ofValues (["A=1"].map .str) = .ok ⟨[⟨"A", "1"⟩]⟩ ∧
      (∀ s ∈ [(⟨"s", [⟨"a", ["a"]⟩], ["B=2"]⟩ : Stage), ⟨"s2", [⟨"b", ["b"]⟩], ["C=3"]⟩],
        Overlay.ofValues (s.env.map .str) = .ok (twoStageLayer s)) ∧
      ∃ made, (((⟨fun _ => {}, {}, [], ":", ""⟩ : Runner).runTrack
          ⟨"t", "linux", [⟨"s", [⟨"a", ["a"]⟩], ["B=2"]⟩, ⟨"s2", [⟨"b", ["b"]⟩], ["C=3"]⟩], ["A=1"]⟩).run.run
          { pool := { workers := [⟨"w1", "w1", ["linux"]⟩] } }).2.calls = [] ++ made ∧
        ∀ c ∈ made, ∃ s ∈ [(⟨"s", [⟨"a", ["a"]⟩], ["B=2"]⟩ : Stage), ⟨"s2", [⟨"b", ["b"]⟩], ["C=3"]⟩],
          ∃ a ∈ s.actions, c.track = "t" ∧ c.path = "t" ++ "/" ++ s.name ++ "/" ++ a.name ∧
            c.argv = a.argv ∧
            ({ separator := ":", layers := [⟨[⟨"A", "1"⟩]⟩, twoStageLayer s] } : Stack).resolve [] =
              .ok c.env :=
  have trackRead : Overlay.ofValues (["A=1"].map .str) = .ok ⟨[⟨"A", "1"⟩]⟩ := by cbv
  have stagesRead : ∀ s ∈ [(⟨"s", [⟨"a", ["a"]⟩], ["B=2"]⟩ : Stage), ⟨"s2", [⟨"b", ["b"]⟩], ["C=3"]⟩],
      Overlay.ofValues (s.env.map .str) = .ok (twoStageLayer s) := by
    intro s mem
    simp only [List.mem_cons, List.not_mem_nil, or_false] at mem
    rcases mem with rfl | rfl <;> cbv
  ⟨trackRead, stagesRead, call_env_is_track_then_stage_layer _ _ _ _ trackRead stagesRead⟩

end Conveyor.Pipeline

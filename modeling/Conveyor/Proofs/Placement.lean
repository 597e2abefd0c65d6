import Mathlib
import Conveyor.Proofs.Selection
import Conveyor.Proofs.Pool
import Conveyor.Proofs.TreeCalls
import Conveyor.Pipeline.Launch

/-!
# Every configured track finds a worker

Two checks decide whether a node selector picks a worker, and they are written apart. Reading
a configuration refuses a track whose node is neither the name nor a label of a configured
worker (`WorkerSettings.isPickedBy`); the pool, when a track asks for a worker, takes the
workers whose name or one of whose trimmed, non-blank labels is the trimmed selector
(`Worker.matches`). Their texts are trimmed in different places: the readers trim the names,
labels and nodes they hand back, the track trims its selector again, and the worker trims its
name and labels again and drops blank labels.

The checks agree. What reading hands back is trimmed and not blank
(`WorkerSettings.Wellformed`), so trimming again changes nothing; the pool built from the
configured workers keeps each worker's name and its labels as a set (`worker_pool_mirrors`);
and on such a worker the pool's check is the configuration's check of the trimmed selector
(`Worker.matches_eq_is_picked_by`). So every track built from an accepted configuration is
matched by a worker of its pool, and the pool never refuses it as unavailable, whatever is
busy (`configured_tracks_find_workers`).
-/

namespace Conveyor.Config

set_option autoImplicit false

open Conveyor.Env Conveyor.Text

variable {α : Type}

theorem Ensures.and {P P' : α → Prop} {Q : SettingsError → Prop} {m : Reading α}
    (first : Ensures P Q m) (second : Ensures P' Q m) : Ensures (fun a => P a ∧ P' a) Q m := by
  intro s
  exact ⟨fun a t run => ⟨(first s).1 a t run, (second s).1 a t run⟩, (first s).2⟩

/-- A worker's settings as the readers hand them back: a trimmed name and trimmed labels. -/
structure WorkerSettings.Wellformed (w : WorkerSettings) : Prop where
  name : Trimmed w.name
  labels : ∀ l ∈ w.labels, Trimmed l

/-- The workers of a configuration as reading leaves them: well formed, of distinct names,
and every track's node picks one of them. -/
structure RunConfig.Staffed (cfg : RunConfig) : Prop where
  workers : ∀ n ∈ cfg.workers.nodes, n.Wellformed
  distinct : (cfg.workers.nodes.map (·.name)).Nodup
  placed : ∀ t ∈ cfg.tracks, ∃ n ∈ cfg.workers.nodes, n.isPickedBy t.node = true

theorem first_unmatched_eq_none {nodes : List WorkerSettings} {i : Nat} {tracks : List TrackSettings} :
    firstUnmatched nodes i tracks = none ↔ ∀ t ∈ tracks, ∃ n ∈ nodes, n.isPickedBy t.node = true := by
  induction tracks generalizing i with
  | nil => simp [firstUnmatched]
  | cons t rest ih =>
    have picks : nodes.any (·.isPickedBy t.node) = true ↔ ∃ n ∈ nodes, n.isPickedBy t.node = true := by
      simp
    rw [firstUnmatched, List.forall_mem_cons, ← picks]
    split
    · rename_i picked
      rw [ih]
      simp [picked]
    · rename_i unpicked
      simp [unpicked]

theorem ensures_read_worker_wellformed :
    Ensures WorkerSettings.Wellformed SettingsError.Plain readWorker := by
  refine Ensures.bind (ensures_read_text (by decide) rfl (.inl rfl)) fun name trimmedName => ?_
  exact Ensures.bind (ensures_read_texts (by decide) rfl (.inl rfl) false) fun labels read =>
    Ensures.pure ⟨trimmedName, read.1⟩

theorem ensures_read_workers_settings_wellformed (env : Vars) :
    Ensures (fun w => (∀ n ∈ w.nodes, n.Wellformed) ∧ (w.nodes.map (·.name)).Nodup)
      SettingsError.Plain (readWorkersSettings env) := by
  refine Ensures.bind (ensures_read_items (by decide) rfl ensures_read_worker_wellformed) fun nodes read => ?_
  dsimp only
  refine Ensures.guard (.inr (.inl rfl)) fun distinct => ?_
  exact Ensures.bind (ensures_read_text (by decide) rfl (.inr (.inr ⟨_, rfl⟩))) fun _ _ =>
    Ensures.pure ⟨read.1, duplicates_eq_nil.mp (by simpa using distinct)⟩

theorem ensures_read_settings_staffed (env : Vars) :
    Ensures (fun read => ((∀ n ∈ read.2.2.2.1.nodes, n.Wellformed) ∧
        (read.2.2.2.1.nodes.map (·.name)).Nodup) ∧
        ∀ t ∈ read.2.2.2.2, ∃ n ∈ read.2.2.2.1.nodes, n.isPickedBy t.1.node = true)
      SettingsError.Plain (readSettings env) := by
  refine Ensures.bind (ensures_read_nested (ensures_read_run_settings env)) fun _ _ => ?_
  refine Ensures.bind (ensures_read_nested ensures_read_source_settings) fun _ _ => ?_
  refine Ensures.bind (ensures_read_nested ensures_read_toolchain_settings) fun _ _ => ?_
  refine Ensures.bind (ensures_read_nested (ensures_read_workers_settings_wellformed env))
    fun workers formed => ?_
  refine Ensures.bind (ensures_read_items (by decide) rfl ensures_read_track) fun read _ => ?_
  dsimp only
  refine Ensures.guard (.inr (.inl rfl)) fun _ => ?_
  split
  · exact Ensures.throw_bind (.inr (.inl rfl))
  · rename_i unmatched
    have placed := first_unmatched_eq_none.mp unmatched
    exact Ensures.pure ⟨formed, fun t mem => placed t.1 (List.mem_map_of_mem mem)⟩

theorem ensures_read_run_config_staffed (env : Vars) :
    Ensures (fun read => read.1.Staffed) SettingsError.Plain (readRunConfig env) := by
  refine Ensures.bind (ensures_read_settings_staffed env) fun settings staffed => ?_
  obtain ⟨run, source, toolchain, workers, read⟩ := settings
  refine Ensures.bind Ensures.get fun root _ => ?_
  dsimp only
  have formed : RunConfig.Staffed
      { run, source, toolchain, workers, tracks := read.map (·.1), effective := root.effectiveValues } :=
    ⟨staffed.1.1, staffed.1.2, by simpa using staffed.2⟩
  cases checked : root.assertConsumed with
  | error e =>
    obtain ⟨path, unknown, consumed, rfl⟩ := Section.assert_consumed_refusal root e checked
    exact Ensures.throw_bind (SettingsError.plain_reading (.inr rfl))
  | ok _ => exact Ensures.pure formed

theorem RunConfig.of_value_staffed {env : Vars} {v : Value} {cfg : RunConfig} {warnings : List String}
    (accepted : RunConfig.ofValue env v = .ok (cfg, warnings)) : cfg.Staffed :=
  (RunConfig.of_value_ensures (ensures_read_run_config_staffed env) v).1 _ accepted

end Conveyor.Config

namespace Conveyor.Workers

set_option autoImplicit false

open Conveyor.Config Conveyor.Text

@[simp] theorem Value.same_key_str (a b : String) : Value.sameKey (.str a) (.str b) = (a == b) := by
  simp [Value.sameKey]

theorem foldl_m_gather {f : List Value → Value → Except Fault (List Value)}
    (step : ∀ (kept : List String) (x : String),
      f (kept.map .str) (.str x) = .ok ((if x ∈ kept then kept else kept ++ [x]).map .str)) :
    ∀ (texts kept : List String), ∃ out : List String,
      (texts.map Value.str).foldlM f (kept.map .str) = .ok (out.map .str) ∧
      ∀ t, t ∈ out ↔ t ∈ kept ∨ t ∈ texts := by
  intro texts
  induction texts with
  | nil => exact fun kept => ⟨kept, rfl, by simp⟩
  | cons x rest ih =>
    intro kept
    obtain ⟨out, gathered, members⟩ := ih (if x ∈ kept then kept else kept ++ [x])
    refine ⟨out, ?_, fun t => ?_⟩
    · rw [List.map_cons, List.foldlM_cons, step, Pipeline.ok_bind, gathered]
    · rw [members t]
      split <;> grind

theorem distinct_members_strs (labels : List String) :
    ∃ out : List String, distinctMembers (labels.map Value.str) = .ok (out.map .str) ∧
      ∀ t, t ∈ out ↔ t ∈ labels := by
  unfold distinctMembers
  refine (foldl_m_gather ?_ labels []).imp fun out found => ⟨found.1, by simpa using found.2⟩
  intro kept x
  by_cases seen : x ∈ kept <;> simp [Value.isHashable, seen]

theorem Worker.of_spec_of_wellformed {n : WorkerSettings} (wf : n.Wellformed) :
    ∃ w, Worker.ofSpec (.str n.name) (.list (n.labels.map Value.str)) = .ok w ∧
      w.name = n.name ∧ ∀ l, l ∈ w.labels ↔ l ∈ n.labels := by
  obtain ⟨out, gathered, members⟩ := distinct_members_strs n.labels
  have named : (strip n.name).isEmpty = false := by
    rw [wf.name.1]
    simpa using wf.name.2
  have kept : (((out.map Value.str).map fun l => strip l.text).filter fun l => !l.isEmpty) = out := by
    rw [List.map_map]
    have same : out.map ((fun l => strip l.text) ∘ Value.str) = out :=
      (List.map_congr_left fun t mem => by
        simpa [Value.text] using (wf.labels t ((members t).mp mem)).1).trans (List.map_id out)
    rw [same, List.filter_eq_self]
    intro t mem
    simpa using (wf.labels t ((members t).mp mem)).2
  refine ⟨⟨strip n.name, n.name, out.eraseDups⟩, ?_, wf.name.1, fun l => ?_⟩
  · simp only [Worker.ofSpec, Value.elements, Value.elements?, bind, Except.bind, gathered,
      Worker.make, named, Bool.false_eq_true, if_false, pure, Except.pure, kept]
  · rw [List.mem_eraseDups, members]

theorem Worker.matches_eq_is_picked_by {n : WorkerSettings} {w : Worker} (name : w.name = n.name)
    (labels : ∀ l, l ∈ w.labels ↔ l ∈ n.labels) (selector : String) :
    w.matches selector = (!(strip selector).isEmpty && n.isPickedBy (strip selector)) := by
  have contains : w.labels.contains (strip selector) = n.labels.contains (strip selector) := by
    simp [labels]
  simp only [Worker.matches, WorkerSettings.isPickedBy, name, contains]

theorem exists_of_forall₂_of_mem {α β : Type} {R : α → β → Prop} {l₁ : List α} {l₂ : List β}
    (related : List.Forall₂ R l₁ l₂) {a : α} (mem : a ∈ l₁) : ∃ b ∈ l₂, R a b := by
  induction related with
  | nil => cases mem
  | cons head _ ih =>
    rcases List.mem_cons.mp mem with rfl | later
    · exact ⟨_, List.mem_cons_self, head⟩
    · obtain ⟨b, inRest, holds⟩ := ih later
      exact ⟨b, List.mem_cons_of_mem _ inRest, holds⟩

theorem exists_forall₂_of_map_m {β γ ε : Type} {f : β → Except ε γ} {R : β → γ → Prop} {l : List β}
    (each : ∀ x ∈ l, ∃ y, f x = .ok y ∧ R x y) : ∃ ys, l.mapM f = .ok ys ∧ List.Forall₂ R l ys := by
  induction l with
  | nil => exact ⟨[], rfl, .nil⟩
  | cons x rest ih =>
    obtain ⟨y, first, holds⟩ := each x List.mem_cons_self
    obtain ⟨ys, later, related⟩ := ih fun x' mem => each x' (List.mem_cons_of_mem _ mem)
    exact ⟨y :: ys, by rw [List.mapM_cons, first, Pipeline.ok_bind, later]; rfl, .cons holds related⟩

theorem worker_pool_mirrors {ws : WorkersSettings} (wf : ∀ n ∈ ws.nodes, n.Wellformed)
    (distinct : (ws.nodes.map (·.name)).Nodup) :
    ∃ pool, Pipeline.workerPool ws = .ok pool ∧
      List.Forall₂ (fun n w => w.name = n.name ∧ ∀ l, l ∈ w.labels ↔ l ∈ n.labels) ws.nodes pool.workers := by
  have each : ∀ n ∈ ws.nodes, ∃ w, Worker.ofSpec (.str n.name) (.list (n.labels.map Value.str)) = .ok w ∧
      w.name = n.name ∧ ∀ l, l ∈ w.labels ↔ l ∈ n.labels :=
    fun n mem => Worker.of_spec_of_wellformed (wf n mem)
  obtain ⟨workers, built, related⟩ := exists_forall₂_of_map_m each
  have names : workers.map (·.name) = ws.nodes.map (·.name) := by
    have sameNames : List.Forall₂ (· = ·) (ws.nodes.map (·.name)) (workers.map (·.name)) :=
      List.forall₂_map_left_iff.mpr
        (List.forall₂_map_right_iff.mpr (related.imp fun _ _ mirrors => mirrors.1.symm))
    rw [List.forall₂_eq_eq_eq] at sameNames
    exact sameNames.symm
  refine ⟨{ workers, files := [] }, ?_, related⟩
  have unique : duplicates (workers.map (·.name)) = [] := duplicates_eq_nil.mpr (names ▸ distinct)
  simp only [Pipeline.workerPool, built, Pipeline.ok_bind, Pool.make, unique, List.isEmpty_nil, if_true]

end Conveyor.Workers

namespace Conveyor.Pipeline

set_option autoImplicit false

open Conveyor.Config Conveyor.Text Conveyor.Workers Conveyor.Env

theorem selector_of_build_tracks {cfg : RunConfig} (wf : cfg.Wellformed) {source : Option SourceSettings}
    {only : List String} {tracks : List Track} (built : buildTracks cfg source only = .ok tracks) :
    ∀ track ∈ tracks, ∃ t ∈ cfg.tracks, track.selector = t.node := by
  intro track mem
  rw [build_tracks_eq] at built
  cases found : (Hash.setOrder only).find? fun name => !decide (name ∈ cfg.tracks.map (·.name)) with
  | some name =>
    rw [found] at built
    cases built
  | none =>
    rw [found, Option.elim] at built
    cases mapped : (cfg.tracks.filter fun t => decide (only = [] ∨ t.name ∈ only)).mapM
        (buildTrack (source.getD cfg.source) (toolchainEnv cfg.toolchain.binDir cfg.toolchain.extraEnv)) with
    | error e =>
      rw [mapped] at built
      cases built
    | ok ys =>
      rw [mapped] at built
      cases built
      obtain ⟨t, chosen, made⟩ := Section.mem_of_map_m_eq_ok mapped track mem
      have configured := (List.mem_filter.mp chosen).1
      have builtAs := build_track_built_as (wf.tracks t configured)
        (binds_toolchain_env cfg.toolchain.binDir wf.toolchain) made
      exact ⟨t, configured, builtAs.selector⟩

/-- Every track built from an accepted configuration is matched by a worker of the
configured pool, and the pool never refuses it as unavailable, whatever is busy. Worker by
worker, the pool's check of a selector is the configuration's check of the trimmed,
non-blank selector. -/
theorem configured_tracks_find_workers {env : Vars} {v : Value} {cfg : RunConfig}
    {warnings : List String} (accepted : RunConfig.ofValue env v = .ok (cfg, warnings)) :
    ∃ pool, workerPool cfg.workers = .ok pool ∧
      List.Forall₂ (fun n w => ∀ selector, w.matches selector =
        (!(strip selector).isEmpty && n.isPickedBy (strip selector))) cfg.workers.nodes pool.workers ∧
      ∀ source only tracks, buildTracks cfg source only = .ok tracks → ∀ track ∈ tracks,
        (∃ w ∈ pool.workers, w.matches track.selector = true) ∧
        ∀ (p : Pool) (root : String), p.workers = pool.workers →
          ∀ m, p.acquire root (.str track.selector) ≠ .error (.unavailable m) := by
  have wf := RunConfig.of_value_wellformed accepted
  have staffed := RunConfig.of_value_staffed accepted
  obtain ⟨pool, made, related⟩ := worker_pool_mirrors staffed.workers staffed.distinct
  have agree : List.Forall₂ (fun n w => ∀ selector, w.matches selector =
      (!(strip selector).isEmpty && n.isPickedBy (strip selector))) cfg.workers.nodes pool.workers :=
    related.imp fun _ _ mirrors => Worker.matches_eq_is_picked_by mirrors.1 mirrors.2
  refine ⟨pool, made, agree, fun source only tracks built track mem => ?_⟩
  obtain ⟨t, configured, selected⟩ := selector_of_build_tracks wf built track mem
  obtain ⟨n, listed, picked⟩ := staffed.placed t configured
  have trimmed := (wf.tracks t configured).node
  have nonblank : (strip t.node).isEmpty = false := by
    rw [trimmed.1]
    simpa using trimmed.2
  obtain ⟨w, inPool, mirrors⟩ := exists_of_forall₂_of_mem related listed
  have matched : w.matches track.selector = true := by
    rw [selected, Worker.matches_eq_is_picked_by mirrors.1 mirrors.2, trimmed.1, picked]
    simpa using trimmed.2
  refine ⟨⟨w, inPool, matched⟩, fun p root same m refused => ?_⟩
  exact Pool.serve_ne_unavailable root (same ▸ inPool) matched m (by rw [Pool.serve_of_refused refused])

/-- Two workers, the first named and labelled with padded texts, and two tracks: the first
picks the first worker by a padded label, the second picks the other worker by its name. -/
def placementConfig : Value :=
  .object [("workers", .object [("nodes", .list [
      .object [("name", .str " w1 "), ("labels", .list [.str " linux ", .str "x86"])],
      .object [("name", .str "w2"), ("labels", .list [.str "arm"])]])]),
    ("tracks", .list [
      .object [("name", .str "t"), ("node", .str " linux "),
        ("stages", .list [.object [("name", .str "build"), ("actions", .list [.str "cargo build"])]])],
      .object [("name", .str "u"), ("node", .str "w2"),
        ("stages", .list [.object [("name", .str "s"), ("actions", .list [.str "true"])]])]])]

theorem configured_tracks_find_workers_sample :
    ∃ cfg warnings, RunConfig.ofValue [] placementConfig = .ok (cfg, warnings) ∧
      ∃ pool, workerPool cfg.workers = .ok pool ∧
        List.Forall₂ (fun n w => ∀ selector, w.matches selector =
          (!(strip selector).isEmpty && n.isPickedBy (strip selector))) cfg.workers.nodes pool.workers ∧
        ∀ source only tracks, buildTracks cfg source only = .ok tracks → ∀ track ∈ tracks,
          (∃ w ∈ pool.workers, w.matches track.selector = true) ∧
          ∀ (p : Pool) (root : String), p.workers = pool.workers →
            ∀ m, p.acquire root (.str track.selector) ≠ .error (.unavailable m) := by
  have read : (RunConfig.ofValue [] placementConfig).toOption.map (fun _ => ()) = some () := by
    decide +kernel
  obtain ⟨⟨cfg, warnings⟩, accepted, -⟩ := exists_ok_of_to_option_map read
  exact ⟨cfg, warnings, accepted, configured_tracks_find_workers accepted⟩

end Conveyor.Pipeline

import Mathlib
import Conveyor.Proofs.SetOrder
import Conveyor.Proofs.Acceptance

/-!
# Which tracks a plan builds, and how

Building the plan of an accepted configuration whose tracks all build is refused exactly when
a name it is restricted to is not configured, with the value fault that names one such name:
the names are checked in the order a set visits them, and a set visits every name it was
given (`Hash.mem_set_order_iff`). Otherwise the plan holds the configured tracks it is
restricted to (all of them when it is not), in configured order, each built as its settings
say (`TrackSettings.BuiltAs`): its name, node and bindings kept, the checkout stage first
when it checks out, then one stage per configured stage with the toolchain's bindings in
front of its own when it uses the toolchain, and one action per command, named by its place
and its command, the names distinct and without a slash.
-/

namespace Conveyor.Config

set_option autoImplicit false

open Conveyor.Pipeline Conveyor.Text

/-- A stage as built from its settings, under a toolchain with binary directory `binDir` and
extra bindings `extra`. -/
structure StageSettings.BuiltAs (binDir : String) (extra : List String) (s : StageSettings)
    (stage : Stage) : Prop where
  name : stage.name = s.name
  /-- The toolchain's binary directory goes in front of `PATH`, then its extra bindings, then
  the stage's own, when the stage uses the toolchain. -/
  env : stage.env = if s.toolchainEnv then ("PATH+RUST=" ++ binDir) :: (extra ++ s.env) else s.env
  /-- One action per command, in order, whose arguments are the command's words. -/
  argv : List.Forall₂ (fun command action => Shell.split command = .ok action.argv) s.actions stage.actions
  /-- Each action is named by its place from one and its command. -/
  names : stage.actions.map (·.name) = s.actions.mapIdx fun i command => actionName ((i + 1 : Nat) : Int) command
  distinct : (stage.actions.map (·.name)).Nodup
  slashless : ∀ a ∈ stage.actions, '/' ∉ a.name.toList

/-- A track as built from its settings, checking out `source`. -/
structure TrackSettings.BuiltAs (source : SourceSettings) (binDir : String) (extra : List String)
    (t : TrackSettings) (track : Track) : Prop where
  name : track.name = t.name
  selector : track.selector = t.node
  env : track.env = t.env
  /-- The checkout stage first when the track checks out, then its configured stages. -/
  stages : ∃ built, track.stages = (if t.checkout then [checkoutStage source] else []) ++ built ∧
    List.Forall₂ (StageSettings.BuiltAs binDir extra) t.stages built

/-- What building the plan of a configuration gives, checking out `source` and restricted to
the tracks named in `only` (to all tracks when `only` is empty). -/
structure RunConfig.PlansAs (cfg : RunConfig) (source : SourceSettings) (only : List String) :
    Prop where
  /-- The plan is refused exactly when a name it is restricted to is not configured, -/
  refused_iff : (∃ f, buildTracks cfg (some source) only = .error f) ↔
    ∃ name ∈ only, name ∉ cfg.tracks.map (·.name)
  /-- and then with the value fault of one such name. -/
  refusal : ∀ f, buildTracks cfg (some source) only = .error f →
    ∃ name ∈ only, name ∉ cfg.tracks.map (·.name) ∧
      f = Fault.value (SettingsError.unknownTrack name (cfg.tracks.map (·.name))).message
  /-- Otherwise it holds the chosen tracks in configured order, each built as its settings say. -/
  built : (∀ name ∈ only, name ∈ cfg.tracks.map (·.name)) →
    ∃ tracks, buildTracks cfg (some source) only = .ok tracks ∧
      List.Forall₂ (TrackSettings.BuiltAs source cfg.toolchain.binDir cfg.toolchain.extraEnv)
        (cfg.tracks.filter fun t => decide (only = [] ∨ t.name ∈ only)) tracks
  checkout_env : (checkoutStage source).env = []
  /-- With a repository, the checkout fetches the revision from it and resets to what it
  fetched; -/
  checkout_fetching : ∀ repo, source.repository = some repo → repo ≠ "" →
    (checkoutStage source).actions = [⟨"git_init", ["git", "init", "--quiet"]⟩,
      ⟨"git_fetch", ["git", "fetch", "--force", "--quiet", repo, source.revision]⟩,
      ⟨"git_reset", ["git", "reset", "--hard", "--quiet", "FETCH_HEAD"]⟩,
      ⟨"git_clean", ["git", "clean", "-ffdx", "--quiet"]⟩]
  /-- without one, it resets to the revision in the repository it initialised. -/
  checkout_local : (∀ repo, source.repository = some repo → repo = "") →
    (checkoutStage source).actions = [⟨"git_init", ["git", "init", "--quiet"]⟩,
      ⟨"git_reset", ["git", "reset", "--hard", "--quiet", source.revision]⟩,
      ⟨"git_clean", ["git", "clean", "-ffdx", "--quiet"]⟩]

end Conveyor.Config

namespace Conveyor.Pipeline

set_option autoImplicit false

open Conveyor.Config Conveyor.Text Conveyor.Env

/-! ## The actions of a stage -/

theorem build_actions_spec {cmds : List String} (trimmed : ∀ c ∈ cmds, Trimmed c) :
    ∀ {i : Nat} {acts : List Action}, buildActions i cmds = .ok acts →
      List.Forall₂ (fun command action => Shell.split command = .ok action.argv) cmds acts ∧
        acts.map (·.name) = cmds.mapIdx fun j command => actionName ((i + j : Nat) : Int) command := by
  induction cmds with
  | nil =>
    intro i acts built
    cases built
    exact ⟨.nil, rfl⟩
  | cons c rest ih =>
    intro i acts built
    obtain ⟨a, made, more⟩ := exists_of_bind_eq_ok built
    obtain ⟨later, builtRest, joined⟩ := exists_of_bind_eq_ok more
    cases joined
    obtain ⟨ws, split⟩ := splits_of_build_actions built c List.mem_cons_self
    rw [of_command_action_name (trimmed c List.mem_cons_self) i split] at made
    injection made with made
    subst made
    obtain ⟨argv, names⟩ := ih (fun c' mem => trimmed c' (List.mem_cons_of_mem _ mem)) builtRest
    refine ⟨.cons split argv, ?_⟩
    rw [List.map_cons, names, List.mapIdx_cons, Nat.add_zero]
    refine List.cons_eq_cons.mpr ⟨rfl, List.mapIdx_eq_mapIdx_iff.mpr fun j _ => ?_⟩
    rw [show i + 1 + j = i + (j + 1) by omega]

/-! ## Stages and tracks -/

section Built

variable {binDir : String} {extra : List String}

theorem build_stage_built_as {s : StageSettings} (wf : s.Wellformed)
    (toolchainBinds : ∀ b ∈ toolchainEnv binDir extra, Binds b) {stage : Stage}
    (built : buildStage (toolchainEnv binDir extra) s = .ok stage) : s.BuiltAs binDir extra stage := by
  obtain ⟨acts, builtActions, made⟩ := exists_of_bind_eq_ok built
  dsimp only at made
  obtain ⟨argv, names⟩ := build_actions_spec wf.actions builtActions
  have distinct : (acts.map (·.name)).Nodup := by
    obtain ⟨acts', built', -, -, distinct⟩ :=
      build_actions_of_splits 1 wf.actions (splits_of_build_actions builtActions)
    rw [builtActions] at built'
    injection built' with same
    rwa [same]
  have nonempty : acts ≠ [] := by
    intro empty
    rw [empty] at argv
    exact wf.actions_ne_nil (List.forall₂_nil_right_iff.mp argv)
  have binds : ∀ b ∈ (if s.toolchainEnv then toolchainEnv binDir extra ++ s.env else s.env), Binds b := by
    split
    · intro b mem
      rcases List.mem_append.mp mem with fromToolchain | own
      · exact toolchainBinds b fromToolchain
      · exact wf.env b own
    · exact wf.env
  rw [Stage.make_of_checked wf.name nonempty distinct binds] at made
  split at made
  · cases made
  · injection made with made
    subst made
    have placed : acts.map (·.name) = s.actions.mapIdx fun i command => actionName ((i + 1 : Nat) : Int) command := by
      rw [names]
      exact List.mapIdx_eq_mapIdx_iff.mpr fun j _ => by rw [Nat.add_comm]
    refine ⟨rfl, by cases s.toolchainEnv <;> rfl, argv, placed, distinct, fun a mem => ?_⟩
    have listed : a.name ∈ s.actions.mapIdx fun i command => actionName ((i + 1 : Nat) : Int) command := by
      rw [← placed]
      exact List.mem_map_of_mem mem
    obtain ⟨j, _, named⟩ := List.mem_mapIdx.mp listed
    rw [← named]
    exact slash_not_mem_action_name _ _

theorem names_of_built_as {ss : List StageSettings} {stages : List Stage}
    (built : List.Forall₂ (StageSettings.BuiltAs binDir extra) ss stages) :
    stages.map (·.name) = ss.map (·.name) := by
  induction built with
  | nil => rfl
  | cons first _ ih => rw [List.map_cons, List.map_cons, first.name, ih]

theorem build_track_built_as {source : SourceSettings} {t : TrackSettings} (wf : t.Wellformed)
    (toolchainBinds : ∀ b ∈ toolchainEnv binDir extra, Binds b) {track : Track}
    (built : buildTrack source (toolchainEnv binDir extra) t = .ok track) :
    t.BuiltAs source binDir extra track := by
  obtain ⟨stages, builtStages, made⟩ := exists_of_bind_eq_ok built
  dsimp only at made
  have builtAs : List.Forall₂ (StageSettings.BuiltAs binDir extra) t.stages stages :=
    ((List.forall₂_and_left _ _).mpr ⟨wf.stages, forall₂_of_map_m_eq_ok builtStages⟩).imp
      fun _ _ both => build_stage_built_as both.1 toolchainBinds both.2
  have names := names_of_built_as builtAs
  have nonempty : (if t.checkout then [checkoutStage source] else []) ++ stages ≠ [] := by
    intro empty
    have noneBuilt : stages = [] := (List.append_eq_nil_iff.mp empty).2
    rw [noneBuilt, List.map_nil, eq_comm, List.map_eq_nil_iff] at names
    exact wf.stages_ne_nil names
  have distinct : (((if t.checkout then [checkoutStage source] else []) ++ stages).map (·.name)).Nodup := by
    have configured := duplicates_eq_nil.mp wf.distinct
    rw [List.map_append, names]
    split
    · rename_i checksOut
      exact List.nodup_cons.mpr ⟨wf.checkout checksOut, configured⟩
    · exact configured
  rw [Track.make_of_checked wf.name wf.node nonempty distinct wf.env] at made
  split at made
  · cases made
  · injection made with made
    subst made
    exact ⟨rfl, rfl, rfl, stages, rfl, builtAs⟩

end Built

/-! ## The names a plan is restricted to -/

theorem for_in_check {α ε : Type} {l : List α} {f : α → Unit → Except ε (ForInStep Unit)}
    {P : α → Prop} [DecidablePred P] {E : α → ε}
    (each : ∀ x, f x () = if P x then .ok (.yield ()) else .error (E x)) :
    forIn l () f = (l.find? fun x => !decide (P x)).elim (.ok ()) fun x => .error (E x) := by
  induction l with
  | nil => rfl
  | cons x rest ih =>
    rw [List.forIn_cons, each x, List.find?_cons]
    by_cases passes : P x
    · rw [if_pos passes, ok_bind]
      simpa [passes] using ih
    · rw [if_neg passes]
      simp [passes]
      rfl

theorem RunConfig.track?_of_not_mem {cfg : RunConfig} {name : String}
    (absent : name ∉ cfg.tracks.map (·.name)) :
    cfg.track? name = .error (.unknownTrack name (cfg.tracks.map (·.name))) := by
  unfold RunConfig.track?
  rw [List.find?_eq_none.mpr fun t mem same => absent (List.mem_map.mpr ⟨t, mem, by simpa using same⟩)]

/-- Building a plan first checks the names it is restricted to, in the order a set visits
them, and refuses the first that names no configured track; then it builds the chosen tracks. -/
theorem build_tracks_eq (cfg : RunConfig) (source : Option SourceSettings) (only : List String) :
    buildTracks cfg source only =
      ((Hash.setOrder only).find? fun name => !decide (name ∈ cfg.tracks.map (·.name))).elim
        (((cfg.tracks.filter fun t => decide (only = [] ∨ t.name ∈ only)).mapM
          (buildTrack (source.getD cfg.source) (toolchainEnv cfg.toolchain.binDir cfg.toolchain.extraEnv))).mapError
            DefinitionError.toFault)
        fun name => .error (SettingsError.unknownTrack name (cfg.tracks.map (·.name))).toFault := by
  have chosen : (cfg.tracks.filter fun t => only.isEmpty || only.contains t.name) =
      cfg.tracks.filter fun t => decide (only = [] ∨ t.name ∈ only) :=
    List.filter_congr fun t _ => by cases only <;> simp
  unfold buildTracks
  rw [for_in_check (P := fun name => name ∈ cfg.tracks.map (·.name))
    (E := fun name => (SettingsError.unknownTrack name (cfg.tracks.map (·.name))).toFault)]
  · rw [chosen]
    cases (Hash.setOrder only).find? fun name => !decide (name ∈ cfg.tracks.map (·.name)) <;> rfl
  · intro name
    by_cases configured : name ∈ cfg.tracks.map (·.name)
    · obtain ⟨t, found⟩ := RunConfig.track?_of_mem configured
      rw [if_pos configured]
      simp only [found]
      rfl
    · rw [if_neg configured]
      simp only [RunConfig.track?_of_not_mem configured]
      rfl

/-! ## The plan of an accepted configuration -/

theorem checkout_stage_fetching (source : SourceSettings) (repo : String)
    (given : source.repository = some repo) (nonempty : repo ≠ "") :
    (checkoutStage source).actions = [⟨"git_init", ["git", "init", "--quiet"]⟩,
      ⟨"git_fetch", ["git", "fetch", "--force", "--quiet", repo, source.revision]⟩,
      ⟨"git_reset", ["git", "reset", "--hard", "--quiet", "FETCH_HEAD"]⟩,
      ⟨"git_clean", ["git", "clean", "-ffdx", "--quiet"]⟩] := by
  have filled : repo.isEmpty = false := by simpa using nonempty
  simp [checkoutStage, checkoutActions, given, filled]

theorem checkout_stage_local (source : SourceSettings) (none : ∀ repo, source.repository = some repo → repo = "") :
    (checkoutStage source).actions = [⟨"git_init", ["git", "init", "--quiet"]⟩,
      ⟨"git_reset", ["git", "reset", "--hard", "--quiet", source.revision]⟩,
      ⟨"git_clean", ["git", "clean", "-ffdx", "--quiet"]⟩] := by
  cases given : source.repository with
  | none => simp [checkoutStage, checkoutActions, given]
  | some repo =>
    rw [none repo given] at given
    simp [checkoutStage, checkoutActions, given]

/-- Every accepted configuration whose tracks all build plans as `RunConfig.PlansAs` says,
for any source and any restriction. -/
theorem build_tracks_plans_as {env : Vars} {v : Value} {cfg : RunConfig} {warnings : List String}
    (accepted : RunConfig.ofValue env v = .ok (cfg, warnings)) (buildable : ∀ t ∈ cfg.tracks, t.Buildable)
    (source : SourceSettings) (only : List String) : cfg.PlansAs source only := by
  have wf := RunConfig.of_value_wellformed accepted
  have toolchainBinds := binds_toolchain_env cfg.toolchain.binDir wf.toolchain
  obtain ⟨tracks, builtOk, -⟩ := map_m_ok_of_forall
      (f := buildTrack source (toolchainEnv cfg.toolchain.binDir cfg.toolchain.extraEnv))
      (g := fun _ => ()) (h := fun _ => ())
      (l := cfg.tracks.filter fun t => decide (only = [] ∨ t.name ∈ only)) fun t chosen => by
    have configured := (List.mem_filter.mp chosen).1
    obtain ⟨track, built⟩ : ∃ track, buildTrack source (toolchainEnv cfg.toolchain.binDir
        cfg.toolchain.extraEnv) t = .ok track :=
      build_track_of_buildable (wf.tracks t configured) toolchainBinds (buildable t configured)
    exact ⟨track, built, rfl⟩
  have builtAs : List.Forall₂ (TrackSettings.BuiltAs source cfg.toolchain.binDir cfg.toolchain.extraEnv)
      (cfg.tracks.filter fun t => decide (only = [] ∨ t.name ∈ only)) tracks :=
    ((List.forall₂_and_left _ _).mpr ⟨fun t chosen => wf.tracks t (List.mem_filter.mp chosen).1,
      forall₂_of_map_m_eq_ok builtOk⟩).imp fun _ _ both => build_track_built_as both.1 toolchainBinds both.2
  have refusal : ∀ f, buildTracks cfg (some source) only = .error f →
      ∃ name ∈ only, name ∉ cfg.tracks.map (·.name) ∧
        f = Fault.value (SettingsError.unknownTrack name (cfg.tracks.map (·.name))).message := by
    intro f refused
    rw [build_tracks_eq] at refused
    cases found : (Hash.setOrder only).find? fun name => !decide (name ∈ cfg.tracks.map (·.name)) with
    | none =>
      rw [found, Option.elim, Option.getD_some, builtOk] at refused
      cases refused
    | some name =>
      rw [found, Option.elim] at refused
      injection refused with refused
      have absent : name ∉ cfg.tracks.map (·.name) := by simpa using List.find?_some found
      exact ⟨name, Hash.mem_of_mem_set_order (List.mem_of_find?_eq_some found), absent, refused.symm⟩
  refine ⟨⟨fun refused => ?_, fun unknown => ?_⟩, refusal, fun all => ?_, rfl,
    checkout_stage_fetching source, checkout_stage_local source⟩
  · obtain ⟨f, refused⟩ := refused
    obtain ⟨name, mem, absent, -⟩ := refusal f refused
    exact ⟨name, mem, absent⟩
  · obtain ⟨name, mem, absent⟩ := unknown
    cases found : (Hash.setOrder only).find? fun name => !decide (name ∈ cfg.tracks.map (·.name)) with
    | none =>
      have passes := List.find?_eq_none.mp found name (Hash.mem_set_order_of_mem mem)
      simp [absent] at passes
    | some name' => exact ⟨_, by rw [build_tracks_eq, found]; rfl⟩
  · refine ⟨tracks, ?_, builtAs⟩
    have none : ((Hash.setOrder only).find? fun name => !decide (name ∈ cfg.tracks.map (·.name))) = none :=
      List.find?_eq_none.mpr fun name visited => by simp [all name (Hash.mem_of_mem_set_order visited)]
    rw [build_tracks_eq, none, Option.elim, Option.getD_some, builtOk]
    rfl

def plannedConfig : Value :=
  .object [("workers", .object [("nodes", .list [.object [("name", .str "w1"), ("labels", .list [.str "linux"])]])]),
    ("tracks", .list [
      .object [("name", .str "t"), ("node", .str "linux"),
        ("stages", .list [.object [("name", .str "build"), ("actions", .list [.str "cargo build", .str "cargo test"])]])],
      .object [("name", .str "u"), ("node", .str "linux"), ("checkout", .bool false),
        ("stages", .list [.object [("name", .str "s"), ("actions", .list [.str "true"])]])]])]

/-- The sample configuration is accepted, its tracks build, and its plan restricted to the
first track plans as the contract says. -/
theorem build_tracks_plans_as_sample :
    ∃ cfg warnings, RunConfig.ofValue [] plannedConfig = .ok (cfg, warnings) ∧
      (∀ t ∈ cfg.tracks, t.Buildable) ∧ cfg.PlansAs ⟨some "origin", "main"⟩ ["t"] := by
  have evaluated : (RunConfig.ofValue [] plannedConfig).toOption.map
      (fun read => (buildTracks read.1 none []).toBool) = some true := by
    decide +kernel
  obtain ⟨⟨cfg, warnings⟩, accepted, plans⟩ := exists_ok_of_to_option_map evaluated
  obtain ⟨tracks, built⟩ := exists_ok_of_to_bool plans
  have buildable : ∀ t ∈ cfg.tracks, t.Buildable := fun t mem =>
    (build_tracks_ok_iff_buildable accepted none (by simp)).mp ⟨tracks, built⟩ t mem (.inl rfl)
  exact ⟨cfg, warnings, accepted, buildable, build_tracks_plans_as accepted buildable _ _⟩

end Conveyor.Pipeline

import Mathlib
import Conveyor.Proofs.ActionNames
import Conveyor.Proofs.ConfigResults

/-!
# Which configurations plan

Reading a configuration and building its tracks check the same fields twice, with two sets
of rules. What reading hands back is well formed (`RunConfig.Wellformed`), and every check
that building makes again then passes: names are trimmed and not empty, stages and
commands are there, names of stages are distinct and leave the checkout's free, bindings
parse, the actions of a stage get distinct names from their places. Two checks are made
by building alone: a name holds no slash, and a command splits into words. So building the
tracks of an accepted configuration fails exactly when one of the chosen tracks breaks one
of those two (`build_tracks_ok_iff_buildable`), and a track named `a/b` is read and then
refused (`slashed_track_name_stops_plan`).
-/

namespace Conveyor.Hash

set_option autoImplicit false

def Holds (names : List String) (table : Slots) : Prop :=
  ∀ k h, some (k, h) ∈ table.toList → k ∈ names

variable {names : List String}

theorem holds_replicate (n : Nat) : Holds names (Array.replicate n none) := by
  intro k h mem
  simp at mem

theorem Holds.set_if_in_bounds {table : Slots} (holds : Holds names table) {name : String}
    (mem : name ∈ names) (i : Nat) (h : UInt64) :
    Holds names (table.setIfInBounds i (some (name, h))) := by
  intro k h' inSet
  rw [Array.toList_setIfInBounds] at inSet
  rcases List.mem_or_eq_of_mem_set inSet with old | placed
  · exact holds k h' old
  · cases placed
    exact mem

theorem Holds.place {table : Slots} (holds : Holds names table) {name : String}
    (mem : name ∈ names) (h : UInt64) : Holds names (Hash.place table name h) := by
  unfold Hash.place
  split
  · exact holds.set_if_in_bounds mem _ h
  · exact holds

theorem holds_foldl {f : Slots → Option (String × UInt64) → Slots}
    (step : ∀ acc slot, Holds names acc → (∀ k h, slot = some (k, h) → k ∈ names) →
      Holds names (f acc slot)) :
    ∀ (slots : List (Option (String × UInt64))) (acc : Slots),
      (∀ k h, some (k, h) ∈ slots → k ∈ names) → Holds names acc → Holds names (slots.foldl f acc) := by
  intro slots
  induction slots with
  | nil => intro acc _ holdsAcc; exact holdsAcc
  | cons slot rest ih =>
    intro acc inSlots holdsAcc
    refine ih _ (fun k h mem => inSlots k h (List.mem_cons_of_mem _ mem)) ?_
    exact step acc slot holdsAcc fun k h same => inSlots k h (same ▸ List.mem_cons_self)

theorem Holds.grow {table : Slots} (holds : Holds names table) (held : Nat) :
    Holds names (Hash.grow table held) := by
  unfold Hash.grow
  rw [← Array.foldl_toList]
  refine holds_foldl (fun acc slot holdsAcc inSlot => ?_) _ _ holds (holds_replicate _)
  rcases slot with _ | ⟨k, h⟩
  · exact holdsAcc
  · exact holdsAcc.place (inSlot k h rfl) h

theorem Holds.add_name {acc : Slots × Nat} (holds : Holds names acc.1) {name : String}
    (mem : name ∈ names) : Holds names (Hash.addName acc name).1 := by
  obtain ⟨table, held⟩ := acc
  unfold Hash.addName
  dsimp only
  split
  · exact holds
  · rename_i i _
    have placed := holds.set_if_in_bounds mem i (textHash name)
    split
    · exact placed.grow _
    · exact placed

theorem holds_foldl_add_name (added : List String) (sub : ∀ name ∈ added, name ∈ names)
    (acc : Slots × Nat) (holds : Holds names acc.1) : Holds names (added.foldl Hash.addName acc).1 := by
  induction added generalizing acc with
  | nil => exact holds
  | cons name rest ih =>
    exact ih (fun n mem => sub n (List.mem_cons_of_mem _ mem)) _
      (holds.add_name (sub name List.mem_cons_self))

theorem mem_of_mem_set_order {name : String} (mem : name ∈ setOrder names) : name ∈ names := by
  unfold setOrder at mem
  have holds := holds_foldl_add_name names (fun _ m => m) (Array.replicate 8 none, 0)
    (holds_replicate 8)
  simp only [List.mem_filterMap, Option.map_eq_some_iff] at mem
  obtain ⟨slot, inTable, ⟨k, h⟩, rfl, rfl⟩ := mem
  exact holds k h inTable

end Conveyor.Hash

namespace Conveyor.Config

set_option autoImplicit false

/-- What building a configured stage asks beyond what reading it checked: a name without a
slash, and commands that split into words. -/
def StageSettings.Buildable (s : StageSettings) : Prop :=
  '/' ∉ s.name.toList ∧ ∀ c ∈ s.actions, ∃ ws, Text.Shell.split c = .ok ws

/-- What building a configured track asks beyond what reading it checked: a name without a
slash, and stages that build. -/
def TrackSettings.Buildable (t : TrackSettings) : Prop :=
  '/' ∉ t.name.toList ∧ ∀ s ∈ t.stages, s.Buildable

theorem RunConfig.track?_of_mem {cfg : RunConfig} {name : String}
    (mem : name ∈ cfg.tracks.map (·.name)) : ∃ t, cfg.track? name = .ok t := by
  unfold RunConfig.track?
  cases found : cfg.tracks.find? (·.name == name) with
  | some t => exact ⟨t, rfl⟩
  | none =>
    obtain ⟨t, inTracks, rfl⟩ := List.mem_map.mp mem
    have missed := List.find?_eq_none.mp found t inTracks
    simp at missed

end Conveyor.Config

namespace Conveyor.Pipeline

set_option autoImplicit false

open Conveyor.Config Conveyor.Text Conveyor.Env

/-! ## The checks of the constructors, on what the readers hand back -/

theorem require_name_of_trimmed {raw : String} (trimmed : Trimmed raw) (label : String) :
    requireName (.str raw) label =
      if '/' ∈ raw.toList then .error (.nameWithSlash label raw) else .ok raw := by
  have nonblank : raw.isEmpty = false := by simpa using trimmed.2
  simp only [requireName, trimmed.1, nonblank, Bool.false_eq_true, if_false, List.contains_iff_mem]

theorem normalize_env_strs {env : List String} (binds : ∀ b ∈ env, Binds b) (label : String) :
    normalizeEnv (Value.strs env) label = .ok env := by
  unfold normalizeEnv Value.strs
  induction env with
  | nil => rfl
  | cons b rest ih =>
    obtain ⟨binding, parsed⟩ := binds b List.mem_cons_self
    have restOk := ih fun b' mem => binds b' (List.mem_cons_of_mem _ mem)
    simp only [List.map_cons, List.mapM_cons, parsed, Value.text] at restOk ⊢
    rw [restOk]
    rfl

theorem check_argv_strs (name : String) (i : Nat) (ws : List String) :
    checkArgv name i (ws.map .str) = .ok ws := by
  induction ws generalizing i with
  | nil => rfl
  | cons w rest ih => simp [checkArgv, ih, Except.map]

theorem only_ok_map_ok {α : Type} (refuse : String → DefinitionError) (xs : List α) :
    onlyOk refuse (xs.map Entry.ok) = .ok xs := by
  induction xs with
  | nil => rfl
  | cons x rest ih => simp [onlyOk, ih, Except.map]

theorem of_command_action_name {command : String} (trimmed : Trimmed command) (n : Nat)
    {ws : List String} (split : Shell.split command = .ok ws) :
    Action.ofCommand command (.str (actionName n command)) = .ok ⟨actionName n command, ws⟩ := by
  have words : ws.isEmpty = false := by
    simpa using Shell.split_ne_nil trimmed.1 trimmed.2 split
  have named : (Value.str (actionName n command)).isFalsy = false := by
    have chars : (actionName n command).toList ≠ [] := by simp [actionName]
    simpa [Value.isFalsy] using chars
  have trimmedName : Trimmed (actionName n command) :=
    ⟨strip_action_name n command, by simp [actionName]⟩
  have checked := require_name_of_trimmed trimmedName "Action name"
  rw [if_neg (slash_not_mem_action_name n command)] at checked
  have listed : (ws.map Value.str).isEmpty = false := by simpa using words
  simp only [Action.ofCommand, split, named, Bool.false_eq_true, if_false, pure_bind, words,
    Action.make, checked, listed, check_argv_strs]
  rfl

theorem ok_bind {ε α β : Type} (a : α) (f : α → Except ε β) : (Except.ok a >>= f) = f a := rfl

theorem exists_of_bind_eq_ok {ε α β : Type} {x : Except ε α} {f : α → Except ε β} {b : β}
    (h : (x >>= f) = .ok b) : ∃ a, x = .ok a ∧ f a = .ok b := by
  cases x with
  | error e => cases h
  | ok a => exact ⟨a, rfl, h⟩

theorem exists_ok_of_map_m_eq_ok {β γ ε : Type} {f : β → Except ε γ} {l : List β} {ys : List γ}
    (run : l.mapM f = .ok ys) : ∀ x ∈ l, ∃ y, f x = .ok y := by
  induction l generalizing ys with
  | nil => simp
  | cons x rest ih =>
    rw [List.mapM_cons] at run
    obtain ⟨y, first, more⟩ := exists_of_bind_eq_ok run
    obtain ⟨ys', later, -⟩ := exists_of_bind_eq_ok more
    intro x' mem
    rcases List.mem_cons.mp mem with rfl | inRest
    · exact ⟨y, first⟩
    · exact ih later x' inRest

/-- A map that succeeds on every item succeeds on the list, and what it hands back keeps a
projection of the items. -/
theorem map_m_ok_of_forall {β γ δ ε : Type} {f : β → Except ε γ} {g : γ → δ} {h : β → δ}
    {l : List β} (each : ∀ x ∈ l, ∃ y, f x = .ok y ∧ g y = h x) :
    ∃ ys, l.mapM f = .ok ys ∧ ys.map g = l.map h := by
  induction l with
  | nil => exact ⟨[], rfl, rfl⟩
  | cons x rest ih =>
    obtain ⟨y, first, same⟩ := each x List.mem_cons_self
    obtain ⟨ys, later, sameRest⟩ := ih fun x' mem => each x' (List.mem_cons_of_mem _ mem)
    refine ⟨y :: ys, ?_, by simp [same, sameRest]⟩
    rw [List.mapM_cons, first, ok_bind, later, ok_bind]
    rfl

/-! ## Building the actions of a stage -/

/-- Trimmed commands that split become actions named after their places, with distinct
names. -/
theorem build_actions_of_splits (i : Nat) {cmds : List String} (trimmed : ∀ c ∈ cmds, Trimmed c)
    (splits : ∀ c ∈ cmds, ∃ ws, Shell.split c = .ok ws) :
    ∃ acts, buildActions i cmds = .ok acts ∧ acts.length = cmds.length ∧
      (∀ a ∈ acts, i ≤ nameIndex a.name) ∧ (acts.map (·.name)).Nodup := by
  induction cmds generalizing i with
  | nil => exact ⟨[], rfl, rfl, by simp, by simp⟩
  | cons c rest ih =>
    obtain ⟨ws, split⟩ := splits c List.mem_cons_self
    obtain ⟨acts, built, length, later, distinct⟩ := ih (i + 1)
      (fun c' mem => trimmed c' (List.mem_cons_of_mem _ mem))
      (fun c' mem => splits c' (List.mem_cons_of_mem _ mem))
    refine ⟨⟨actionName i c, ws⟩ :: acts, ?_, by simp [length], ?_, ?_⟩
    · simp only [buildActions, of_command_action_name (trimmed c List.mem_cons_self) i split, built]
      rfl
    · intro a mem
      rcases List.mem_cons.mp mem with rfl | inRest
      · simp [name_index_action_name]
      · have := later a inRest
        omega
    · refine List.nodup_cons.mpr ⟨fun named => ?_, distinct⟩
      obtain ⟨a, inRest, same⟩ := List.mem_map.mp named
      have := later a inRest
      rw [same, name_index_action_name] at this
      omega

theorem splits_of_build_actions {i : Nat} {cmds : List String} {acts : List Action}
    (built : buildActions i cmds = .ok acts) : ∀ c ∈ cmds, ∃ ws, Shell.split c = .ok ws := by
  induction cmds generalizing i acts with
  | nil => simp
  | cons c rest ih =>
    obtain ⟨a, made, more⟩ := exists_of_bind_eq_ok built
    obtain ⟨acts', builtRest, -⟩ := exists_of_bind_eq_ok more
    intro c' mem
    rcases List.mem_cons.mp mem with rfl | inRest
    · cases split : Shell.split c' with
      | error e =>
        simp only [Action.ofCommand, split] at made
        cases made
      | ok ws => exact ⟨ws, rfl⟩
    · exact ih builtRest c' inRest

/-! ## Building a stage -/

theorem Stage.make_of_checked {name : String} (trimmed : Trimmed name) {actions : List Action}
    (nonempty : actions ≠ []) (distinct : (actions.map (·.name)).Nodup) {env : List String}
    (binds : ∀ b ∈ env, Binds b) :
    Stage.make (.str name) (.items (actions.map Entry.ok)) (Value.strs env) =
      if '/' ∈ name.toList then .error (.nameWithSlash "Stage name" name) else .ok ⟨name, actions, env⟩ := by
  have entries : (actions.map Entry.ok).isEmpty = false := by simpa using nonempty
  rw [Stage.make, require_name_of_trimmed trimmed]
  by_cases slash : '/' ∈ name.toList
  · simp only [slash, if_true]
    rfl
  · simp only [slash, if_false, bind, Except.bind, pure, Except.pure, entries, only_ok_map_ok,
      duplicates_eq_nil.mpr distinct, normalize_env_strs binds]
    rfl

/-- The bindings of the toolchain all parse: the first puts its binary directory in front of
`PATH`. -/
theorem binds_toolchain_env (binDir : String) {extra : List String} (binds : ∀ b ∈ extra, Binds b) :
    ∀ b ∈ toolchainEnv binDir extra, Binds b := by
  have chars : ("PATH+RUST=" ++ binDir).toList =
      ['P', 'A', 'T', 'H', '+', 'R', 'U', 'S', 'T', '='] ++ binDir.toList := by
    rw [String.toList_append]
    rfl
  have split : splitFirst '=' ("PATH+RUST=" ++ binDir) = ("PATH+RUST", some binDir) := by
    simp [splitFirst, chars, List.findIdx?_cons]
  have key : strip "PATH+RUST" = "PATH+RUST" := by decide
  have additive : splitAdditive "PATH+RUST" = ("PATH", some "RUST") := by decide
  have named : ("PATH+RUST".isEmpty || ("PATH".isEmpty || some "RUST" == some "")) = false := by
    decide
  simp only [Bool.or_eq_false_iff] at named
  intro b mem
  rcases List.mem_cons.mp mem with rfl | inExtra
  · refine ⟨⟨"PATH+RUST", binDir⟩, ?_⟩
    simp [Binding.parse, split, key, additive, named.1, named.2]
  · exact binds b inExtra

section Stages

variable {toolchain : List String} {s : StageSettings}

theorem build_stage_of_buildable (wf : s.Wellformed) (toolchainBinds : ∀ b ∈ toolchain, Binds b)
    (buildable : s.Buildable) : ∃ st, buildStage toolchain s = .ok st ∧ st.name = s.name := by
  obtain ⟨acts, built, length, -, distinct⟩ := build_actions_of_splits 1 wf.actions buildable.2
  have nonempty : acts ≠ [] := by
    intro empty
    rw [empty, List.length_nil, eq_comm, List.length_eq_zero_iff] at length
    exact wf.actions_ne_nil length
  have binds : ∀ b ∈ (if s.toolchainEnv then toolchain ++ s.env else s.env), Binds b := by
    split
    · intro b mem
      rcases List.mem_append.mp mem with fromToolchain | own
      · exact toolchainBinds b fromToolchain
      · exact wf.env b own
    · exact wf.env
  refine ⟨⟨s.name, acts, if s.toolchainEnv then toolchain ++ s.env else s.env⟩, ?_, rfl⟩
  rw [buildStage, built, ok_bind]
  exact (Stage.make_of_checked wf.name nonempty distinct binds).trans (if_neg buildable.1)

theorem buildable_of_build_stage (wf : s.Wellformed) {st : Stage}
    (built : buildStage toolchain s = .ok st) : s.Buildable := by
  obtain ⟨acts, builtActions, made⟩ := exists_of_bind_eq_ok built
  obtain ⟨name, named, -⟩ := exists_of_bind_eq_ok made
  refine ⟨fun slash => ?_, splits_of_build_actions builtActions⟩
  rw [require_name_of_trimmed wf.name, if_pos slash] at named
  cases named

end Stages

/-! ## Building a track -/

theorem Track.make_of_checked {name node : String} (trimmed : Trimmed name) (trimmedNode : Trimmed node)
    {stages : List Stage} (nonempty : stages ≠ []) (distinct : (stages.map (·.name)).Nodup)
    {env : List String} (binds : ∀ b ∈ env, Binds b) :
    Track.make (.str name) (.str node) (.items (stages.map Entry.ok)) (Value.strs env) =
      if '/' ∈ name.toList then .error (.nameWithSlash "Track name" name)
      else .ok ⟨name, node, stages, env⟩ := by
  have entries : (stages.map Entry.ok).isEmpty = false := by simpa using nonempty
  have selector : node.isEmpty = false := by simpa using trimmedNode.2
  rw [Track.make, require_name_of_trimmed trimmed]
  by_cases slash : '/' ∈ name.toList
  · simp only [slash, if_true]
    rfl
  · simp only [slash, if_false, bind, Except.bind, pure, Except.pure, trimmedNode.1, selector,
      Bool.false_eq_true, entries, only_ok_map_ok, duplicates_eq_nil.mpr distinct, List.isEmpty_nil,
      Bool.not_true, normalize_env_strs binds]

section Tracks

variable {source : SourceSettings} {toolchain : List String} {t : TrackSettings}

theorem build_track_of_buildable (wf : t.Wellformed) (toolchainBinds : ∀ b ∈ toolchain, Binds b)
    (buildable : t.Buildable) : ∃ track, buildTrack source toolchain t = .ok track := by
  obtain ⟨built, builtOk, names⟩ := map_m_ok_of_forall (f := buildStage toolchain)
    (g := (·.name)) (h := (·.name)) fun s mem =>
      build_stage_of_buildable (wf.stages s mem) toolchainBinds (buildable.2 s mem)
  set stages := (if t.checkout then [checkoutStage source] else []) ++ built with stagesEq
  have nonempty : stages ≠ [] := by
    intro empty
    have noneBuilt : built = [] := (List.append_eq_nil_iff.mp empty).2
    rw [noneBuilt, List.map_nil, eq_comm, List.map_eq_nil_iff] at names
    exact wf.stages_ne_nil names
  have distinct : (stages.map (·.name)).Nodup := by
    have configured := duplicates_eq_nil.mp wf.distinct
    rw [stagesEq, List.map_append, names]
    split
    · rename_i checksOut
      exact List.nodup_cons.mpr ⟨wf.checkout checksOut, configured⟩
    · exact configured
  refine ⟨⟨t.name, t.node, stages, t.env⟩, ?_⟩
  rw [buildTrack, builtOk, ok_bind]
  exact (Track.make_of_checked wf.name wf.node nonempty distinct wf.env).trans (if_neg buildable.1)

theorem buildable_of_build_track (wf : t.Wellformed) {track : Track}
    (built : buildTrack source toolchain t = .ok track) : t.Buildable := by
  obtain ⟨stages, builtStages, made⟩ := exists_of_bind_eq_ok built
  obtain ⟨name, named, -⟩ := exists_of_bind_eq_ok made
  refine ⟨fun slash => ?_, fun s mem => ?_⟩
  · rw [require_name_of_trimmed wf.name, if_pos slash] at named
    cases named
  · obtain ⟨st, stageBuilt⟩ := exists_ok_of_map_m_eq_ok builtStages s mem
    exact buildable_of_build_stage (wf.stages s mem) stageBuilt

theorem build_track_ok_iff (wf : t.Wellformed) (toolchainBinds : ∀ b ∈ toolchain, Binds b) :
    (∃ track, buildTrack source toolchain t = .ok track) ↔ t.Buildable :=
  ⟨fun ⟨_, built⟩ => buildable_of_build_track wf built, build_track_of_buildable wf toolchainBinds⟩

end Tracks

/-! ## Building the tracks of a run -/

theorem for_in_yield_ok {α ε : Type} {l : List α} {f : α → Unit → Except ε (ForInStep Unit)}
    (each : ∀ x ∈ l, f x () = .ok (.yield ())) : forIn l () f = .ok () := by
  induction l with
  | nil => rfl
  | cons x rest ih =>
    rw [List.forIn_cons, each x List.mem_cons_self, ok_bind]
    exact ih fun x' mem => each x' (List.mem_cons_of_mem _ mem)

theorem build_tracks_ok_iff {cfg : RunConfig} (wf : cfg.Wellformed) (source : Option SourceSettings)
    {only : List String} (named : ∀ name ∈ only, name ∈ cfg.tracks.map (·.name)) :
    (∃ tracks, buildTracks cfg source only = .ok tracks) ↔
      ∀ t ∈ cfg.tracks, (only = [] ∨ t.name ∈ only) → t.Buildable := by
  have chosenIff : ∀ t : TrackSettings, t ∈ cfg.tracks.filter (fun t => only.isEmpty || only.contains t.name) ↔
      t ∈ cfg.tracks ∧ (only = [] ∨ t.name ∈ only) := by
    simp
  have toolchainBinds := binds_toolchain_env cfg.toolchain.binDir wf.toolchain
  unfold buildTracks
  rw [for_in_yield_ok fun name mem => ?_, ok_bind]
  · dsimp only
    constructor
    · rintro ⟨tracks, built⟩ t inTracks chosen
      cases mapped : (cfg.tracks.filter fun t => only.isEmpty || only.contains t.name).mapM
          (buildTrack (source.getD cfg.source) (toolchainEnv cfg.toolchain.binDir cfg.toolchain.extraEnv)) with
      | error e =>
        rw [mapped] at built
        cases built
      | ok ys =>
        have built := exists_ok_of_map_m_eq_ok mapped t ((chosenIff t).mpr ⟨inTracks, chosen⟩)
        exact (build_track_ok_iff (wf.tracks t inTracks) toolchainBinds).mp built
    · intro buildable
      obtain ⟨ys, mapped, -⟩ := map_m_ok_of_forall
          (f := buildTrack (source.getD cfg.source) (toolchainEnv cfg.toolchain.binDir cfg.toolchain.extraEnv))
          (g := fun _ => ()) (h := fun _ => ()) fun t mem => by
        obtain ⟨inTracks, chosen⟩ := (chosenIff t).mp mem
        obtain ⟨track, built⟩ := (build_track_ok_iff (wf.tracks t inTracks) toolchainBinds).mpr
          (buildable t inTracks chosen)
        exact ⟨track, built, rfl⟩
      exact ⟨ys, by rw [mapped]; rfl⟩
  · obtain ⟨t, found⟩ := RunConfig.track?_of_mem (named name (Hash.mem_of_mem_set_order mem))
    rw [found]
    rfl

/-- Building the tracks of an accepted configuration, all or some of them by name, fails
only on what reading does not check: a slash in the name of a chosen track or of one of its
stages, or a command that does not split into words. -/
theorem build_tracks_ok_iff_buildable {env : Vars} {v : Value} {cfg : RunConfig} {warnings : List String}
    (accepted : RunConfig.ofValue env v = .ok (cfg, warnings)) (source : Option SourceSettings)
    {only : List String} (named : ∀ name ∈ only, name ∈ cfg.tracks.map (·.name)) :
    (∃ tracks, buildTracks cfg source only = .ok tracks) ↔
      ∀ t ∈ cfg.tracks, (only = [] ∨ t.name ∈ only) → t.Buildable :=
  build_tracks_ok_iff (RunConfig.of_value_wellformed accepted) source named

theorem exists_ok_of_to_option_map {ε α β : Type} {x : Except ε α} {g : α → β} {y : β}
    (mapped : x.toOption.map g = some y) : ∃ a, x = .ok a ∧ g a = y := by
  cases x with
  | error e => cases mapped
  | ok a => exact ⟨a, rfl, Option.some.inj mapped⟩

def slashedTrackConfig : Value :=
  .object [("workers", .object [("nodes", .list [.object [("name", .str "w1"), ("labels", .list [.str "linux"])]])]),
    ("tracks", .list [.object [("name", .str "a/b"), ("node", .str "linux"),
      ("stages", .list [.object [("name", .str "s"), ("actions", .list [.str "true"])]])]])]

theorem build_tracks_ok_iff_buildable_slashed :
    ∃ cfg warnings, RunConfig.ofValue [] slashedTrackConfig = .ok (cfg, warnings) ∧
      ((∃ tracks, buildTracks cfg none [] = .ok tracks) ↔
        ∀ t ∈ cfg.tracks, ([] = ([] : List String) ∨ t.name ∈ ([] : List String)) → t.Buildable) := by
  have read : (RunConfig.ofValue [] slashedTrackConfig).toOption.map (fun _ => ()) = some () := by
    decide +kernel
  obtain ⟨⟨cfg, warnings⟩, accepted, -⟩ := exists_ok_of_to_option_map read
  exact ⟨cfg, warnings, accepted, build_tracks_ok_iff_buildable accepted none (by simp)⟩

/-- A configuration that reading accepts, whose plan is refused for the slash in its track's
name. -/
theorem slashed_track_name_stops_plan :
    ∃ cfg warnings, RunConfig.ofValue [] slashedTrackConfig = .ok (cfg, warnings) ∧
      buildTracks cfg none [] = .error (DefinitionError.nameWithSlash "Track name" "a/b").toFault := by
  have evaluated : (RunConfig.ofValue [] slashedTrackConfig).toOption.map
      (fun read => ((buildTracks read.1 none []).mapError fun f => (f.kind, f.message)).map fun _ => ()) =
      some (.error ((DefinitionError.nameWithSlash "Track name" "a/b").toFault.kind,
        (DefinitionError.nameWithSlash "Track name" "a/b").toFault.message)) := by
    decide +kernel
  obtain ⟨⟨cfg, warnings⟩, accepted, refused⟩ := exists_ok_of_to_option_map evaluated
  obtain ⟨e, failed, same⟩ := exists_error_of_fault id refused
  exact ⟨cfg, warnings, accepted, failed.trans (congrArg _ same)⟩

end Conveyor.Pipeline

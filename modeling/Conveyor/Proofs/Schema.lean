import Mathlib
import Conveyor.Config.Run
import Conveyor.Proofs.ListReaders

/-!
# The schema of a run configuration

The fields each reader of a run configuration reads, as `Field` lists, and the proof that
each reader meets its `Spec`: the stage, the track and the worker readers, the four
sections, and `readSettings`, which reads the whole mapping. The checks made between
reads (distinct names, the checkout stage, the nodes of tracks) read no key, so a reader
with checks has the same fields as one without.
-/

namespace Conveyor.Config

set_option autoImplicit false

open Conveyor.Env Conveyor.Text

def stageFields : List Field :=
  [.value "name", .value "actions", .value "toolchain_env", .value "env"]

def trackFields : List Field :=
  [.value "name", .value "checkout", .items "stages" stageFields, .value "node", .value "env"]

def workerFields : List Field :=
  [.value "name", .value "labels"]

def runFields : List Field :=
  [.value "log_path", .value "report_path", .value "run_index_path", .value "kill_grace_seconds"]

def sourceFields : List Field :=
  [.value "repository", .value "revision"]

def toolchainFields : List Field :=
  [.value "bin_dir", .value "extra_env"]

def workersFields : List Field :=
  [.items "nodes" workerFields, .value "workspace_root"]

def settingsFields : List Field :=
  [.child "run" runFields, .child "source" sourceFields, .child "toolchain" toolchainFields,
    .child "workers" workersFields, .items "tracks" trackFields]

theorem spec_read_stage : Spec stageFields readStage := by
  refine Spec.bind (spec_read_text (by decide) rfl (.inl rfl)) (fun name => ?_) (by decide)
  refine Spec.bind (spec_read_texts (by decide) rfl (.inl rfl) false) (fun actions => ?_) (by decide)
  refine Spec.bind (spec_read_flag (by decide) rfl true) (fun toolchainEnv => ?_) (by decide)
  exact Spec.bind (spec_read_bindings (by decide) rfl) (fun env => spec_pure _) (by decide)

theorem spec_read_track : Spec trackFields readTrack := by
  refine Spec.bind (spec_read_text (by decide) rfl (.inl rfl)) (fun name => ?_) (by decide)
  refine Spec.bind (spec_read_flag (by decide) rfl true) (fun checkout => ?_) (by decide)
  refine Spec.bind (spec_read_items (by decide) rfl spec_read_stage (by decide)) (fun stages => ?_)
    (by decide)
  refine Spec.bind spec_section_path (fun path => ?_) (by decide)
  dsimp only
  refine Spec.guard _ (Spec.guard _ ?_)
  refine Spec.bind (spec_read_text (by decide) rfl (.inl rfl)) (fun node => ?_) (by decide)
  exact Spec.bind (spec_read_bindings (by decide) rfl) (fun env => spec_pure _) (by decide)

theorem spec_read_worker : Spec workerFields readWorker := by
  refine Spec.bind (spec_read_text (by decide) rfl (.inl rfl)) (fun name => ?_) (by decide)
  exact Spec.bind (spec_read_texts (by decide) rfl (.inl rfl) false) (fun labels => spec_pure _)
    (by decide)

theorem spec_read_run_settings (env : Vars) : Spec runFields (readRunSettings env) := by
  refine Spec.bind (spec_read_text (by decide) rfl (.inr (.inr ⟨_, rfl⟩))) (fun logPath => ?_)
    (by decide)
  refine Spec.bind (spec_read_text (by decide) rfl (.inr (.inr ⟨_, rfl⟩))) (fun reportPath => ?_)
    (by decide)
  refine Spec.bind (spec_read_text (by decide) rfl (.inr (.inr ⟨_, rfl⟩))) (fun runIndexPath => ?_)
    (by decide)
  exact Spec.bind (spec_read_number (by decide) rfl _ _) (fun killGraceSeconds => spec_pure _)
    (by decide)

theorem spec_read_source_settings : Spec sourceFields readSourceSettings := by
  refine Spec.bind (spec_read_opt_text (by decide) rfl (.inr (.inl rfl))) (fun repository => ?_)
    (by decide)
  exact Spec.bind (spec_read_text (by decide) rfl (.inr (.inr ⟨_, rfl⟩))) (fun revision => spec_pure _)
    (by decide)

theorem spec_read_toolchain_settings : Spec toolchainFields readToolchainSettings := by
  refine Spec.bind (spec_read_text (by decide) rfl (.inr (.inr ⟨_, rfl⟩))) (fun binDir => ?_)
    (by decide)
  exact Spec.bind (spec_read_bindings (by decide) rfl) (fun extraEnv => spec_pure _) (by decide)

theorem spec_read_workers_settings (env : Vars) : Spec workersFields (readWorkersSettings env) := by
  refine Spec.bind (spec_read_items (by decide) rfl spec_read_worker (by decide)) (fun nodes => ?_)
    (by decide)
  dsimp only
  refine Spec.guard _ ?_
  exact Spec.bind (spec_read_text (by decide) rfl (.inr (.inr ⟨_, rfl⟩))) (fun root => spec_pure _)
    (by decide)

theorem spec_read_settings (env : Vars) : Spec settingsFields (readSettings env) := by
  refine Spec.bind (spec_read_nested (by decide) rfl _ (spec_read_run_settings env) (by decide)
    List.mem_cons_self) (fun run => ?_) (by decide)
  refine Spec.bind (spec_read_nested (by decide) rfl _ spec_read_source_settings (by decide)
    List.mem_cons_self) (fun source => ?_) (by decide)
  refine Spec.bind (spec_read_nested (by decide) rfl _ spec_read_toolchain_settings (by decide)
    List.mem_cons_self) (fun toolchain => ?_) (by decide)
  refine Spec.bind (spec_read_nested (by decide) rfl _ (spec_read_workers_settings env) (by decide)
    (show Field.value "workspace_root" ∈ workersFields by simp [workersFields])) (fun workers => ?_)
    (by decide)
  refine Spec.bind (spec_read_items (by decide) rfl spec_read_track (by decide)) (fun read => ?_)
    (by decide)
  dsimp only
  refine Spec.guard _ ?_
  split
  · exact Spec.bind (spec_throw _) (fun _ => spec_pure _) (by decide)
  · exact spec_pure _

end Conveyor.Config

import Conveyor.Config.Section
import Conveyor.Env.Binding
import Conveyor.Text.Basic

/-!
# Run configuration

A run configuration is a mapping with five sections, read in this order:

* `run`: where logs, reports and the run index go (each path with its home
  directory and variables expanded), and how long a stopped command may take to
  exit;
* `source`: the repository to fetch and the revision to check out;
* `toolchain`: the directory of toolchain binaries and extra bindings for stages
  that use the toolchain;
* `workers` (required): the workers by name and labels, and the root of their
  workspaces;
* `tracks` (required): each with a name, whether it starts with a checkout, its
  stages, its node selector and its bindings.

Every key is read once, through `Section`, so a key nobody reads is refused at
the end, and the values read make up the effective configuration. Names of
workers, of tracks and of the stages of a track must be distinct; a track with
a checkout must not declare a stage of the checkout's name; every track's node
must name a worker or one of its labels. A track without a checkout is allowed,
with a warning.
-/

namespace Conveyor.Config

set_option autoImplicit false

open Conveyor.Env Conveyor.Text

def checkoutStageName : String := "checkout"

def defaultBinDir : String := "$HOME/.cargo/bin"

/-- Where a run writes its records, and how long a stopped command may take to exit. -/
structure RunSettings where
  logPath : String
  reportPath : String
  runIndexPath : String
  killGraceSeconds : Float := 10.0
  deriving Inhabited

/-- Where the source comes from: a repository to fetch, if any, and a revision. -/
structure SourceSettings where
  repository : Option String
  revision : String
  deriving Inhabited

/-- The toolchain's binary directory and extra bindings. -/
structure ToolchainSettings where
  binDir : String
  extraEnv : List String := []
  deriving Inhabited

/-- One configured worker. -/
structure WorkerSettings where
  name : String
  labels : List String
  deriving Inhabited

/-- The workers and the root of their workspaces. -/
structure WorkersSettings where
  workspaceRoot : String
  nodes : List WorkerSettings
  deriving Inhabited

/-- One configured stage: its commands, whether the toolchain bindings apply, and its
own bindings. -/
structure StageSettings where
  name : String
  actions : List String
  toolchainEnv : Bool := true
  env : List String := []
  deriving Inhabited

/-- One configured track. -/
structure TrackSettings where
  name : String
  node : String
  stages : List StageSettings
  checkout : Bool := true
  env : List String := []
  deriving Inhabited

/-- A whole run configuration, with the effective values it was read from. -/
structure RunConfig where
  run : RunSettings
  source : SourceSettings
  toolchain : ToolchainSettings
  workers : WorkersSettings
  tracks : List TrackSettings
  effective : List (String × Value) := []
  deriving Inhabited

/-- Why a run configuration is refused. -/
inductive SettingsError where
  | notMapping (kind : String)
  | reading (e : ConfigError)
  | binding (path key : String) (index : Nat) (e : BindingError)
  | duplicateStages (path : String) (names : List String)
  | checkoutDeclared (path : String)
  | duplicateWorkers (names : List String)
  | duplicateTracks (names : List String)
  | unmatchedNode (index : Nat) (node : String)
  | unknownTrack (name : String) (available : List String)

def SettingsError.message : SettingsError → String
  | .notMapping kind => "Config must be a mapping (type=" ++ kind ++ ")"
  | .reading e => e.message
  | .binding path key index e =>
    "Invalid binding at " ++ path ++ "." ++ key ++ "[" ++ toString index ++ "]: " ++ e.message
  | .duplicateStages path names =>
    "Duplicate stage name(s) under " ++ path ++ ".stages: " ++ ", ".intercalate names
  | .checkoutDeclared path =>
    path ++ ".stages must not declare " ++ quote checkoutStageName ++ " when checkout is enabled"
  | .duplicateWorkers names =>
    "Duplicate worker name(s) under workers.nodes: " ++ ", ".intercalate names
  | .duplicateTracks names => "Duplicate track name(s) under tracks: " ++ ", ".intercalate names
  | .unmatchedNode index node =>
    "tracks[" ++ toString index ++ "].node " ++ quote node ++ " matches no worker under workers.nodes"
  | .unknownTrack name available => "Unknown track: " ++ name ++ " (available: " ++ listOrNone available ++ ")"

def SettingsError.toFault (e : SettingsError) : Fault :=
  match e with
  | .notMapping _ => .type e.message
  | .reading r => r.toFault
  | _ => .value e.message

abbrev Reading := StateT Section (Except SettingsError)

def readWith {α : Type} (f : Section → Read α) : Reading α := fun s =>
  match f s with
  | (.ok a, s2) => .ok (a, s2)
  | (.error e, _) => .error (.reading e)

def sectionPath : Reading String := fun s => .ok (s.path, s)

def readText (key : String) (default : Option Value) : Reading String := do
  let v ← readWith (·.getText (.str key) default false none)
  pure (v.getD "None")

def readOptText (key : String) (default : Option Value) : Reading (Option String) :=
  readWith (·.getText (.str key) default false none)

def readFlag (key : String) (default : Bool) : Reading Bool :=
  readWith (·.getBool (.str key) (some (.bool default)))

def readTexts (key : String) (default : Option Value) (allowEmpty : Bool) : Reading (List String) :=
  readWith (·.getTexts (.str key) default allowEmpty)

def readNumber (key : String) (default : Float) (minimum : Option Float) : Reading Float :=
  readWith (·.getFloat (.str key) (some (.float default)) (minimum.map .float))

def readNested {α : Type} (key : String) (default : Option Value) (m : Reading α) : Reading α := do
  let k ← readWith (·.openChild (.str key) default)
  fun s =>
    let child := (s.children.lookup k).getD (Section.ofFields [] (joinPath s.path k))
    match m child with
    | .ok (a, c2) => .ok (a, s.withChildren (assocSet s.children k c2))
    | .error e => .error e

def readEach {α : Type} (m : Reading α) : List Section → Except SettingsError (List α × List Section)
  | [] => .ok ([], [])
  | c :: rest => do
    let (a, c2) ← m c
    let (as, cs) ← readEach m rest
    pure (a :: as, c2 :: cs)

def readItems {α : Type} (key : String) (m : Reading α) : Reading (List α) := do
  let _ ← readWith (·.sectionList (.str key) none false)
  fun s =>
    match readEach m ((s.items.lookup key).getD []) with
    | .ok (as, cs) => .ok (as, s.withItems (assocSet s.items key cs))
    | .error e => .error e

def firstBadBinding : Nat → List String → Option (Nat × BindingError)
  | _, [] => none
  | i, t :: rest =>
    match Binding.parse (.str t) with
    | .error e => some (i, e)
    | .ok _ => firstBadBinding (i + 1) rest

def readBindings (key : String) : Reading (List String) := do
  let items ← readTexts key (some (.list [])) true
  let path ← sectionPath
  match firstBadBinding 0 items with
  | some (i, e) => throw (.binding path key i e)
  | none => pure items

def readStage : Reading StageSettings := do
  let name ← readText "name" none
  let actions ← readTexts "actions" none false
  let toolchainEnv ← readFlag "toolchain_env" true
  let env ← readBindings "env"
  pure { name, actions, toolchainEnv, env }

def uncleanedWarning (path : String) : String :=
  path ++ ".checkout is false: stages will run on an uncleaned tree"

def readTrack : Reading (TrackSettings × Option String) := do
  let name ← readText "name" none
  let checkout ← readFlag "checkout" true
  let stages ← readItems "stages" readStage
  let path ← sectionPath
  let names := stages.map (·.name)
  let dups := duplicates names
  if !dups.isEmpty then throw (.duplicateStages path dups)
  if checkout && names.contains checkoutStageName then throw (.checkoutDeclared path)
  let warning := if checkout then none else some (uncleanedWarning path)
  let node ← readText "node" none
  let env ← readBindings "env"
  pure ({ name, node, stages, checkout, env }, warning)

def readWorker : Reading WorkerSettings := do
  let name ← readText "name" none
  let labels ← readTexts "labels" none false
  pure { name, labels }

def WorkerSettings.isPickedBy (w : WorkerSettings) (node : String) : Bool :=
  node == w.name || w.labels.contains node

def firstUnmatched (nodes : List WorkerSettings) : Nat → List TrackSettings → Option (Nat × String)
  | _, [] => none
  | i, t :: rest =>
    if nodes.any (·.isPickedBy t.node) then firstUnmatched nodes (i + 1) rest
    else some (i, t.node)

/-- Reads the `run` section: the paths of the logs, the reports and the run index, each
expanded under the given environment, and the grace period of a stopped command. -/
def readRunSettings (env : Vars) : Reading RunSettings := do
  let logPath ← readText "log_path" (some (.str "logs"))
  let reportPath ← readText "report_path" (some (.str "reports"))
  let runIndexPath ← readText "run_index_path" (some (.str "reports/runs_index.jsonl"))
  let killGraceSeconds ← readNumber "kill_grace_seconds" 10.0 (some 0.0)
  let settings : RunSettings :=
    { logPath := expandPath env logPath, reportPath := expandPath env reportPath,
      runIndexPath := expandPath env runIndexPath, killGraceSeconds }
  pure settings

def readSourceSettings : Reading SourceSettings := do
  let repository ← readOptText "repository" (some .null)
  let revision ← readText "revision" (some (.str "HEAD"))
  pure { repository, revision }

def readToolchainSettings : Reading ToolchainSettings := do
  let binDir ← readText "bin_dir" (some (.str defaultBinDir))
  let extraEnv ← readBindings "extra_env"
  pure { binDir, extraEnv }

/-- Reads the `workers` section: the workers, whose names must be distinct, and the root
of their workspaces, expanded under the given environment. -/
def readWorkersSettings (env : Vars) : Reading WorkersSettings := do
  let nodes ← readItems "nodes" readWorker
  let dups := duplicates (nodes.map (·.name))
  if !dups.isEmpty then throw (.duplicateWorkers dups)
  let root ← readText "workspace_root" (some (.str "workspace"))
  pure { workspaceRoot := expandPath env root, nodes }

/-- Reads the five sections of a configuration and checks them against each other: the
names of tracks must be distinct and every track's node must pick a worker. Each track
comes with its warning, if any. -/
def readSettings (env : Vars) :
    Reading (RunSettings × SourceSettings × ToolchainSettings × WorkersSettings ×
      List (TrackSettings × Option String)) := do
  let run ← readNested "run" (some (.object [])) (readRunSettings env)
  let source ← readNested "source" (some (.object [])) readSourceSettings
  let toolchain ← readNested "toolchain" (some (.object [])) readToolchainSettings
  let workers ← readNested "workers" none (readWorkersSettings env)
  let read ← readItems "tracks" readTrack
  let tracks := read.map (·.1)
  let dups := duplicates (tracks.map (·.name))
  if !dups.isEmpty then throw (.duplicateTracks dups)
  match firstUnmatched workers.nodes 0 tracks with
  | some (i, node) => throw (.unmatchedNode i node)
  | none => pure ()
  pure (run, source, toolchain, workers, read)

/-- Reads a whole configuration under the given environment, with its warnings: the
sections, then the check that every key was read. -/
def readRunConfig (env : Vars) : Reading (RunConfig × List String) := do
  let (run, source, toolchain, workers, read) ← readSettings env
  let root ← get
  match root.assertConsumed with
  | .error e => throw (.reading e)
  | .ok () => pure ()
  let cfg : RunConfig :=
    { run, source, toolchain, workers, tracks := read.map (·.1), effective := root.effectiveValues }
  pure (cfg, read.filterMap (·.2))

/-- Reads a run configuration from a value under the given environment: the
configuration and its warnings, or the first refusal. -/
def RunConfig.ofValue (env : Vars) (cfg : Value) : Except SettingsError (RunConfig × List String) :=
  match cfg.entries? with
  | some entries => ((readRunConfig env).run (Section.ofEntries entries "")).map (·.1)
  | none => .error (.notMapping cfg.kindName)

def RunConfig.track? (cfg : RunConfig) (name : String) : Except SettingsError TrackSettings :=
  match cfg.tracks.find? (·.name == name) with
  | some t => .ok t
  | none => .error (.unknownTrack name (cfg.tracks.map (·.name)))

def RunSettings.toValue (r : RunSettings) : Value :=
  .object [("log_path", .str r.logPath), ("report_path", .str r.reportPath),
    ("run_index_path", .str r.runIndexPath), ("kill_grace_seconds", .float r.killGraceSeconds)]

def SourceSettings.toValue (s : SourceSettings) : Value :=
  .object [("repository", Value.ofOption s.repository), ("revision", .str s.revision)]

def ToolchainSettings.toValue (t : ToolchainSettings) : Value :=
  .object [("bin_dir", .str t.binDir), ("extra_env", Value.strs t.extraEnv)]

def WorkersSettings.toValue (w : WorkersSettings) : Value :=
  .object [("workspace_root", .str w.workspaceRoot),
    ("nodes", .list (w.nodes.map fun n => .object [("name", .str n.name), ("labels", Value.strs n.labels)]))]

def StageSettings.toValue (s : StageSettings) : Value :=
  .object [("name", .str s.name), ("actions", Value.strs s.actions),
    ("toolchain_env", .bool s.toolchainEnv), ("env", Value.strs s.env)]

def TrackSettings.toValue (t : TrackSettings) : Value :=
  .object [("name", .str t.name), ("node", .str t.node),
    ("stages", .list (t.stages.map StageSettings.toValue)), ("checkout", .bool t.checkout),
    ("env", Value.strs t.env)]

end Conveyor.Config

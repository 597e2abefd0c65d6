import Conveyor.Fault
import Conveyor.Text.Basic
import Conveyor.Config.Merge
import Conveyor.Env.Binding
import Conveyor.Yaml.Document

/-!
# Loading the configuration

## A tree of files

The files a program sees below one root directory: each file by its path relative
to the root, with its text. A directory exists when it is the root or holds a
file somewhere below it. Paths are written from the root (`<root>/a/b`) or from
the current directory, a directory below the root; a path is normalised the usual
way, dropping empty and `.` parts and letting `..` go up one part, never above the
root. An absolute path that does not start at the root lies outside the tree: it is
normalised from the top directory, and nothing is there but the top directory itself.

The repository root is found by walking up from a starting path (from its
directory when it names a file) to the first directory that holds a marker: a
`pyproject.toml` or a `.git`, file or directory.
-/

namespace Conveyor.Config

set_option autoImplicit false

/-- Files below a root, by path from the root, with their texts, and the current
directory as parts below the root; a relative path is taken from it. -/
structure FileTree where
  root : String
  files : List (String × String) := []
  current : List String := []
  deriving Inhabited

def normalParts (parts : List String) : List String :=
  (parts.foldl (fun acc p =>
    if p.isEmpty || p == "." then acc
    else if p == ".." then acc.dropLast
    else acc ++ [p]) [])

/-- The normalised parts of a path below the root; a path that does not start at the
root is taken relative to the current directory. -/
def FileTree.partsOf (t : FileTree) (path : String) : List String :=
  if path == t.root then []
  else if path.startsWith (t.root ++ "/") then
    normalParts ((path.drop (t.root.length + 1)).toString.splitOn "/")
  else normalParts (t.current ++ path.splitOn "/")

def FileTree.outside? (t : FileTree) (path : String) : Option (List String) :=
  if path == t.root || path.startsWith (t.root ++ "/") || !path.startsWith "/" then none
  else some (normalParts (path.splitOn "/"))

def FileTree.pathOf (t : FileTree) (parts : List String) : String :=
  if parts.isEmpty then t.root else t.root ++ "/" ++ "/".intercalate parts

def FileTree.normalize (t : FileTree) (path : String) : String :=
  match t.outside? path with
  | some parts => "/" ++ "/".intercalate parts
  | none => t.pathOf (t.partsOf path)

def FileTree.isFile (t : FileTree) (path : String) : Bool :=
  let rel := "/".intercalate (t.partsOf path)
  (t.outside? path).isNone &&
    t.files.any fun f => "/".intercalate (normalParts (f.1.splitOn "/")) == rel

def FileTree.currentPath (t : FileTree) : String :=
  t.pathOf (normalParts t.current)

def FileTree.isDirectory (t : FileTree) (path : String) : Bool :=
  let parts := t.partsOf path
  match t.outside? path with
  | some top => top.isEmpty
  | none => parts.isEmpty || t.files.any fun f =>
    let fp := normalParts (f.1.splitOn "/")
    fp.length > parts.length && fp.take parts.length == parts

def FileTree.exists (t : FileTree) (path : String) : Bool :=
  t.isFile path || t.isDirectory path

def FileTree.read (t : FileTree) (path : String) : Except Fault String :=
  let rel := "/".intercalate (t.partsOf path)
  let found := if (t.outside? path).isSome then none
    else t.files.find? (fun f => "/".intercalate (normalParts (f.1.splitOn "/")) == rel)
  match found with
  | some (_, text) => .ok text
  | none =>
    if t.isDirectory path then .error ⟨.isADirectory, "[Errno 21] Is a directory: " ++ Text.quote path⟩
    else .error ⟨.fileNotFound, "[Errno 2] No such file or directory: " ++ Text.quote path⟩

def unifyLineEnds : List Char → List Char
  | '\r' :: '\n' :: rest => '\n' :: unifyLineEnds rest
  | '\r' :: rest => '\n' :: unifyLineEnds rest
  | c :: rest => c :: unifyLineEnds rest
  | [] => []

def FileTree.readText (t : FileTree) (path : String) : Except Fault String :=
  (t.read path).map fun text => String.ofList (unifyLineEnds text.toList)

def repoMarkers : List String := ["pyproject.toml", ".git"]

def FileTree.findRepoRoot (t : FileTree) (start : String) : Except Fault String :=
  let parts := t.partsOf start
  let origin := if t.isFile start then parts.dropLast else parts
  let candidates := (List.range (origin.length + 1)).reverse.map fun n => origin.take n
  match candidates.find? (fun c => repoMarkers.any fun m => t.exists (t.pathOf (c ++ [m]))) with
  | some c => .ok (t.pathOf c)
  | none => .error ⟨.fileNotFound, "Cannot locate repo root: searched from " ++ t.pathOf origin ++
      " for " ++ ", ".intercalate repoMarkers⟩

end Conveyor.Config

/-!
## The shipped configuration

The configuration that comes with the program: two tracks, a native Linux build
and a cross-compiled Windows build, on two Linux workers. It is the base
configuration of a checkout that has not changed it.
-/

namespace Conveyor.Config

set_option autoImplicit false

def shippedConfigLines : List String := [
  "# Two-track CI pipeline: native Linux build + cross-compiled Win64 build.",
  "# Put machine-specific overrides in config/config.local.yaml (deep-merged on top),",
  "# or point BUILD_PIPELINE_CONFIG at a complete replacement file.",
  "",
  "run:",
  "  log_path: logs",
  "  report_path: reports",
  "  run_index_path: reports/runs_index.jsonl",
  "  kill_grace_seconds: 10",
  "",
  "source:",
  "  # Defaults to the repository the pipeline is launched from.",
  "  repository: null",
  "  revision: HEAD",
  "",
  "toolchain:",
  "  bin_dir: $HOME/.cargo/bin",
  "  extra_env: []",
  "",
  "workers:",
  "  workspace_root: workspace",
  "  nodes:",
  "    - name: linux-1",
  "      labels: [linux]",
  "    - name: linux-2",
  "      labels: [linux]",
  "",
  "tracks:",
  "  - name: linux",
  "    node: linux",
  "    stages:",
  "      - name: prepare",
  "        actions:",
  "          - rustup update",
  "          - rustup override add stable",
  "      - name: test",
  "        actions:",
  "          - cargo test",
  "      - name: build",
  "        actions:",
  "          - cargo build --release --target x86_64-unknown-linux-gnu",
  "",
  "  - name: win64",
  "    node: linux",
  "    stages:",
  "      - name: prepare",
  "        actions:",
  "          - rustup update",
  "          - rustup override add beta",
  "          - rustup target add x86_64-pc-windows-gnu",
  "      - name: build",
  "        actions:",
  "          - cargo build --release --target x86_64-pc-windows-gnu"
]

def shippedConfig : String :=
  String.join (shippedConfigLines.map (· ++ "\n"))

end Conveyor.Config

/-!
## Finding and loading the configuration

The configuration lives in `config/config.yaml` below the repository root, the
checked-in base; an optional `config/config.local.yaml` beside it is merged on
top for settings of one machine. An explicit path, or else the path in a chosen
environment variable, replaces both with one complete file. Each file holds a
YAML mapping, or nothing, which counts as an empty mapping.

Loading also says how the configuration was found: the mode (`explicit`, `env`,
`base` or `base+local`), the files read in merge order, the environment variable
consulted and the repository root, when one was used.
-/

namespace Conveyor.Config

set_option autoImplicit false

open Conveyor.Env

def configEnvVar : String := "BUILD_PIPELINE_CONFIG"

/-- How a configuration was found. -/
structure LoadInfo where
  mode : String
  paths : List String
  envVar : Option String
  repoRoot : Option String
  deriving Inhabited

def LoadInfo.toValue (i : LoadInfo) : Value :=
  .object [("mode", .str i.mode), ("paths", Value.strs i.paths),
    ("env_var", Value.ofOption i.envVar), ("repo_root", Value.ofOption i.repoRoot)]

/-- Reads a configuration file: a YAML mapping, or nothing for an empty one. A problem
of the YAML text is reported with the file's name; a value that a conversion refuses
is reported as that conversion reports it. -/
def FileTree.readMapping (t : FileTree) (path : String) : Except Fault Value := do
  let text ← t.readText path
  let refused := fun (e : Yaml.LoadError) =>
    (e.conversionFault?).getD (.value ("Invalid YAML in " ++ path ++ ": " ++ e.render path))
  match Yaml.readDocument text with
  | .error e => throw (refused e)
  | .ok none => pure (.object [])
  | .ok (some g) =>
    match g.rootKind with
    | .nothing => pure (.object [])
    | .other => throw (.value ("Config file must contain a YAML mapping: " ++ path))
    | .mapping =>
      match g.value with
      | .ok v => pure (if v.isMapping then v else .object [])
      | .error e => throw (refused e)

/-- The single configuration file asked for, if any: the explicit path, or else the
value of the environment variable; blank means none. The path has its home directory
and variables expanded and is normalised. -/
def FileTree.explicitPath (t : FileTree) (env : Vars) (configPath envVar : Option String) :
    Option String :=
  let raw := match configPath, envVar with
    | some p, _ => p
    | none, some name => (env.get? name).getD ""
    | none, none => ""
  let text := Text.strip raw
  if text.isEmpty then none else some (t.normalize (expandPath env text))

def FileTree.loadConfig (t : FileTree) (env : Vars) (configPath envVar : Option String)
    (startDir : String) : Except Fault (Value × LoadInfo) := do
  match t.explicitPath env configPath envVar with
  | some single =>
    let cfg ← t.readMapping single
    let mode := if configPath.isSome then "explicit" else "env"
    pure (cfg, { mode, paths := [single], envVar, repoRoot := none })
  | none =>
    let repoRoot ← t.findRepoRoot startDir
    let basePath := repoRoot ++ "/config/config.yaml"
    let localPath := repoRoot ++ "/config/config.local.yaml"
    if !t.isFile basePath then throw ⟨.fileNotFound, "Missing base config file: " ++ basePath⟩
    let base ← t.readMapping basePath
    if t.isFile localPath then
      let overlay ← t.readMapping localPath
      let merged ← (mergeAt "" base overlay).mapError MergeError.toFault
      let info : LoadInfo :=
        { mode := "base+local", paths := [basePath, localPath], envVar, repoRoot := some repoRoot }
      pure (merged, info)
    else
      pure (base, { mode := "base", paths := [basePath], envVar, repoRoot := some repoRoot })

end Conveyor.Config

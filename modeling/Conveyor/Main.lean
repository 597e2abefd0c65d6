import Conveyor.Cli.Session

/-!
# The program

Reads the arguments, the environment and the files a command needs (repository
markers from the current directory up, the configuration files and the run
index), runs the command, and prints what it printed. A failure is reported on
the error stream with status 1.
-/

open Conveyor Conveyor.Cli Conveyor.Config Conveyor.Env

def readText? (path : String) : IO (Option String) := do
  try
    let text ← IO.FS.readFile path
    pure (some text)
  catch _ => pure none

/-- Whether something is at a path: a file that reads, or anything that fails to read for
a reason other than being absent. -/
def present (path : String) : IO Bool := do
  try
    let _ ← IO.FS.readFile path
    pure true
  catch e =>
    match e with
    | .noFileOrDirectory _ _ _ => pure false
    | _ => pure true

def withFile (tree : FileTree) (path : String) : IO FileTree := do
  let parts := tree.partsOf path
  match ← readText? (tree.pathOf parts) with
  | some text => pure { tree with files := tree.files ++ [("/".intercalate parts, text)] }
  | none => pure tree

def gather (env : Vars) (current : List String) (inv : Invocation) : IO FileTree := do
  let mut tree : FileTree := { root := "", current }
  for place in markerCandidates current do
    if ← present (tree.pathOf place) then
      tree := { tree with files := tree.files ++ [("/".intercalate place, "")] }
  let configPath := inv.configPath.map Given.path
  if let some path := tree.explicitPath env configPath (some configEnvVar) then
    tree ← withFile tree path
  if let .ok repo := tree.findRepoRoot tree.currentPath then
    tree ← withFile tree (repo ++ "/config/config.yaml")
    tree ← withFile tree (repo ++ "/config/config.local.yaml")
  if let some index := indexPathOf tree env configPath then
    tree ← withFile tree index
  pure tree

def main (args : List String) : IO UInt32 := do
  let env := match ← readText? "/proc/self/environ" with
    | some block => Vars.ofBlock block
    | none => []
  let current := ((← IO.currentDir).toString.splitOn "/").filter (!·.isEmpty)
  let tree ← match parse (layoutWidth (env.get? "COLUMNS")) args with
    | .ok inv => gather env current inv
    | .error _ => pure { root := "", current }
  let session := execute tree env args
  IO.print session.stdout
  match session.ending with
  | .exit code => pure code.toUInt32
  | .fault f =>
    IO.eprintln (f.kind.name ++ ": " ++ f.message)
    pure 1
  | .stop s =>
    IO.eprint s.stderr
    pure s.code.toUInt32
  | .launch _ _ =>
    IO.eprintln "build_pipeline run: this build has no process launcher; use --dry-run"
    pure 1

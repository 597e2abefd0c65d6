import Conveyor.Config.Run
import Conveyor.Pipeline.Model
import Conveyor.Hash.Table

/-!
# From a run configuration to tracks

Each configured track becomes a track: first, unless disabled, a checkout stage
that leaves the workspace at the requested revision with no untracked or ignored
files, then the configured stages. A configured command becomes an action named
by its place in the stage, written with two digits at least, and the first three
words of the command with their dashes trimmed and slashes turned into
underscores (`01_cargo_test`). A stage that uses the toolchain runs with the
toolchain's bindings before its own; the toolchain's first binding puts its
binary directory in front of `PATH`.

A plan can be restricted to some tracks by name, keeping the configured order; a
name that is not configured is refused.
-/

namespace Conveyor.Pipeline

set_option autoImplicit false

open Conveyor.Config Conveyor.Text

/-- The bindings of the toolchain: its binary directory in front of `PATH`, then the
extra bindings. -/
def toolchainEnv (binDir : String) (extra : List String) : List String :=
  ("PATH+RUST=" ++ binDir) :: extra

def padIndex (i : Int) : String :=
  let digits := toString i.natAbs
  let sign := if i < 0 then "-" else ""
  sign ++ String.ofList (List.replicate (2 - (sign.length + digits.length)) '0') ++ digits

/-- The name part taken from a command: its first three words, dashes trimmed from
their ends and slashes made underscores, joined by underscores; words of dashes only
are left out. -/
def commandSlug (command : String) : String :=
  let parts := ((words command).take 3).filterMap fun w =>
    let core := stripChar '-' w
    if core.isEmpty then none else some (core.map fun c => if c == '/' then '_' else c)
  "_".intercalate parts

def actionName (index : Int) (command : String) : String :=
  let slug := commandSlug command
  padIndex index ++ "_" ++ (if slug.isEmpty then "command" else slug)

/-- The name of the action at a place of a stage, both given as any values: the command
must be text to be cut into words, and the place a whole number to be padded. -/
def actionNameOf (index command : Value) : Except Fault String :=
  match command with
  | .str text => (Value.toWhole index).map fun i => actionName i text
  | other => .error ⟨.attributeError, Text.quote other.kindName ++ " object has no attribute 'split'"⟩

/-- The actions that check out the source: initialise a repository, fetch the
revision when a repository is given, reset hard to it, and remove every untracked
and ignored file. Each can be repeated safely. -/
def checkoutActions (source : SourceSettings) : List Action :=
  let fetch := match source.repository with
    | some repo => if repo.isEmpty then [] else
        [⟨"git_fetch", ["git", "fetch", "--force", "--quiet", repo, source.revision]⟩]
    | none => []
  let target := if fetch.isEmpty then source.revision else "FETCH_HEAD"
  [⟨"git_init", ["git", "init", "--quiet"]⟩] ++ fetch ++
    [⟨"git_reset", ["git", "reset", "--hard", "--quiet", target]⟩,
     ⟨"git_clean", ["git", "clean", "-ffdx", "--quiet"]⟩]

def checkoutStage (source : SourceSettings) : Stage :=
  { name := checkoutStageName, actions := checkoutActions source, env := [] }

def buildActions : Nat → List String → Except DefinitionError (List Action)
  | _, [] => .ok []
  | i, command :: rest => do
    let a ← Action.ofCommand command (.str (actionName i command))
    let more ← buildActions (i + 1) rest
    pure (a :: more)

def buildStage (toolchain : List String) (s : StageSettings) : Except DefinitionError Stage := do
  let actions ← buildActions 1 s.actions
  let env := if s.toolchainEnv then toolchain ++ s.env else s.env
  Stage.make (.str s.name) (.items (actions.map Entry.ok)) (Value.strs env)

def buildTrack (source : SourceSettings) (toolchain : List String) (t : TrackSettings) :
    Except DefinitionError Track := do
  let built ← t.stages.mapM (buildStage toolchain)
  let stages := (if t.checkout then [checkoutStage source] else []) ++ built
  Track.make (.str t.name) (.str t.node) (.items (stages.map Entry.ok)) (Value.strs t.env)

/-- Builds the tracks of a run: all of them, or those named, in configured order,
checking out the given source or else the configured one. -/
def buildTracks (cfg : RunConfig) (source : Option SourceSettings) (only : List String) :
    Except Fault (List Track) := do
  for name in Hash.setOrder only do
    match cfg.track? name with
    | .error e => throw e.toFault
    | .ok _ => pure ()
  let toolchain := toolchainEnv cfg.toolchain.binDir cfg.toolchain.extraEnv
  let chosen := cfg.tracks.filter fun t => only.isEmpty || only.contains t.name
  (chosen.mapM (buildTrack (source.getD cfg.source) toolchain)).mapError DefinitionError.toFault

/-- The plan of tracks as text: each track with its node, each stage with its
bindings when it has any, and each command. -/
def describeTracks (tracks : List Track) : List String :=
  tracks.flatMap fun t =>
    (t.name ++ " (node: " ++ t.selector ++ ")") :: t.stages.flatMap fun s =>
      let env := if s.env.isEmpty then "" else "  [env: " ++ ", ".intercalate s.env ++ "]"
      ("  " ++ s.name ++ env) :: s.actions.map fun a => "    $ " ++ a.command

end Conveyor.Pipeline

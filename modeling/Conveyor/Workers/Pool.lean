import Conveyor.Fault
import Conveyor.Value.Show
import Conveyor.Value.Convert
import Conveyor.Text.Basic

/-!
# Workers and the worker pool

A worker has a name, a workspace directory and a set of labels. A node selector
matches a worker when, trimmed and non-empty, it equals the worker's name or one
of its labels.

The pool hands out workers: a worker is busy from the moment it is acquired until
it is released. Acquiring takes the first idle worker, in pool order, among those
that match. When no worker matches at all the request can never be met; when all
matching workers are busy the request waits, and in this model a wait can only
end by cancellation. An acquired worker's workspace is created as a directory;
the pool keeps the paths of the directories and plain files that exist below its
root, so a file standing in the way shows up as a failure.
-/

namespace Conveyor.Workers

set_option autoImplicit false

open Conveyor.Text

/-- A worker of the pool. Its workspace is relative to the pool's root. -/
structure Worker where
  name : String
  workspace : String
  labels : List String
  deriving Inhabited

/-- A worker from a name and labels; the labels may be any value that can be walked
(items, characters of text, keys of a mapping), each shown as text, trimmed, and blank
ones dropped. The workspace is the untrimmed name below the pool's root. -/
def Worker.make (name : Value) (workspace : Value) (labels : Value) : Except Fault Worker :=
  match name, workspace with
  | .str n, .str ws =>
    if (strip n).isEmpty then .error (.type "WorkerHandle.name must be a non-empty string")
    else if (strip ws).isEmpty then .error (.type "WorkerHandle.workspace must be a non-empty string")
    else do
      let items ← labels.elements
      let labels := (items.map fun l => strip l.text).filter (!·.isEmpty)
      pure ⟨strip n, ws, labels.eraseDups⟩
  | .str n, _ =>
    if (strip n).isEmpty then .error (.type "WorkerHandle.name must be a non-empty string")
    else .error (.type "WorkerHandle.workspace must be a non-empty string")
  | _, _ => .error (.type "WorkerHandle.name must be a non-empty string")

/-- The distinct values of a list as a set holds them, the first of equal ones kept;
a value that cannot be a set member is refused. -/
def distinctMembers (items : List Value) : Except Fault (List Value) :=
  items.foldlM (fun (kept : List Value) v =>
    if !v.isHashable then .error (.type ("unhashable type: " ++ quote v.kindName))
    else if kept.any (Value.sameKey · v) then .ok kept
    else .ok (kept ++ [v])) []

/-- A worker of a pool from its specification: the name, untrimmed, is also the
workspace below the pool's root, and the labels are first gathered as a set of values,
so equal values (`1`, `1.0` and `true`) count once, as the first of them. -/
def Worker.ofSpec (name : Value) (labels : Value) : Except Fault Worker :=
  match name with
  | .str _ => do
    let members ← distinctMembers (← labels.elements)
    Worker.make name name (.list members)
  | other => .error (.type ("join() argument must be str, bytes, or os.PathLike object, not " ++
      quote other.kindName))

def Worker.matches (w : Worker) (selector : String) : Bool :=
  let key := strip selector
  !key.isEmpty && (key == w.name || w.labels.contains key)

/-- Whether a node selector given as any value picks a worker: a value that tests false
picks none, text is matched as above, and any other value has no text to trim. -/
def Worker.matchesValue (w : Worker) (selector : Value) : Except Fault Bool :=
  if selector.isFalsy then .ok false
  else match selector with
    | .str s => .ok (w.matches s)
    | other => .error ⟨.attributeError, quote other.kindName ++ " object has no attribute 'strip'"⟩

/-- A path below a root as a normalised relative path: empty and `.` parts dropped,
`..` taking back the part before it, and `.` for the root itself. -/
def relativePath (path : String) : String :=
  let parts := (path.splitOn "/").foldl (fun acc p =>
    if p.isEmpty || p == "." then acc
    else if p == ".." then (if acc.isEmpty || acc.getLast? == some ".." then acc ++ [p] else acc.dropLast)
    else acc ++ [p]) []
  if parts.isEmpty then "." else "/".intercalate parts

def Worker.relativeWorkspace (w : Worker) : String :=
  relativePath w.workspace

def Worker.sortedLabels (w : Worker) : List String :=
  sortTexts w.labels

/-- The workers and which of them are busy, with the paths that exist below the root. -/
structure Pool where
  workers : List Worker
  busy : List String := []
  directories : List String := []
  files : List String := []
  deriving Inhabited

def Pool.make (workers : List Worker) (files : List String) : Except Fault Pool :=
  let names := workers.map (·.name)
  let dups := duplicates names
  if dups.isEmpty then .ok { workers, files }
  else .error (.value ("Duplicate worker name(s): " ++ ", ".intercalate dups))

def Pool.busyNames (p : Pool) : List String :=
  sortTexts p.busy

/-- Why a worker was not handed out. -/
inductive AcquireError where
  /-- No worker of the pool matches the selector. -/
  | unavailable (message : String)
  /-- Every matching worker is busy and the wait was cancelled. -/
  | cancelled (message : String)
  /-- The workspace could not be created. -/
  | workspace (fault : Fault)
  /-- The selector cannot be matched against a worker at all. -/
  | selector (fault : Fault)

def ancestors (path : String) : List String :=
  let parts := path.splitOn "/"
  (List.range (parts.length - 1)).map fun i => "/".intercalate (parts.take (i + 1))

def Pool.makeDirectory (p : Pool) (root path : String) : Except Fault Pool :=
  let full := root ++ "/" ++ path
  if p.files.contains path then
    .error ⟨.fileExists, "[Errno 17] File exists: " ++ quote full⟩
  else if (ancestors path).any p.files.contains then
    .error ⟨.notADirectory, "[Errno 20] Not a directory: " ++ quote full⟩
  else
    .ok { p with directories := (p.directories ++ ancestors path ++ [path]).eraseDups }

/-- The workers that match a selector, in the pool's order. A selector that cannot be
matched, or that no worker matches, is refused; the refusal names the labels there are. The
selector may be any value; problems name it by its literal. -/
def Pool.candidates (workers : List Worker) (selector : Value) :
    Except AcquireError (List Worker) := do
  let matched ← match workers.mapM fun w => (w.matchesValue selector).map fun m => (w, m) with
    | .ok pairs => pure pairs
    | .error f => throw (.selector f)
  let candidates := (matched.filter (·.2)).map (·.1)
  if candidates.isEmpty then
    let labels := sortTexts (workers.flatMap (·.labels)).eraseDups
    throw (.unavailable ("No worker matches node selector " ++ selector.literal ++ " (labels: " ++
      (if labels.isEmpty then "<none>" else ", ".intercalate labels) ++ ")"))
  pure candidates

def Pool.acquire (p : Pool) (root : String) (selector : Value) :
    Except AcquireError (Worker × Pool) := do
  let candidates ← Pool.candidates p.workers selector
  match candidates.find? fun w => !p.busy.contains w.name with
  | none =>
    throw (.cancelled ("Cancelled while waiting for a " ++ selector.literal ++ " worker"))
  | some w =>
    let taken := { p with busy := p.busy ++ [w.name] }
    match taken.makeDirectory root w.workspace with
    | .ok p2 => pure (w, p2)
    | .error f => throw (.workspace f)

def Pool.release (p : Pool) (name : String) : Pool :=
  { p with busy := p.busy.filter (· != name) }

/-- Releases a worker named by any value: the name is checked as a worker's name and
trimmed, so a padded name releases the worker it names once trimmed. -/
def Pool.releaseValue (p : Pool) (name : Value) : Except Fault Pool :=
  match name with
  | .str n =>
    if (strip n).isEmpty then .error (.type "WorkerHandle.name must be a non-empty string")
    else .ok (p.release (strip n))
  | _ => .error (.type "WorkerHandle.name must be a non-empty string")

def Pool.hasDirectory (p : Pool) (path : String) : Bool :=
  p.directories.contains path

/-- A call on the pool: a request for a worker matching a selector, or the return of a
worker by name. A request that would have to wait is made with its wait already cancelled. -/
inductive Pool.Request where
  | acquire (selector : String)
  | release (name : String)

/-- What the pool answers a call. -/
inductive Pool.Answer where
  | granted (worker : Worker)
  | refused (error : AcquireError)
  | released

/-- Serves one call. A refused request leaves the pool as it was: a worker whose workspace
cannot be made is given back before the failure is passed on. -/
def Pool.serve (root : String) (p : Pool) : Pool.Request → Pool.Answer × Pool
  | .acquire selector =>
    match p.acquire root (.str selector) with
    | .ok (w, q) => (.granted w, q)
    | .error e => (.refused e, p)
  | .release name => (.released, p.release name)

def Pool.serveAll (root : String) (p : Pool) : List Pool.Request → List Pool.Answer × Pool
  | [] => ([], p)
  | call :: rest =>
    let first := p.serve root call
    let later := first.2.serveAll root rest
    (first.1 :: later.1, later.2)

theorem Pool.release_not_busy (p : Pool) (name : String) : ¬ (p.release name).busy.contains name := by
  simp [Pool.release]

end Conveyor.Workers

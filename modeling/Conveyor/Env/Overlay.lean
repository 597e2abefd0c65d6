import Conveyor.Env.Binding
import Conveyor.Value.Convert

/-!
# Environment overlays

## Environment overlays and their stack

An overlay is an ordered list of bindings. Applying it to an environment takes
the bindings in order: each value is first expanded against the environment as
it stands, then a plain key sets the variable and an additive key puts the value
in front of the variable's value, when that tests true, joined by the path
separator.

A running track keeps a stack of overlays. Entering a scope pushes one and
remembers the depth below it; leaving the scope cuts the stack back to that
depth, which also drops any scope opened inside and not yet left. The
environment an action sees is the ambient environment with every layer applied
from the bottom up. The environment of a process is never changed.
-/

namespace Conveyor.Env

set_option autoImplicit false

/-- An ordered list of bindings. -/
structure Overlay where
  bindings : List Binding
  deriving Inhabited

def Overlay.ofValues (items : List Value) : Except BindingError Overlay :=
  (items.mapM Binding.parse).map Overlay.mk

def Overlay.strings (o : Overlay) : List String :=
  o.bindings.map Binding.text

/-- Applies one binding to an environment. An additive binding puts its value in front
of a current value that tests true, joined by the separator, the current value written
as text. -/
def Binding.applyTo (separator : String) (env : Environment) (b : Binding) :
    Except Fault Environment := do
  let value ← expand env b.value
  match splitAdditive b.key with
  | (name, none) => pure (env.set name (.str value))
  | (name, some _) =>
    match env.get? name with
    | some existing =>
      if existing.isFalsy then pure (env.set name (.str value))
      else pure (env.set name (.str (value ++ separator ++ existing.text)))
    | none => pure (env.set name (.str value))

def Overlay.applyTo (separator : String) (env : Environment) (o : Overlay) :
    Except Fault Environment :=
  o.bindings.foldlM (Binding.applyTo separator) env

/-- The overlays active for one running track, bottom first. -/
structure Stack where
  separator : String
  layers : List Overlay := []
  deriving Inhabited

def Stack.push (s : Stack) (o : Overlay) : Nat × Stack :=
  (s.layers.length, { s with layers := s.layers ++ [o] })

def Stack.cut (s : Stack) (depth : Nat) : Stack :=
  { s with layers := s.layers.take depth }

def Stack.depth (s : Stack) : Nat :=
  s.layers.length

def Stack.resolve (s : Stack) (ambient : Environment) : Except Fault Environment :=
  s.layers.foldlM (Overlay.applyTo s.separator) ambient

theorem Stack.cut_push (s : Stack) (o : Overlay) :
    (s.push o).2.cut (s.push o).1 = s := by
  simp [Stack.push, Stack.cut]

end Conveyor.Env

/-!
## Scopes over a stack of overlays

A caller uses a stack of overlays through scopes. Entering a scope reads binding
texts as an overlay, pushes it and remembers the depth below it; leaving the scope
cuts the stack back to that depth, whether the block inside ended normally or with
a failure, and a failure goes on unwinding. So leaving a scope also drops every
layer pushed above it that is still there. Running a body inside a scope enters
it, runs the body and leaves it.

`Scopes` is a stack together with the depth that each scope entered so far cuts
back to. The scopes are known by *handles*, which number them in the order they
were entered; an entry whose texts do not read is refused and takes no handle.
-/

namespace Conveyor.Env

set_option autoImplicit false

/-- Runs a body inside a scope of its own and hands back its answer. The binding texts are
read as an overlay and pushed, the body runs on the stack with that layer, and the stack
is then cut back to the depth below the layer, whether the body returned or failed. Texts
that do not read are refused before anything changes. -/
def Stack.run {α : Type} (s : Stack) (items : List Value) (body : Stack → Except Fault α × Stack) :
    Except Fault α × Stack :=
  match Overlay.ofValues items with
  | .error e => (.error e.toFault, s)
  | .ok o =>
    let (depth, inner) := s.push o
    let (answer, after) := body inner
    (answer, after.cut depth)

/-- A stack used through scopes, with the depth each scope entered so far cuts back to,
by handle. -/
structure Scopes where
  stack : Stack
  marks : List Nat := []

namespace Scopes

/-- Enters a scope: the binding texts are read as an overlay and pushed, and the scope's
handle is handed back. Texts that do not read are refused and nothing changes. -/
def enter (sc : Scopes) (items : List Value) : Except BindingError (Nat × Scopes) := do
  let o ← Overlay.ofValues items
  let (depth, stack) := sc.stack.push o
  pure (sc.marks.length, { stack, marks := sc.marks ++ [depth] })

/-- Leaves the scope of a handle: the stack is cut back to the depth the scope was entered
at, and a failure in flight goes on unwinding. -/
def leave (sc : Scopes) (handle : Nat) (inFlight : Option Fault) : Except Fault Unit × Scopes :=
  let stack := sc.stack.cut (sc.marks.getD handle 0)
  (match inFlight with
    | some f => .error f
    | none => .ok (), { sc with stack })

/-- Runs a body inside a scope of its own (`Stack.run`); the scope takes no handle, since
nothing outside the run can leave it. -/
def run {α : Type} (sc : Scopes) (items : List Value) (body : Stack → Except Fault α × Stack) :
    Except Fault α × Scopes :=
  let (answer, stack) := sc.stack.run items body
  (answer, { sc with stack })

end Scopes

/-- One thing a caller does with a stack through its scopes. -/
inductive ScopeStep where
  | enter (bindings : List Value)
  | leave (handle : Nat) (inFlight : Option Fault)
  | run (bindings : List Value) (body : Stack → Except Fault Value × Stack)
  | resolve (ambient : Environment)

def Scopes.step (sc : Scopes) : ScopeStep → Scopes
  | .enter items =>
    match sc.enter items with
    | .ok (_, entered) => entered
    | .error _ => sc
  | .leave handle inFlight => (sc.leave handle inFlight).2
  | .run items body => (sc.run items body).2
  | .resolve _ => sc

end Conveyor.Env

import Mathlib
import Conveyor.Env.Overlay

/-!
# Scopes keep the stack in step with the scopes that are open

A caller enters scopes, leaves them in any order, runs bodies inside scopes of their
own and resolves the environment. `ScopeView` reads off a history alone which scopes
it leaves open: entering opens one, leaving one closes it together with every scope
entered after it and still open (those it encloses). The stack itself knows none of
this: it only remembers a depth per scope and cuts back to it.

Provided each scope is left while it is open (so at most once, and never after a scope
around it was left) and each body leaves in place the layers it is given, the stack's
layers are at every moment the overlays of the open scopes in the order they were
entered (`Scopes.Tracks`, kept by each step: `Scopes.tracks_step`). The depth of a
scope is then its place among the open ones, which is why cutting back to it closes
exactly the scopes it encloses.
-/

namespace Conveyor.Env

set_option autoImplicit false

/-- The scopes a history leaves open, by handle with their overlays, in the order they
were entered, and the number of handles handed out. -/
structure ScopeView where
  entered : Nat := 0
  opened : List (Nat × Overlay) := []

namespace ScopeView

/-- An entry whose texts read opens a scope under the next handle; leaving a scope keeps
open only the scopes entered before it; running and resolving change nothing. -/
def step (v : ScopeView) : ScopeStep → ScopeView
  | .enter items =>
    match Overlay.ofValues items with
    | .ok o => { entered := v.entered + 1, opened := v.opened ++ [(v.entered, o)] }
    | .error _ => v
  | .leave handle _ => { v with opened := v.opened.filter fun scope => scope.1 < handle }
  | .run _ _ | .resolve _ => v

/-- What the discipline of scopes allows next: leaving a scope only while it is open, and
running only a body that leaves in place the layers it is given. -/
def Allows (v : ScopeView) : ScopeStep → Prop
  | .leave handle _ => handle ∈ v.opened.map (·.1)
  | .run _ body => ∀ t : Stack, t.layers <+: (body t).2.layers
  | .enter _ | .resolve _ => True

def Keeps : ScopeView → List ScopeStep → Prop
  | _, [] => True
  | v, st :: rest => v.Allows st ∧ (v.step st).Keeps rest

end ScopeView

theorem filter_entered_before {scopes : List (Nat × Overlay)}
    (ordered : (scopes.map (·.1)).Pairwise (· < ·)) {i : Nat} (within : i < scopes.length) :
    scopes.filter (fun scope => scope.1 < scopes[i].1) = scopes.take i := by
  induction scopes generalizing i with
  | nil => cases within
  | cons first rest ih =>
    rw [List.map_cons, List.pairwise_cons] at ordered
    obtain ⟨firstLeast, restOrdered⟩ := ordered
    cases i with
    | zero =>
      have later : (rest.filter fun scope => scope.1 < first.1) = [] :=
        List.filter_eq_nil_iff.mpr fun scope mem => by
          have after := firstLeast scope.1 (List.mem_map_of_mem mem)
          simp only [decide_eq_true_eq]
          omega
      simp [later]
    | succ j =>
      have inRest : j < rest.length := by simpa using within
      have earlier : first.1 < rest[j].1 :=
        firstLeast _ (List.mem_map_of_mem (List.getElem_mem inRest))
      simp only [List.getElem_cons_succ, List.filter_cons, earlier, decide_true, if_true,
        List.take_succ_cons]
      rw [ih restOrdered inRest]

/-- A stack in step with a view: its layers are the overlays of the open scopes in the
order they were entered, one depth was kept per handle handed out, and the depth kept for
an open scope is its place among the open ones. -/
structure Scopes.Tracks (sc : Scopes) (v : ScopeView) : Prop where
  layers : sc.stack.layers = v.opened.map (·.2)
  marks : sc.marks.length = v.entered
  place : ∀ i (within : i < v.opened.length), sc.marks[v.opened[i].1]? = some i
  ordered : (v.opened.map (·.1)).Pairwise (· < ·)
  bounded : ∀ scope ∈ v.opened, scope.1 < v.entered

namespace ScopeView

theorem step_enter_of_read (v : ScopeView) {items : List Value} {o : Overlay}
    (read : Overlay.ofValues items = .ok o) :
    v.step (.enter items) = { entered := v.entered + 1, opened := v.opened ++ [(v.entered, o)] } := by
  simp [step, read]

theorem step_enter_of_refused (v : ScopeView) {items : List Value} {e : BindingError}
    (refused : Overlay.ofValues items = .error e) : v.step (.enter items) = v := by
  simp [step, refused]

theorem step_leave (v : ScopeView) (handle : Nat) (inFlight : Option Fault) :
    v.step (.leave handle inFlight) =
      { v with opened := v.opened.filter fun scope => scope.1 < handle } := rfl

end ScopeView

namespace Scopes

theorem step_enter_of_read (sc : Scopes) {items : List Value} {o : Overlay}
    (read : Overlay.ofValues items = .ok o) :
    sc.step (.enter items) =
      { stack := (sc.stack.push o).2, marks := sc.marks ++ [sc.stack.layers.length] } := by
  simp [step, enter, read, bind, Except.bind, pure, Except.pure, Stack.push]

theorem step_enter_of_refused (sc : Scopes) {items : List Value} {e : BindingError}
    (refused : Overlay.ofValues items = .error e) : sc.step (.enter items) = sc := by
  simp [step, enter, refused, bind, Except.bind]

theorem step_leave (sc : Scopes) (handle : Nat) (inFlight : Option Fault) :
    sc.step (.leave handle inFlight) = { sc with stack := sc.stack.cut (sc.marks.getD handle 0) } := rfl

theorem tracks_start (separator : String) : Tracks { stack := { separator } } {} :=
  ⟨rfl, rfl, fun _ within => absurd within (Nat.not_lt_zero _), List.Pairwise.nil,
    fun _ mem => absurd mem List.not_mem_nil⟩

theorem Tracks.of_same {sc sc' : Scopes} {v : ScopeView} (tracks : sc.Tracks v)
    (layers : sc'.stack.layers = sc.stack.layers) (marks : sc'.marks = sc.marks) : sc'.Tracks v :=
  ⟨layers.trans tracks.layers, marks ▸ tracks.marks, marks ▸ tracks.place, tracks.ordered,
    tracks.bounded⟩

section Steps

variable {sc : Scopes} {v : ScopeView}

theorem tracks_enter (tracks : sc.Tracks v) (items : List Value) :
    (sc.step (.enter items)).Tracks (v.step (.enter items)) := by
  cases read : Overlay.ofValues items with
  | error e =>
    rw [step_enter_of_refused sc read, ScopeView.step_enter_of_refused v read]
    exact tracks
  | ok o =>
    rw [step_enter_of_read sc read, ScopeView.step_enter_of_read v read]
    have depth : sc.stack.layers.length = v.opened.length := by
      rw [tracks.layers, List.length_map]
    refine ⟨?_, ?_, ?_, ?_, ?_⟩
    · simp [Stack.push, tracks.layers]
    · simp [tracks.marks]
    · intro i within
      rw [List.length_append, List.length_singleton] at within
      rcases Nat.lt_succ_iff_lt_or_eq.mp within with older | newest
      · -- an older scope keeps its place, and its depth was kept before this entry
        have kept := tracks.place i older
        have handed : v.opened[i].1 < sc.marks.length :=
          tracks.marks ▸ tracks.bounded _ (List.getElem_mem older)
        simp only [List.getElem_append_left older]
        rw [List.getElem?_append_left handed, kept]
      · -- the new scope sits on top, at the depth below its layer
        subst newest
        simp [tracks.marks, depth]
    · rw [List.map_append, List.pairwise_append]
      refine ⟨tracks.ordered, List.pairwise_singleton _ _, ?_⟩
      intro a mem b newest
      obtain ⟨scope, inOpened, rfl⟩ := List.mem_map.mp mem
      rw [List.map_singleton, List.mem_singleton] at newest
      exact newest ▸ tracks.bounded scope inOpened
    · intro scope mem
      rcases List.mem_append.mp mem with older | newest
      · exact Nat.lt_succ_of_lt (tracks.bounded scope older)
      · rw [List.mem_singleton.mp newest]
        exact Nat.lt_succ_self _

theorem tracks_leave (tracks : sc.Tracks v) {handle : Nat} (inFlight : Option Fault)
    (open_ : handle ∈ v.opened.map (·.1)) :
    (sc.step (.leave handle inFlight)).Tracks (v.step (.leave handle inFlight)) := by
  obtain ⟨i, within, rfl⟩ : ∃ i, ∃ within : i < v.opened.length, v.opened[i].1 = handle := by
    obtain ⟨scope, mem, rfl⟩ := List.mem_map.mp open_
    obtain ⟨i, within, rfl⟩ := List.getElem_of_mem mem
    exact ⟨i, within, rfl⟩
  have depth : sc.marks.getD v.opened[i].1 0 = i := by
    rw [List.getD_eq_getElem?_getD, tracks.place i within, Option.getD_some]
  have kept : v.opened.filter (fun scope => scope.1 < v.opened[i].1) = v.opened.take i :=
    filter_entered_before tracks.ordered within
  rw [step_leave, ScopeView.step_leave, depth, kept]
  refine ⟨?_, tracks.marks, ?_, ?_, ?_⟩
  · simp [Stack.cut, tracks.layers, List.map_take]
  · intro j below
    rw [List.length_take] at below
    simp only [List.getElem_take]
    exact tracks.place j (by omega)
  · show ((v.opened.take i).map (·.1)).Pairwise _
    rw [List.map_take]
    exact tracks.ordered.sublist (List.take_sublist _ _)
  · exact fun scope mem => tracks.bounded scope (List.mem_of_mem_take mem)

theorem Stack.run_keeps_layers {α : Type} (s : Stack) {items : List Value} {o : Overlay}
    (read : Overlay.ofValues items = .ok o) (body : Stack → Except Fault α × Stack)
    (keeps : (s.push o).2.layers <+: (body (s.push o).2).2.layers) :
    (s.run items body).1 = (body (s.push o).2).1 ∧ (s.run items body).2.layers = s.layers := by
  obtain ⟨more, extended⟩ := keeps
  refine ⟨by simp [Stack.run, read], ?_⟩
  simp only [Stack.run, read, Stack.cut]
  rw [← extended]
  simp [Stack.push]

theorem tracks_run (tracks : sc.Tracks v) (items : List Value)
    (body : Stack → Except Fault Value × Stack) (keeps : ∀ t : Stack, t.layers <+: (body t).2.layers) :
    (sc.step (.run items body)).Tracks (v.step (.run items body)) := by
  unfold step ScopeView.step run
  refine tracks.of_same ?_ rfl
  cases read : Overlay.ofValues items with
  | error e => simp [Stack.run, read]
  | ok o => exact (Stack.run_keeps_layers sc.stack read body (keeps _)).2

theorem tracks_step (tracks : sc.Tracks v) {st : ScopeStep} (allowed : v.Allows st) :
    (sc.step st).Tracks (v.step st) := by
  cases st with
  | enter items => exact tracks_enter tracks items
  | leave handle inFlight => exact tracks_leave tracks inFlight allowed
  | run items body => exact tracks_run tracks items body allowed
  | resolve ambient => exact tracks

end Steps

theorem tracks_history {sc : Scopes} {v : ScopeView} (tracks : sc.Tracks v) (steps : List ScopeStep)
    (keeps : v.Keeps steps) : (steps.foldl step sc).Tracks (steps.foldl ScopeView.step v) := by
  induction steps generalizing sc v with
  | nil => exact tracks
  | cons st rest ih => exact ih (tracks_step tracks keeps.1) keeps.2

end Scopes

/-- Driven through scopes from an empty stack, whatever the order in which scopes are left,
as long as each is left while it is open and each body run inside a scope leaves in place the
layers it is given: the stack's layers are always the overlays of the open scopes in the
order they were entered, and its depth is their number. Leaving a scope with a failure in
flight leaves the same stack as leaving it normally and raises that failure again; an entry
whose texts do not read is refused and changes nothing; and a run hands back its body's
answer with the layers as they were before it. -/
theorem scoped_stack_holds_open_scopes (separator : String) :
    (∀ steps : List ScopeStep, ({} : ScopeView).Keeps steps →
      (steps.foldl Scopes.step { stack := { separator } }).stack.layers =
          (steps.foldl ScopeView.step {}).opened.map (·.2) ∧
        (steps.foldl Scopes.step { stack := { separator } }).stack.depth =
          (steps.foldl ScopeView.step {}).opened.length) ∧
    (∀ (sc : Scopes) (handle : Nat) (f : Fault),
      sc.leave handle (some f) = (.error f, (sc.leave handle none).2)) ∧
    (∀ (sc : Scopes) (items : List Value) (e : BindingError),
      Overlay.ofValues items = .error e → sc.enter items = .error e ∧ sc.step (.enter items) = sc) ∧
    (∀ (α : Type) (s : Stack) (items : List Value) (o : Overlay) (body : Stack → Except Fault α × Stack),
      Overlay.ofValues items = .ok o → (s.push o).2.layers <+: (body (s.push o).2).2.layers →
      (s.run items body).1 = (body (s.push o).2).1 ∧ (s.run items body).2.layers = s.layers) := by
  refine ⟨fun steps keeps => ?_, fun _ _ _ => rfl, fun sc items e refused => ?_,
    fun _ s _ _ body read keeps => Scopes.Stack.run_keeps_layers s read body keeps⟩
  · have tracks := Scopes.tracks_history (Scopes.tracks_start separator) steps keeps
    refine ⟨tracks.layers, ?_⟩
    rw [Stack.depth, tracks.layers, List.length_map]
  · have entered : sc.enter items = .error e := by simp [Scopes.enter, refused]
    refine ⟨entered, ?_⟩
    simp only [Scopes.step, entered]

/-- Three scopes entered and the middle one left while the innermost is still open: that
leave keeps the discipline, and the stack then holds the open scopes only. -/
theorem scoped_stack_after_middle_leave :
    ({} : ScopeView).Keeps [.enter [.str "A=1"], .enter [.str "B=2"], .enter [.str "C=3"],
        .leave 1 none, .enter [.str "D=4"]] ∧
      ([ScopeStep.enter [.str "A=1"], .enter [.str "B=2"], .enter [.str "C=3"], .leave 1 none,
            .enter [.str "D=4"]].foldl Scopes.step { stack := { separator := ":" } }).stack.layers =
          ([ScopeStep.enter [.str "A=1"], .enter [.str "B=2"], .enter [.str "C=3"], .leave 1 none,
            .enter [.str "D=4"]].foldl ScopeView.step {}).opened.map (·.2) ∧
        ([ScopeStep.enter [.str "A=1"], .enter [.str "B=2"], .enter [.str "C=3"], .leave 1 none,
            .enter [.str "D=4"]].foldl Scopes.step { stack := { separator := ":" } }).stack.depth =
          ([ScopeStep.enter [.str "A=1"], .enter [.str "B=2"], .enter [.str "C=3"], .leave 1 none,
            .enter [.str "D=4"]].foldl ScopeView.step {}).opened.length :=
  have keeps : ({} : ScopeView).Keeps [.enter [.str "A=1"], .enter [.str "B=2"],
      .enter [.str "C=3"], .leave 1 none, .enter [.str "D=4"]] := by
    refine ⟨trivial, trivial, trivial, ?_, trivial, trivial⟩
    simp only [ScopeView.Allows]
    decide
  ⟨keeps, (scoped_stack_holds_open_scopes ":").1 _ keeps⟩

example : ([ScopeStep.enter [.str "A=1"], .enter [.str "B=2"], .enter [.str "C=3"], .leave 1 none,
    .enter [.str "D=4"]].foldl Scopes.step { stack := { separator := ":" } }).stack.layers.map
      Overlay.strings = [["A=1"], ["D=4"]] := by decide

end Conveyor.Env

import Mathlib
import Conveyor.Env.Overlay
import Conveyor.Proofs.Sections

/-!
# Resolving a stack of overlays, name by name

Resolving a stack folds every binding of every layer, bottom layer first and each layer in
its own order, over the ambient environment. Each binding first expands its value against the
environment as it stands, then sets one variable: its name. So a variable that no binding
names keeps its ambient value, or stays unset, and the value a binding's name ends with
depends only on that name's own bindings, with the values they expanded to, starting from
the name's ambient value. A plain binding discards what came before it; an additive one puts
its value in front of a value that is not empty.

`traceBindings` runs the fold and keeps each binding's expanded value; the resolution of a
stack is its first half (`resolve_eq_trace`). Over an ambient environment of texts the fold
never fails, and `resolve_folds_each_name` gives the result name by name.
-/

namespace Conveyor.Env

set_option autoImplicit false

/-! ## One binding -/

def Binding.name (b : Binding) : String :=
  (splitAdditive b.key).1

def Binding.isAdditive (b : Binding) : Bool :=
  (splitAdditive b.key).2.isSome

/-- The text a binding leaves in its variable, from the text there before and the binding's
expanded value: a plain binding sets its value, an additive one puts it in front of a text that
is not empty, joined by the separator. -/
def Binding.settle (sep : String) (b : Binding) (before : Option String) (value : String) : String :=
  if b.isAdditive then
    match before with
    | some existing => if existing.isEmpty then value else value ++ sep ++ existing
    | none => value
  else value

/-- The text a variable ends with after its own bindings, each with its expanded value, from the
text it had before. -/
def settleAll (sep : String) (before : Option String) (pairs : List (Binding × String)) :
    Option String :=
  pairs.foldl (fun acc bv => some (bv.1.settle sep acc bv.2)) before

def Binding.applyExpanded (sep : String) (env : Environment) (b : Binding) (value : String) :
    Environment :=
  match splitAdditive b.key with
  | (name, none) => env.set name (.str value)
  | (name, some _) =>
    match env.get? name with
    | some existing =>
      if existing.isFalsy then env.set name (.str value)
      else env.set name (.str (value ++ sep ++ existing.text))
    | none => env.set name (.str value)

/-- Applies bindings in order as `Binding.applyTo` does, keeping each binding's value as it was
expanded against the environment the bindings before it left. -/
def traceBindings (sep : String) : Environment → List Binding → Except Fault (Environment × List String)
  | env, [] => .ok (env, [])
  | env, b :: rest => do
    let value ← expand env b.value
    let (final, values) ← traceBindings sep (b.applyExpanded sep env value) rest
    pure (final, value :: values)

def Stack.bindings (s : Stack) : List Binding :=
  s.layers.flatMap Overlay.bindings

theorem Binding.apply_to_eq (sep : String) (env : Environment) (b : Binding) :
    b.applyTo sep env = (expand env b.value).map (b.applyExpanded sep env) := by
  unfold Binding.applyTo Binding.applyExpanded
  cases expand env b.value with
  | error f => rfl
  | ok value =>
    rcases splitAdditive b.key with ⟨name, _ | suffix⟩
    · rfl
    · dsimp only
      cases env.get? name with
      | none => rfl
      | some existing => by_cases falsy : existing.isFalsy <;> simp [falsy] <;> rfl

theorem trace_bindings_cons_of_ok {sep : String} {env : Environment} {b : Binding} {value : String}
    (expanded : expand env b.value = .ok value) (rest : List Binding) :
    traceBindings sep env (b :: rest) =
      (traceBindings sep (b.applyExpanded sep env value) rest).map fun traced =>
        (traced.1, value :: traced.2) := by
  simp only [traceBindings, expanded, bind, Except.bind]
  cases traceBindings sep (b.applyExpanded sep env value) rest <;> rfl

theorem trace_bindings_cons_of_error {sep : String} {env : Environment} {b : Binding} {f : Fault}
    (refused : expand env b.value = .error f) (rest : List Binding) :
    traceBindings sep env (b :: rest) = .error f := by
  simp only [traceBindings, refused, bind, Except.bind]

theorem settle_all_nil (sep : String) (before : Option String) : settleAll sep before [] = before := rfl

theorem settle_all_cons (sep : String) (before : Option String) (b : Binding) (v : String)
    (rest : List (Binding × String)) :
    settleAll sep before ((b, v) :: rest) = settleAll sep (some (b.settle sep before v)) rest := rfl

theorem settle_all_after_plain (sep : String) (before : Option String) (pre : List (Binding × String))
    {b : Binding} (plain : b.isAdditive = false) (v : String) (post : List (Binding × String)) :
    settleAll sep before (pre ++ (b, v) :: post) = settleAll sep (some v) post := by
  rw [settleAll, List.foldl_append, List.foldl_cons, ← settleAll]
  simp [Binding.settle, plain]

/-! ## Folding over the layers -/

theorem foldl_m_layers (sep : String) (layers : List Overlay) (env : Environment) :
    layers.foldlM (Overlay.applyTo sep) env =
      (layers.flatMap Overlay.bindings).foldlM (Binding.applyTo sep) env := by
  induction layers generalizing env with
  | nil => rfl
  | cons o rest ih =>
    rw [List.foldlM_cons, List.flatMap_cons, List.foldlM_append]
    unfold Overlay.applyTo
    cases o.bindings.foldlM (Binding.applyTo sep) env with
    | error f => rfl
    | ok env' => exact ih env'

theorem resolve_eq_apply_to (s : Stack) (ambient : Environment) :
    s.resolve ambient = Overlay.applyTo s.separator ambient ⟨s.bindings⟩ :=
  foldl_m_layers s.separator s.layers ambient

theorem foldl_m_apply_to_eq_trace (sep : String) (bindings : List Binding) (env : Environment) :
    bindings.foldlM (Binding.applyTo sep) env = (traceBindings sep env bindings).map (·.1) := by
  induction bindings generalizing env with
  | nil => rfl
  | cons b rest ih =>
    rw [List.foldlM_cons, Binding.apply_to_eq]
    cases expanded : expand env b.value with
    | error f => rw [trace_bindings_cons_of_error expanded]; rfl
    | ok value =>
      rw [trace_bindings_cons_of_ok expanded]
      show rest.foldlM (Binding.applyTo sep) (b.applyExpanded sep env value) = _
      rw [ih]
      cases traceBindings sep (b.applyExpanded sep env value) rest <;> rfl

theorem resolve_eq_trace (s : Stack) (ambient : Environment) :
    s.resolve ambient = (traceBindings s.separator ambient s.bindings).map (·.1) := by
  rw [resolve_eq_apply_to]
  exact foldl_m_apply_to_eq_trace _ _ _

/-! ## Environments of texts -/

@[simp] theorem Vars.get?_set_self (env : Vars) (name value : String) :
    (env.set name value).get? name = some value :=
  Config.lookup_assoc_set_self env name value

theorem Vars.get?_set_of_ne (env : Vars) {name other : String} (value : String)
    (differs : other ≠ name) : (env.set name value).get? other = env.get? other :=
  Config.lookup_assoc_set_of_ne env value differs

theorem Environment.get?_of_vars (env : Vars) (name : String) :
    (Environment.ofVars env).get? name = (env.get? name).map Value.str := by
  induction env with
  | nil => rfl
  | cons entry rest ih =>
    obtain ⟨k, v⟩ := entry
    by_cases same : name = k
    · subst same
      simp [Environment.ofVars, Environment.get?, Vars.get?]
    · have differs : (name == k) = false := beq_false_of_ne same
      simp only [Environment.get?, Vars.get?, Environment.ofVars, List.map_cons, List.lookup_cons,
        differs] at ih ⊢
      exact ih

theorem Environment.set_of_vars (env : Vars) (name value : String) :
    (Environment.ofVars env).set name (.str value) = Environment.ofVars (env.set name value) := by
  have sameKeys : ((Environment.ofVars env).any fun entry => entry.1 == name) =
      env.any fun entry => entry.1 == name := by
    simp [Environment.ofVars, List.any_map, Function.comp_def]
  unfold Environment.set Vars.set
  rw [sameKeys]
  unfold Environment.ofVars
  split
  · simp only [List.map_map]
    congr 1
    funext entry
    by_cases same : entry.1 = name <;> simp [same]
  · simp

theorem join_parts_go_of_texts {parts : List Value} (texts : ∀ p ∈ parts, ∃ t, p = .str t)
    (index : Nat) (acc : String) : ∃ joined, joinParts.go index acc parts = .ok joined := by
  induction parts generalizing index acc with
  | nil => exact ⟨acc, rfl⟩
  | cons p rest ih =>
    obtain ⟨t, rfl⟩ := texts p List.mem_cons_self
    exact ih (fun q mem => texts q (List.mem_cons_of_mem _ mem)) (index + 1) (acc ++ t)

theorem expand_of_vars (env : Vars) (raw : String) :
    ∃ value, expand (Environment.ofVars env) raw = .ok value := by
  apply join_parts_go_of_texts
  intro p mem
  obtain ⟨piece, -, found⟩ := List.mem_filterMap.mp mem
  cases piece with
  | plain t => cases found; exact ⟨t, rfl⟩
  | reference name written =>
    simp only [Environment.get?_of_vars] at found
    cases lookup : env.get? name with
    | none => simp [lookup] at found; exact ⟨written, found.symm⟩
    | some v => simp [lookup] at found; exact ⟨v, found.symm⟩

theorem apply_expanded_of_vars (sep : String) (env : Vars) (b : Binding) (value : String) :
    b.applyExpanded sep (Environment.ofVars env) value =
      Environment.ofVars (env.set b.name (b.settle sep (env.get? b.name) value)) := by
  unfold Binding.applyExpanded Binding.settle Binding.isAdditive Binding.name
  rcases splitAdditive b.key with ⟨name, _ | suffix⟩
  · simp [Environment.set_of_vars]
  · simp only [Environment.get?_of_vars, Option.isSome_some, if_true]
    cases env.get? name with
    | none => simp [Environment.set_of_vars]
    | some existing =>
      by_cases empty : existing.isEmpty
      · simp [Value.isFalsy, empty, Environment.set_of_vars]
      · simp [Value.isFalsy, empty, Value.text, Environment.set_of_vars]

theorem trace_bindings_of_vars (sep : String) (bindings : List Binding) (env : Vars) :
    ∃ final values, traceBindings sep (Environment.ofVars env) bindings =
        .ok (Environment.ofVars final, values) ∧ values.length = bindings.length ∧
      ∀ name, final.get? name =
        settleAll sep (env.get? name) ((bindings.zip values).filter (·.1.name == name)) := by
  induction bindings generalizing env with
  | nil => exact ⟨env, [], rfl, rfl, fun _ => rfl⟩
  | cons b rest ih =>
    obtain ⟨value, expanded⟩ := expand_of_vars env b.value
    obtain ⟨final, values, traced, lengths, byName⟩ :=
      ih (env.set b.name (b.settle sep (env.get? b.name) value))
    refine ⟨final, value :: values, ?_, by simp [lengths], fun name => ?_⟩
    · rw [trace_bindings_cons_of_ok expanded, apply_expanded_of_vars, traced]
      rfl
    · rw [byName name, List.zip_cons_cons, List.filter_cons]
      by_cases same : b.name = name
      · subst same
        simp only [beq_self_eq_true, if_true, settle_all_cons, Vars.get?_set_self]
      · rw [Vars.get?_set_of_ne _ _ (Ne.symm same)]
        simp [same]

/-! ## A whole stack -/

/-- Resolving a stack over an ambient environment of texts never fails. It is the fold of every
binding of every layer, in order, over the ambient environment: the same as applying the one
overlay that holds them all, and the first half of their trace, whose second half is each
binding's value as expanded against the environment the bindings before it left. Name by
name, the result is the fold of that name's own bindings, with those values, from its ambient
value: a variable no binding names keeps its ambient value or stays unset, and the last plain
binding of a name discards all before it. -/
theorem resolve_folds_each_name (s : Stack) (ambient : Vars) :
    ∃ final values,
      s.resolve (Environment.ofVars ambient) = .ok (Environment.ofVars final) ∧
      Overlay.applyTo s.separator (Environment.ofVars ambient) ⟨s.bindings⟩ =
        .ok (Environment.ofVars final) ∧
      traceBindings s.separator (Environment.ofVars ambient) s.bindings =
        .ok (Environment.ofVars final, values) ∧
      (∀ name, final.get? name = settleAll s.separator (ambient.get? name)
        ((s.bindings.zip values).filter (·.1.name == name))) ∧
      (∀ name, (∀ b ∈ s.bindings, b.name ≠ name) → final.get? name = ambient.get? name) ∧
      ∀ name pre b v post, (s.bindings.zip values).filter (·.1.name == name) = pre ++ (b, v) :: post →
        b.isAdditive = false → final.get? name = settleAll s.separator (some v) post := by
  obtain ⟨final, values, traced, -, byName⟩ := trace_bindings_of_vars s.separator s.bindings ambient
  have resolved : s.resolve (Environment.ofVars ambient) = .ok (Environment.ofVars final) := by
    rw [resolve_eq_trace, traced]
    rfl
  refine ⟨final, values, resolved, (resolve_eq_apply_to _ _) ▸ resolved, traced, byName, ?_, ?_⟩
  · intro name unnamed
    have none : (s.bindings.zip values).filter (·.1.name == name) = [] := by
      rw [List.filter_eq_nil_iff]
      intro bv mem
      simpa using unnamed bv.1 (List.of_mem_zip mem).1
    rw [byName, none, settle_all_nil]
  · intro name pre b v post split plain
    rw [byName, split, settle_all_after_plain _ _ _ plain]

end Conveyor.Env

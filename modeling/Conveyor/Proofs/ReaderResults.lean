import Mathlib
import Conveyor.Proofs.ListReaders

/-!
# What the readers hand back, and what they refuse with

`Ensures P Q m` says that a reader hands back only values satisfying `P` and refuses only for
reasons satisfying `Q`. It is closed under the monad's operations, so each reader of a run
configuration gets its postcondition once, from those of the readers it is made of.

Two postconditions are read off here, side by side. Every text the readers hand back is
trimmed and not empty, every list of commands is non-empty, every binding text parses, and
the names of a track's stages are distinct and leave the checkout's name free when the
track checks out (`RunConfig.Wellformed`). And every refusal is reported as a type or a
value fault, but for one: a number too large to be a binary64 float (`SettingsError.Plain`).
Both carry over to a whole configuration read from a value (`RunConfig.of_value_wellformed`,
`RunConfig.of_value_refusal_kinds`); a grace period of `10 ^ 400` seconds is the overflow
(`RunConfig.of_value_huge_grace_overflows`).

This module covers the readers of single values; nested sections, lists of them and a
whole configuration follow in `ConfigResults`.
-/

namespace Conveyor.Config

open Conveyor.Env Conveyor.Text

set_option autoImplicit false

variable {α β : Type}

/-- A reader whose runs that end hand back values satisfying `P`, and whose runs that fail
refuse for reasons satisfying `Q`. -/
def Ensures (P : α → Prop) (Q : SettingsError → Prop) (m : Reading α) : Prop :=
  ∀ s, (∀ a t, m s = .ok (a, t) → P a) ∧ ∀ e, m s = .error e → Q e

namespace Ensures

variable {P P' : α → Prop} {R : β → Prop} {Q Q' : SettingsError → Prop}

theorem pure {a : α} (holds : P a) : Ensures P Q (Pure.pure a : Reading α) := by
  intro s
  refine ⟨fun b t run => ?_, fun e run => ?_⟩
  · cases run
    exact holds
  · cases run

theorem throw {e : SettingsError} (holds : Q e) : Ensures P Q (MonadExcept.throw e : Reading α) := by
  intro s
  refine ⟨fun b t run => ?_, fun e' run => ?_⟩
  · cases run
  · cases run
    exact holds

theorem bind {m : Reading α} {f : α → Reading β} (first : Ensures P Q m)
    (next : ∀ a, P a → Ensures R Q (f a)) : Ensures R Q (m >>= f) := by
  intro s
  cases ran : m s with
  | error e =>
    have failed : (m >>= f) s = .error e := by
      show StateT.bind m f s = _
      simp only [StateT.bind, ran]
      rfl
    rw [failed]
    refine ⟨fun b u run => ?_, fun e' run => ?_⟩
    · cases run
    · cases run
      exact (first s).2 e ran
  | ok r =>
    obtain ⟨a, t⟩ := r
    rw [bind_ok ran]
    exact next a ((first s).1 a t ran) t

theorem weaken {m : Reading α} (ensures : Ensures P Q m) (values : ∀ a, P a → P' a)
    (reasons : ∀ e, Q e → Q' e) : Ensures P' Q' m := by
  intro s
  exact ⟨fun a t run => values a ((ensures s).1 a t run), fun e run => reasons e ((ensures s).2 e run)⟩

theorem ite {c : Prop} [Decidable c] {m₁ m₂ : Reading α} (yes : Ensures P Q m₁)
    (no : Ensures P Q m₂) : Ensures P Q (if c then m₁ else m₂) := by
  split
  · exact yes
  · exact no

theorem section_path : Ensures (fun _ => True) Q Config.sectionPath := by
  intro s
  exact ⟨fun _ _ _ => trivial, fun e run => by cases run⟩

theorem get : Ensures (fun _ => True) Q (MonadState.get : Reading Section) := by
  intro s
  exact ⟨fun _ _ _ => trivial, fun e run => by cases run⟩

theorem throw_bind {e : SettingsError} (holds : Q e) {f : β → Reading α} :
    Ensures P Q ((MonadExcept.throw e : Reading β) >>= f) := by
  intro s
  have thrown : ((MonadExcept.throw e : Reading β) >>= f) s = .error e := rfl
  rw [thrown]
  exact ⟨fun a t run => (by cases run), fun e' run => by cases run; exact holds⟩

/-- A check between reads, which refuses without reading when its condition holds; what
follows may count on the condition failing. -/
theorem guard {c : Prop} [Decidable c] {e : SettingsError} (refusal : Q e) {m : Reading α}
    (next : ¬c → Ensures P Q m) :
    Ensures P Q (if c then (MonadExcept.throw e : Reading PUnit) >>= fun _ => m else m) := by
  by_cases holds : c
  · rw [if_pos holds]
    exact throw_bind refusal
  · rw [if_neg holds]
    exact next holds

theorem read_with {f : Section → Read α} (values : ∀ s a t, f s = (.ok a, t) → P a)
    (reasons : ∀ s e t, f s = (.error e, t) → Q (.reading e)) : Ensures P Q (Config.readWith f) := by
  intro s
  unfold Config.readWith
  rcases found : f s with ⟨_ | a, t⟩
  · refine ⟨fun b u run => (by cases run), fun e' run => ?_⟩
    cases run
    exact reasons s _ t found
  · refine ⟨fun b u run => ?_, fun e' run => by cases run⟩
    cases run
    exact values s a t found

theorem value_reading {key : String} {default : Option Value}
    {check : String → Value → Except ConfigError (α × Value)}
    (values : ∀ path v a y, check path v = .ok (a, y) → P a)
    (reasons : ∀ path v e, check path v = .error e → Q (.reading e))
    (nested : ∀ path, Q (.reading (.nestedAlready path)))
    (missing : ∀ path, Q (.reading (.missingKey path))) :
    Ensures P Q (Config.valueReading key default check) := by
  intro s
  unfold Config.valueReading
  split
  · refine ⟨fun a t run => (by cases run), fun e run => ?_⟩
    cases run
    exact nested _
  · split
    · refine ⟨fun a t run => (by cases run), fun e run => ?_⟩
      cases run
      exact missing _
    · rename_i v _
      cases checked : check (joinPath s.path key) v with
      | error e' =>
        refine ⟨fun a t run => (by cases run), fun e run => ?_⟩
        cases run
        exact reasons _ v e' checked
      | ok r =>
        refine ⟨fun a t run => ?_, fun e run => by cases run⟩
        cases run
        exact values _ v r.1 r.2 checked

end Ensures

/-! ## What the readers promise -/

def Trimmed (text : String) : Prop :=
  strip text = text ∧ text ≠ ""

def Binds (text : String) : Prop :=
  ∃ b, Binding.parse (.str text) = .ok b

/-- A stage's settings as the readers hand them back: a trimmed name, a non-empty list of
trimmed commands, and bindings that parse. -/
structure StageSettings.Wellformed (s : StageSettings) : Prop where
  name : Trimmed s.name
  actions_ne_nil : s.actions ≠ []
  actions : ∀ c ∈ s.actions, Trimmed c
  env : ∀ b ∈ s.env, Binds b

/-- A track's settings as the readers hand them back: a trimmed name and node, a non-empty
list of well-formed stages with distinct names, none named as the checkout when the track
checks out, and bindings that parse. -/
structure TrackSettings.Wellformed (t : TrackSettings) : Prop where
  name : Trimmed t.name
  node : Trimmed t.node
  stages_ne_nil : t.stages ≠ []
  stages : ∀ s ∈ t.stages, s.Wellformed
  distinct : duplicates (t.stages.map (·.name)) = []
  checkout : t.checkout = true → checkoutStageName ∉ t.stages.map (·.name)
  env : ∀ b ∈ t.env, Binds b

/-- A run configuration as the readers hand it back: the toolchain's extra bindings parse
and every track is well-formed. -/
structure RunConfig.Wellformed (cfg : RunConfig) : Prop where
  toolchain : ∀ b ∈ cfg.toolchain.extraEnv, Binds b
  tracks : ∀ t ∈ cfg.tracks, t.Wellformed

def SettingsError.Plain (e : SettingsError) : Prop :=
  e.toFault.kind = .typeError ∨ e.toFault.kind = .valueError ∨ e = .reading .tooLarge

theorem SettingsError.plain_reading {r : ConfigError}
    (kind : r.kind = .typeError ∨ r.kind = .valueError) : (SettingsError.reading r).Plain :=
  kind.elim .inl fun value => .inr (.inl value)

theorem Ensures.plain_value_reading {P : α → Prop} {key : String} {default : Option Value}
    {check : String → Value → Except ConfigError (α × Value)}
    (values : ∀ path v a y, check path v = .ok (a, y) → P a)
    (reasons : ∀ path v e, check path v = .error e → e.kind = .typeError ∨ e.kind = .valueError ∨ e = .tooLarge) :
    Ensures P SettingsError.Plain (Config.valueReading key default check) := by
  refine Ensures.value_reading values (fun path v e refused => ?_) (fun _ => .inr (.inl rfl)) (fun _ => .inr (.inl rfl))
  rcases reasons path v e refused with kind | kind | rfl
  · exact .inl kind
  · exact .inr (.inl kind)
  · exact .inr (.inr rfl)

/-! ## The checks of single values -/

theorem text_check_trimmed {path : String} {v : Value} {a : Option String} {y : Value}
    (checked : textCheck path v = .ok (a, y)) : ∀ t, a = some t → Trimmed t := by
  intro t named
  cases v with
  | null =>
    cases checked
    cases named
  | str raw =>
    by_cases empty : (strip raw).isEmpty = true
    · simp [textCheck, empty] at checked
    · simp only [textCheck, empty, Bool.false_eq_true, if_false, Except.ok.injEq,
        Prod.mk.injEq] at checked
      obtain ⟨rfl, -⟩ := checked
      cases named
      exact ⟨strip_strip raw, by simpa using empty⟩
  | _ => cases checked

theorem text_check_refusal {path : String} {v : Value} {e : ConfigError}
    (refused : textCheck path v = .error e) : e.kind = .typeError ∨ e.kind = .valueError := by
  cases v with
  | null => cases refused
  | str raw =>
    by_cases empty : (strip raw).isEmpty = true
    · simp only [textCheck, empty, if_true, Except.error.injEq] at refused
      subst refused
      exact .inr rfl
    · simp [textCheck, empty] at refused
  | _ =>
    cases refused
    exact .inl rfl

theorem flag_check_refusal {path : String} {v : Value} {e : ConfigError}
    (refused : flagCheck path v = .error e) : e.kind = .typeError := by
  cases v with
  | bool b => cases refused
  | _ =>
    cases refused
    rfl

theorem number_check_refusal {minimum : Option Float} {path : String} {v : Value} {e : ConfigError}
    (refused : numberCheck minimum path v = .error e) :
    e.kind = .typeError ∨ e.kind = .valueError ∨ e = .tooLarge := by
  unfold numberCheck at refused
  split at refused
  · cases refused
    exact .inl rfl
  · split at refused
    · cases refused
      exact .inr (.inr rfl)
    · rename_i x _
      cases minimum with
      | none => cases refused
      | some m =>
        by_cases below : x < m
        · simp only [below, if_true, Except.error.injEq] at refused
          subst refused
          exact .inr (.inl rfl)
        · simp [below] at refused

theorem text_items_trimmed {path : String} {i : Nat} {raw : List Value} {texts : List String}
    (checked : Section.textItems path i raw = .ok texts) : ∀ c ∈ texts, Trimmed c := by
  induction raw generalizing i texts with
  | nil =>
    cases checked
    simp
  | cons x rest ih =>
    cases x with
    | str t =>
      by_cases empty : (strip t).isEmpty = true
      · simp [Section.textItems, empty] at checked
      · cases later : Section.textItems path (i + 1) rest with
        | error e => simp [Section.textItems, empty, later, Except.map] at checked
        | ok more =>
          simp only [Section.textItems, empty, later, Bool.false_eq_true, if_false, Except.map,
            Except.ok.injEq] at checked
          subst checked
          intro c mem
          rcases List.mem_cons.mp mem with rfl | later'
          · exact ⟨strip_strip t, by simpa using empty⟩
          · exact ih later c later'
    | _ => cases checked

theorem text_items_refusal {path : String} {i : Nat} {raw : List Value} {e : ConfigError}
    (refused : Section.textItems path i raw = .error e) :
    e.kind = .typeError ∨ e.kind = .valueError := by
  induction raw generalizing i with
  | nil => cases refused
  | cons x rest ih =>
    cases x with
    | str t =>
      by_cases empty : (strip t).isEmpty = true
      · simp only [Section.textItems, empty, if_true, Except.error.injEq] at refused
        subst refused
        exact .inr rfl
      · cases later : Section.textItems path (i + 1) rest with
        | error e' =>
          simp only [Section.textItems, empty, later, Bool.false_eq_true, if_false, Except.map,
            Except.error.injEq] at refused
          subst refused
          exact ih later
        | ok more => simp [Section.textItems, empty, later, Except.map] at refused
    | _ =>
      cases refused
      exact .inl rfl

theorem texts_check_values {allowEmpty : Bool} {path : String} {v : Value} {texts : List String}
    {y : Value} (checked : textsCheck allowEmpty path v = .ok (texts, y)) :
    (∀ c ∈ texts, Trimmed c) ∧ (allowEmpty = false → texts ≠ []) := by
  unfold textsCheck at checked
  cases sequence : (nullAsList v).sequence? with
  | none => simp [sequence] at checked
  | some raw =>
    cases items : Section.textItems path 0 raw with
    | error e => simp [sequence, items] at checked
    | ok found =>
      by_cases refused : (found.isEmpty && !allowEmpty) = true
      · simp [sequence, items, refused] at checked
      · simp only [sequence, items, refused, Bool.false_eq_true, if_false, Except.ok.injEq,
          Prod.mk.injEq] at checked
        obtain ⟨rfl, -⟩ := checked
        refine ⟨text_items_trimmed items, fun disallowed empty => refused ?_⟩
        simp [empty, disallowed]

theorem texts_check_refusal {allowEmpty : Bool} {path : String} {v : Value} {e : ConfigError}
    (refused : textsCheck allowEmpty path v = .error e) :
    e.kind = .typeError ∨ e.kind = .valueError := by
  unfold textsCheck at refused
  split at refused
  · split at refused
    · cases refused
      exact text_items_refusal (by assumption)
    · split at refused
      · cases refused
        exact .inr rfl
      · cases refused
  · cases refused
    exact .inl rfl

theorem binds_of_first_bad_binding {i : Nat} {texts : List String} (clean : firstBadBinding i texts = none) :
    ∀ b ∈ texts, Binds b := by
  induction texts generalizing i with
  | nil => simp
  | cons t rest ih =>
    unfold firstBadBinding at clean
    cases parsed : Binding.parse (.str t) with
    | error e => simp [parsed] at clean
    | ok binding =>
      simp only [parsed] at clean
      intro b mem
      rcases List.mem_cons.mp mem with rfl | later
      · exact ⟨binding, parsed⟩
      · exact ih clean b later

/-! ## Readers of single values -/

section Values

variable {K : String} (stripped : strip K = K) (nonblank : K.isEmpty = false)
include stripped nonblank

theorem ensures_read_opt_text {d : Option Value}
    (allowed : d = none ∨ d = some .null ∨ ∃ t, d = some (.str t)) :
    Ensures (fun a => ∀ t, a = some t → Trimmed t) SettingsError.Plain (readOptText K d) := by
  rw [read_opt_text_eq stripped nonblank allowed]
  exact Ensures.plain_value_reading (fun _ _ _ _ checked => text_check_trimmed checked)
    fun _ _ _ refused => (text_check_refusal refused).imp_right .inl

theorem ensures_read_text {d : Option Value}
    (allowed : d = none ∨ d = some .null ∨ ∃ t, d = some (.str t)) :
    Ensures Trimmed SettingsError.Plain (readText K d) := by
  refine Ensures.bind (ensures_read_opt_text stripped nonblank allowed) fun a trimmed => Ensures.pure ?_
  cases a with
  | none => exact ⟨by decide, by decide⟩
  | some t => exact trimmed t rfl

theorem ensures_read_flag (d : Bool) :
    Ensures (fun _ => True) SettingsError.Plain (readFlag K d) := by
  rw [read_flag_eq stripped nonblank d]
  exact Ensures.plain_value_reading (fun _ _ _ _ _ => trivial)
    fun _ _ _ refused => .inl (flag_check_refusal refused)

theorem ensures_read_number (d : Float) (minimum : Option Float) :
    Ensures (fun _ => True) SettingsError.Plain (readNumber K d minimum) := by
  rw [read_number_eq stripped nonblank d minimum]
  exact Ensures.plain_value_reading (fun _ _ _ _ _ => trivial) fun _ _ _ refused => number_check_refusal refused

theorem ensures_read_texts {d : Option Value} (allowed : d = none ∨ ∃ xs, d = some (.list xs))
    (allowEmpty : Bool) :
    Ensures (fun texts => (∀ c ∈ texts, Trimmed c) ∧ (allowEmpty = false → texts ≠ []))
      SettingsError.Plain (readTexts K d allowEmpty) := by
  rw [read_texts_eq stripped nonblank allowed allowEmpty]
  exact Ensures.plain_value_reading (fun _ _ _ _ checked => texts_check_values checked)
    fun _ _ _ refused => (texts_check_refusal refused).imp_right .inl

theorem ensures_read_bindings :
    Ensures (fun texts => ∀ b ∈ texts, Binds b) SettingsError.Plain (readBindings K) := by
  refine Ensures.bind (ensures_read_texts stripped nonblank (.inr ⟨[], rfl⟩) true) fun items _ =>
    Ensures.bind Ensures.section_path fun path _ => ?_
  split
  · exact Ensures.throw (.inr (.inl rfl))
  · rename_i clean
    exact Ensures.pure (binds_of_first_bad_binding clean)

end Values

end Conveyor.Config

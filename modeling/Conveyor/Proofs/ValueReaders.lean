import Conveyor.Proofs.Readers

/-!
# Readers of single values

Every reader of a single value goes one way (`valueReading`): it looks its key up past the
checks, checks the value found or the default, and records the value the check hands back.
Its `Spec` needs only that checking a recorded value again gives it back (`Rechecks`,
`spec_value_reading`). The readers of text, truth values, numbers and lists of texts are such
readers, each with its own check.
-/

namespace Conveyor.Config

set_option autoImplicit false

open Conveyor.Text

variable {fields first second : List Field} {s : Section}

/-- Reading the value at a key: refused when nested sections hang at the key; otherwise the
value there, or the default, goes through a check that gives the result and the value to
record, and the key is read. -/
def valueReading {α : Type} (key : String) (default : Option Value)
    (check : String → Value → Except ConfigError (α × Value)) : Reading α := fun s =>
  if (s.children.lookup key).isSome || (s.items.lookup key).isSome then
    .error (.reading (.nestedAlready (joinPath s.path key)))
  else
    match (s.data.lookup key).or default with
    | none => .error (.reading (.missingKey (joinPath s.path key)))
    | some v =>
      match check (joinPath s.path key) v with
      | .ok (a, y) => .ok (a, s.after (.value key y))
      | .error e => .error (.reading e)

def Rechecks {α : Type} (check : String → Value → Except ConfigError (α × Value)) : Prop :=
  ∀ path v a y, check path v = .ok (a, y) → check path y = .ok (a, y)

section ValueReading

variable {α : Type} {key : String} {default : Option Value}
  {check : String → Value → Except ConfigError (α × Value)} {s t : Section} {a : α}

theorem value_reading_eq_ok (run : valueReading key default check s = .ok (a, t)) :
    s.children.lookup key = none ∧ s.items.lookup key = none ∧
      ∃ v y, (s.data.lookup key).or default = some v ∧ check (joinPath s.path key) v = .ok (a, y) ∧
        t = s.after (.value key y) := by
  unfold valueReading at run
  split at run
  · cases run
  · rename_i free
    simp only [Bool.or_eq_true, Option.isSome_iff_ne_none, ne_eq, not_or, not_not] at free
    refine ⟨free.1, free.2, ?_⟩
    split at run
    · cases run
    · rename_i v found
      split at run
      · rename_i b y checked
        cases run
        exact ⟨v, y, found, checked, rfl⟩
      · cases run

theorem value_reading_of_check {v y : Value} (unopened : s.children.lookup key = none)
    (unlisted : s.items.lookup key = none) (found : (s.data.lookup key).or default = some v)
    (checked : check (joinPath s.path key) v = .ok (a, y)) :
    valueReading key default check s = .ok (a, s.after (.value key y)) := by
  simp [valueReading, unopened, unlisted, found, checked]

theorem spec_value_reading (rechecks : Rechecks check) :
    Spec [.value key] (valueReading key default check) where
  replay := by
    intro s a t _ run
    obtain ⟨-, -, v, y, -, checked, rfl⟩ := value_reading_eq_ok run
    refine ⟨[.value key y], rfl, .cons rfl .nil, by simp [Effect.Leaves], ?_⟩
    intro s' fresh' path' found'
    obtain ⟨-, -, unopened, unlisted⟩ := fresh' (.value key) List.mem_cons_self
    have foundKey : s'.data.lookup key = some y := found' (.value key y) List.mem_cons_self
    have foundY : (s'.data.lookup key).or default = some y := by
      rw [foundKey]
      rfl
    refine ⟨[.value key y], ?_, .cons (.value key y) .nil⟩
    rw [Section.after_all_cons, Section.after_all_nil]
    exact value_reading_of_check unopened unlisted foundY (path' ▸ rechecks _ v a y checked)
  opens := by
    intro s a t _ _ step rest keys locates
    cases locates with
    | child mem => simp at mem
    | item i mem => simp at mem
  frame := by
    intro s a t _ run p k v admissible _
    have clear : Section.Clear key p k := by
      cases p with
      | nil => exact admissible (.value key) List.mem_cons_self
      | cons step rest =>
        cases step with
        | child other =>
          rcases admissible with elsewhere | ⟨inner, mem, -⟩
          · exact Ne.symm (elsewhere (.value key) List.mem_cons_self)
          · simp at mem
        | item other i =>
          rcases admissible with elsewhere | ⟨inner, mem, -⟩
          · exact Ne.symm (elsewhere (.value key) List.mem_cons_self)
          · simp at mem
    obtain ⟨unopened, unlisted, w, y, found, checked, rfl⟩ := value_reading_eq_ok run
    rw [Section.add_at_after s (.value key y) clear]
    refine value_reading_of_check (v := w) ?_ ?_ ?_ ?_
    · rwa [Section.lookup_children_add_at clear]
    · rwa [Section.lookup_items_add_at clear]
    · rwa [Section.lookup_data_add_at clear]
    · rwa [Section.path_add_at]

end ValueReading

/-! ## The primitive readers -/

section Raw

variable (s : Section) {K : String} (stripped : strip K = K) (nonblank : K.isEmpty = false)
  (d : Option Value)
include stripped nonblank

theorem raw_nested (nested : ((s.children.lookup K).isSome || (s.items.lookup K).isSome) = true) :
    s.raw (.str K) d = (.error (.nestedAlready (joinPath s.path K)), s) := by
  simp [Section.raw, stripped, nonblank, nested]

theorem raw_found (free : ((s.children.lookup K).isSome || (s.items.lookup K).isSome) = false)
    {v : Value} (found : (s.data.lookup K).or d = some v) : s.raw (.str K) d = (.ok v, s.consume K) := by
  simp only [Section.raw, stripped, nonblank, free, Bool.false_eq_true, if_false]
  cases own : s.data.lookup K with
  | some w =>
    rw [own, Option.some_or, Option.some.injEq] at found
    rw [found]
  | none =>
    rw [own, Option.none_or] at found
    rw [found]

theorem raw_missing (free : ((s.children.lookup K).isSome || (s.items.lookup K).isSome) = false)
    (missing : (s.data.lookup K).or d = none) :
    s.raw (.str K) d = (.error (.missingKey (joinPath s.path K)), s) := by
  simp only [Section.raw, stripped, nonblank, free, Bool.false_eq_true, if_false]
  cases own : s.data.lookup K with
  | some w =>
    rw [own, Option.some_or] at missing
    cases missing
  | none =>
    rw [own, Option.none_or] at missing
    rw [missing]

end Raw

def textCheck (path : String) : Value → Except ConfigError (Option String × Value)
  | .null => .ok (none, .null)
  | .str raw =>
    if (strip raw).isEmpty then .error (.empty path) else .ok (some (strip raw), .str (strip raw))
  | other => .error (.notText path other.kindName)

theorem text_check_rechecks : Rechecks textCheck := by
  intro path v a y checked
  cases v with
  | null =>
    cases checked
    rfl
  | str raw =>
    by_cases empty : (strip raw).isEmpty = true
    · simp [textCheck, empty] at checked
    · simp only [textCheck, empty, Bool.false_eq_true, if_false, Except.ok.injEq,
        Prod.mk.injEq] at checked
      obtain ⟨rfl, rfl⟩ := checked
      simp [textCheck, empty]
  | _ => cases checked

theorem read_opt_text_eq {K : String} (stripped : strip K = K) (nonblank : K.isEmpty = false)
    {d : Option Value} (allowed : d = none ∨ d = some .null ∨ ∃ t, d = some (.str t)) :
    readOptText K d = valueReading K d textCheck := by
  funext s
  have go : s.getText (.str K) d false none = Section.getText.go s (.str K) d false none := by
    rcases allowed with rfl | rfl | ⟨_, rfl⟩ <;> rfl
  unfold readOptText readWith valueReading
  beta_reduce
  rw [go]
  unfold Section.getText.go
  cases nested : ((s.children.lookup K).isSome || (s.items.lookup K).isSome)
  · cases found : (s.data.lookup K).or d with
    | none => simp [raw_missing s stripped nonblank d nested found]
    | some v =>
      simp only [raw_found s stripped nonblank d nested found, stripped, Bool.false_eq_true,
        if_false]
      cases v with
      | str raw => by_cases empty : strip raw = "" <;> simp [textCheck, Section.after, empty]
      | _ => simp [textCheck, Section.after]
  · simp [raw_nested s stripped nonblank d nested]

def flagCheck (path : String) : Value → Except ConfigError (Bool × Value)
  | .bool b => .ok (b, .bool b)
  | other => .error (.notBool path other.kindName)

theorem flag_check_rechecks : Rechecks flagCheck := by
  intro path v a y checked
  cases v with
  | bool b =>
    cases checked
    rfl
  | _ => cases checked

theorem read_flag_eq {K : String} (stripped : strip K = K) (nonblank : K.isEmpty = false)
    (d : Bool) : readFlag K d = valueReading K (some (.bool d)) flagCheck := by
  funext s
  have go : s.getBool (.str K) (some (.bool d)) = Section.getBool.go s (.str K) (some (.bool d)) := by
    simp only [Section.getBool, if_true]
  unfold readFlag readWith valueReading
  beta_reduce
  rw [go]
  unfold Section.getBool.go
  cases nested : ((s.children.lookup K).isSome || (s.items.lookup K).isSome)
  · cases found : (s.data.lookup K).or (some (.bool d)) with
    | none => simp [raw_missing s stripped nonblank _ nested found]
    | some v =>
      simp only [raw_found s stripped nonblank _ nested found, stripped, Bool.false_eq_true, if_false]
      cases v <;> simp [flagCheck, Section.after]
  · simp [raw_nested s stripped nonblank _ nested]

def numberCheck (minimum : Option Float) (path : String) (v : Value) : Except ConfigError (Float × Value) :=
  if !Section.isNumber v then .error (.notFloat path v.kindName)
  else
    match v.toFloat with
    | .error _ => .error .tooLarge
    | .ok x =>
      match minimum with
      | none => .ok (x, .float x)
      | some m => if x < m then .error (.belowMinimum path m x) else .ok (x, .float x)

theorem number_check_rechecks (minimum : Option Float) : Rechecks (numberCheck minimum) := by
  intro path v a y checked
  unfold numberCheck at checked
  split at checked
  · cases checked
  · split at checked
    · cases checked
    · rename_i x converted
      cases minimum with
      | none =>
        cases checked
        rfl
      | some m =>
        by_cases below : x < m
        · simp [below] at checked
        · simp only [below, if_false, Except.ok.injEq, Prod.mk.injEq] at checked
          obtain ⟨rfl, rfl⟩ := checked
          simp [numberCheck, Section.isNumber, Value.toFloat, below]

theorem read_number_eq {K : String} (stripped : strip K = K) (nonblank : K.isEmpty = false)
    (d : Float) (minimum : Option Float) :
    readNumber K d minimum = valueReading K (some (.float d)) (numberCheck minimum) := by
  funext s
  have go : s.getFloat (.str K) (some (.float d)) (minimum.map .float) =
      Section.getFloat.go s (.str K) (some (.float d)) (minimum.map .float) := by
    simp [Section.getFloat, Section.isNumber]
  unfold readNumber readWith valueReading
  beta_reduce
  rw [go]
  unfold Section.getFloat.go
  cases nested : ((s.children.lookup K).isSome || (s.items.lookup K).isSome)
  · cases found : (s.data.lookup K).or (some (.float d)) with
    | none => simp [raw_missing s stripped nonblank _ nested found]
    | some v =>
      simp only [raw_found s stripped nonblank _ nested found, stripped, numberCheck]
      by_cases number : Section.isNumber v = true
      · cases converted : v.toFloat with
        | error f => simp [number]
        | ok x =>
          cases minimum with
          | none => simp [number, Section.after]
          | some m => by_cases below : x < m <;> simp [number, below, Section.after, Value.toFloat]
      · simp [number]
  · simp [raw_nested s stripped nonblank _ nested]

def nullAsList : Value → Value
  | .null => .list []
  | v => v

def textsCheck (allowEmpty : Bool) (path : String) (v : Value) :
    Except ConfigError (List String × Value) :=
  match (nullAsList v).sequence? with
  | some raw =>
    match Section.textItems path 0 raw with
    | .error e => .error e
    | .ok texts =>
      if texts.isEmpty && !allowEmpty then .error (.empty path) else .ok (texts, Value.strs texts)
  | none => .error (.notTextList path (nullAsList v).kindName)

theorem text_items_strs {path : String} {i : Nat} {raw : List Value} {texts : List String}
    (checked : Section.textItems path i raw = .ok texts) :
    Section.textItems path i (texts.map Value.str) = .ok texts := by
  induction raw generalizing i texts with
  | nil =>
    cases checked
    rfl
  | cons x rest ih =>
    cases x with
    | str t =>
      by_cases empty : (strip t).isEmpty = true
      · simp [Section.textItems, empty] at checked
      · cases later : Section.textItems path (i + 1) rest with
        | error e => simp [Section.textItems, empty, later, Except.map] at checked
        | ok more =>
          simp only [Section.textItems, empty, later, Bool.false_eq_true, if_false, Except.map,
            Except.ok.injEq] at checked
          subst checked
          simp [Section.textItems, empty, ih later, Except.map]
    | _ => cases checked

theorem texts_check_rechecks (allowEmpty : Bool) : Rechecks (textsCheck allowEmpty) := by
  intro path v a y checked
  unfold textsCheck at checked
  cases sequence : (nullAsList v).sequence? with
  | none => simp [sequence] at checked
  | some raw =>
    cases items : Section.textItems path 0 raw with
    | error e => simp [sequence, items] at checked
    | ok texts =>
      by_cases refused : (texts.isEmpty && !allowEmpty) = true
      · simp [sequence, items, refused] at checked
      · simp only [sequence, items, refused, Bool.false_eq_true, if_false, Except.ok.injEq,
          Prod.mk.injEq] at checked
        obtain ⟨rfl, rfl⟩ := checked
        simp [textsCheck, nullAsList, Value.strs, Value.sequence?, text_items_strs items, refused]

theorem read_texts_eq {K : String} (stripped : strip K = K) (nonblank : K.isEmpty = false)
    {d : Option Value} (allowed : d = none ∨ ∃ xs, d = some (.list xs)) (allowEmpty : Bool) :
    readTexts K d allowEmpty = valueReading K d (textsCheck allowEmpty) := by
  funext s
  have go : s.getTexts (.str K) d allowEmpty = Section.getTexts.go s (.str K) d allowEmpty := by
    rcases allowed with rfl | ⟨_, rfl⟩ <;> rfl
  unfold readTexts readWith valueReading
  beta_reduce
  rw [go]
  unfold Section.getTexts.go
  cases nested : ((s.children.lookup K).isSome || (s.items.lookup K).isSome)
  · cases found : (s.data.lookup K).or d with
    | none => simp [raw_missing s stripped nonblank _ nested found]
    | some v =>
      simp only [raw_found s stripped nonblank _ nested found, stripped, textsCheck]
      cases v with
      | list items =>
        simp [nullAsList, Value.sequence?]
        cases Section.textItems (joinPath s.path K) 0 items with
        | error e => rfl
        | ok texts => by_cases refused : texts = [] ∧ allowEmpty = false <;> simp [refused, Section.after]
      | tuple items =>
        simp [nullAsList, Value.sequence?]
        cases Section.textItems (joinPath s.path K) 0 items with
        | error e => rfl
        | ok texts => by_cases refused : texts = [] ∧ allowEmpty = false <;> simp [refused, Section.after]
      | _ => cases allowEmpty <;> simp [nullAsList, Value.sequence?, Section.textItems, Section.after]
  · simp [raw_nested s stripped nonblank _ nested]

theorem spec_read_opt_text {K : String} (stripped : strip K = K) (nonblank : K.isEmpty = false)
    {d : Option Value} (allowed : d = none ∨ d = some .null ∨ ∃ t, d = some (.str t)) :
    Spec [.value K] (readOptText K d) := by
  rw [read_opt_text_eq stripped nonblank allowed]
  exact spec_value_reading text_check_rechecks

theorem spec_read_text {K : String} (stripped : strip K = K) (nonblank : K.isEmpty = false)
    {d : Option Value} (allowed : d = none ∨ d = some .null ∨ ∃ t, d = some (.str t)) :
    Spec [.value K] (readText K d) :=
  Spec.bind (spec_read_opt_text stripped nonblank allowed) (fun _ => spec_pure _) (by simp [Apart])

theorem spec_read_flag {K : String} (stripped : strip K = K) (nonblank : K.isEmpty = false) (d : Bool) :
    Spec [.value K] (readFlag K d) := by
  rw [read_flag_eq stripped nonblank d]
  exact spec_value_reading flag_check_rechecks

theorem spec_read_number {K : String} (stripped : strip K = K) (nonblank : K.isEmpty = false)
    (d : Float) (minimum : Option Float) : Spec [.value K] (readNumber K d minimum) := by
  rw [read_number_eq stripped nonblank d minimum]
  exact spec_value_reading (number_check_rechecks minimum)

theorem spec_read_texts {K : String} (stripped : strip K = K) (nonblank : K.isEmpty = false)
    {d : Option Value} (allowed : d = none ∨ ∃ xs, d = some (.list xs)) (allowEmpty : Bool) :
    Spec [.value K] (readTexts K d allowEmpty) := by
  rw [read_texts_eq stripped nonblank allowed allowEmpty]
  exact spec_value_reading (texts_check_rechecks allowEmpty)

theorem spec_read_bindings {K : String} (stripped : strip K = K) (nonblank : K.isEmpty = false) :
    Spec [.value K] (readBindings K) := by
  refine Spec.bind (spec_read_texts stripped nonblank (.inr ⟨[], rfl⟩) true) (fun items => ?_)
    (by simp [Apart])
  refine Spec.bind spec_section_path (fun path => ?_) (by simp [Apart])
  split
  · exact spec_throw _
  · exact spec_pure _

end Conveyor.Config

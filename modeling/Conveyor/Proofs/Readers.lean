import Mathlib
import Conveyor.Proofs.Addresses

/-!
# Readers of configuration sections, by the fields they read

A reader of a configuration section reads some keys as values, opens some as nested sections
read by a reader of their own, and opens some as lists of sections each read by the same
reader. `Field` lists this, key by key in the order read, and `Spec` says what follows for a
reader on a section where none of its keys has been touched yet:

* `replay`: a successful reading is a run of effects at the fields' keys, and reading again a
  section whose mapping holds the values this run left gives the same result, with effects
  that echo these;
* `opens`: at every address the fields locate where the mapping holds a mapping, the reading
  leaves that mapping opened as a fresh section, read at the keys the address has;
* `frame`: an entry the reader never reads, added to any mapping on the way, changes neither
  the result nor anything but that entry.

The three hold of each primitive reader, and they carry over a bind (`Spec.bind`), a nested
section (`spec_read_nested`) and a list of sections (`spec_read_items`); each reader of a run
configuration gets its `Spec` from these alone.

This module states `Spec` and its combinators; the readers themselves follow in
`ValueReaders`, `NestedReaders` and `ListReaders`.
-/

namespace Conveyor.Config

set_option autoImplicit false

open Conveyor.Text

/-! ## Trimmed text -/

theorem drop_while_rdrop_while_drop_while (p : Char → Bool) (l : List Char) :
    ((l.dropWhile p).rdropWhile p).dropWhile p = (l.dropWhile p).rdropWhile p := by
  obtain ⟨rest, split⟩ := List.rdropWhile_prefix p (l.dropWhile p)
  cases kept : (l.dropWhile p).rdropWhile p with
  | nil => rfl
  | cons x xs =>
    rw [kept] at split
    have nonempty : l.dropWhile p ≠ [] := by
      rw [← split]
      simp
    have first := List.head_dropWhile_not p nonempty
    simp only [← split, List.cons_append, List.head_cons] at first
    exact List.dropWhile_cons_of_neg (by simp [first])

@[simp] theorem strip_strip (s : String) : strip (strip s) = strip s := by
  have rdrop : ∀ l : List Char, (l.reverse.dropWhile isBlank).reverse = l.rdropWhile isBlank :=
    fun _ => rfl
  unfold strip
  rw [String.toList_ofList, rdrop, rdrop, drop_while_rdrop_while_drop_while,
    List.rdropWhile_idempotent]

/-! ## Fields -/

/-- What a reader reads at one key of its section: a value, a nested section read by the
inner fields, or a list of sections each read by the inner fields. -/
inductive Field where
  | value (key : String)
  | child (key : String) (inner : List Field)
  | items (key : String) (inner : List Field)

def Field.key : Field → String
  | value key | child key _ | items key _ => key

def Field.Reads : Field → Effect → Prop
  | .value key, .value key' _ => key' = key
  | .child key _, .child key' _ => key' = key
  | .items key _, .items key' _ => key' = key
  | _, _ => False

theorem Field.Reads.key_eq {f : Field} {e : Effect} (reads : f.Reads e) : e.key = f.key := by
  cases f <;> cases e <;> first | exact reads | cases reads

theorem keys_of_reads {fields : List Field} {effects : List Effect}
    (reads : List.Forall₂ Field.Reads fields effects) : effects.map Effect.key = fields.map Field.key := by
  induction reads with
  | nil => rfl
  | cons head _ ih => rw [List.map_cons, List.map_cons, head.key_eq, ih]

def Fresh (fields : List Field) (s : Section) : Prop :=
  ∀ f ∈ fields, f.key ∉ s.consumed ∧ s.effective.lookup f.key = none ∧
    s.children.lookup f.key = none ∧ s.items.lookup f.key = none

/-- The addresses at which a reader with these fields opens a section, each with the keys
read there: the section itself, and the addresses inside the nested sections and the items
of the lists of sections it opens. -/
inductive Locates : List Field → List Step → List String → Prop
  | here (fields : List Field) : Locates fields [] (fields.map Field.key)
  | child {fields : List Field} {key : String} {inner : List Field} {rest : List Step}
      {keys : List String} :
      .child key inner ∈ fields → Locates inner rest keys → Locates fields (.child key :: rest) keys
  | item {fields : List Field} {key : String} {inner : List Field} (i : Nat) {rest : List Step}
      {keys : List String} :
      .items key inner ∈ fields → Locates inner rest keys → Locates fields (.item key i :: rest) keys

/-- Where an entry may be added without a reader with these fields ever reading it: through
a key the reader leaves alone, or through a section it opens where that section's reader
would not read it either; at the end, under a key the reader does not read. -/
def Admissible : List Field → List Step → Value → Prop
  | fields, [], k => ∀ f ∈ fields, k ≠ .str f.key
  | fields, .child key :: rest, k =>
    (∀ f ∈ fields, f.key ≠ key) ∨ ∃ inner, .child key inner ∈ fields ∧ Admissible inner rest k
  | fields, .item key _ :: rest, k =>
    (∀ f ∈ fields, f.key ≠ key) ∨ ∃ inner, .items key inner ∈ fields ∧ Admissible inner rest k

/-- What a reader does, read off its fields: see the module's introduction. -/
structure Spec {α : Type} (fields : List Field) (m : Reading α) : Prop where
  replay : ∀ s a t, Fresh fields s → m s = .ok (a, t) →
    ∃ effects, t = s.afterAll effects ∧ List.Forall₂ Field.Reads fields effects ∧
      (∀ e ∈ effects, e.Leaves) ∧
      ∀ s', Fresh fields s' → s'.path = s.path →
        (∀ e ∈ effects, s'.data.lookup e.key = some e.form) →
        ∃ effects', m s' = .ok (a, s'.afterAll effects') ∧ List.Forall₂ Effect.Echo effects effects'
  opens : ∀ s a t, Fresh fields s → m s = .ok (a, t) →
    ∀ step rest keys, Locates fields (step :: rest) keys →
    ∀ x es, (Value.object s.data).valueAt (step :: rest) = some x → x.entries? = some es →
      ∃ effects, t.sectionAt (step :: rest) =
          some ((Section.ofEntries es (dottedPath s.path (step :: rest))).afterAll effects) ∧
        effects.map Effect.key = keys
  frame : ∀ s a t, Fresh fields s → m s = .ok (a, t) →
    ∀ p k v, Admissible fields p k → s.Reaches p → m (s.addAt p k v) = .ok (a, t.addAt p k v)

/-! ## Running readers -/

theorem bind_ok {α β : Type} {m : Reading α} {f : α → Reading β} {s t : Section} {a : α}
    (h : m s = .ok (a, t)) : (m >>= f) s = f a t := by
  show StateT.bind m f s = _
  simp only [StateT.bind, h]
  rfl

theorem bind_eq_ok {α β : Type} {m : Reading α} {f : α → Reading β} {s u : Section} {b : β}
    (h : (m >>= f) s = .ok (b, u)) : ∃ a t, m s = .ok (a, t) ∧ f a t = .ok (b, u) := by
  cases found : m s with
  | error e =>
    change StateT.bind m f s = _ at h
    simp only [StateT.bind, found] at h
    cases h
  | ok r =>
    obtain ⟨a, t⟩ := r
    exact ⟨a, t, rfl, (bind_ok found).symm.trans h⟩

/-! ## Untouched keys -/

namespace Section

theorem after_of_ne (s : Section) (e : Effect) {K : String} (differs : e.key ≠ K) :
    (K ∈ (s.after e).consumed ↔ K ∈ s.consumed) ∧
      (s.after e).effective.lookup K = s.effective.lookup K ∧
      (s.after e).children.lookup K = s.children.lookup K ∧
      (s.after e).items.lookup K = s.items.lookup K := by
  cases e with
  | value key y =>
    have other : K ≠ key := Ne.symm differs
    simp only [after, consume_eq, record_eq, consumed_mk, effective_mk, children_mk,
      items_mk, lookup_assoc_set_of_ne _ _ other, and_true]
    split <;> simp [other]
  | child key inner =>
    have other : K ≠ key := Ne.symm differs
    simp only [after, consume_eq, with_children_eq, consumed_mk, effective_mk, children_mk,
      items_mk, lookup_assoc_set_of_ne _ _ other, and_true]
    split <;> simp [other]
  | items key inner =>
    have other : K ≠ key := Ne.symm differs
    simp only [after, consume_eq, with_items_eq, consumed_mk, effective_mk, children_mk,
      items_mk, lookup_assoc_set_of_ne _ _ other, and_true]
    split <;> simp [other]

end Section

variable {fields first second : List Field} {s : Section}

theorem Fresh.left (fresh : Fresh (first ++ second) s) : Fresh first s :=
  fun f mem => fresh f (List.mem_append_left _ mem)

theorem Fresh.right (fresh : Fresh (first ++ second) s) : Fresh second s :=
  fun f mem => fresh f (List.mem_append_right _ mem)

theorem Fresh.after_all (fresh : Fresh fields s) {effects : List Effect}
    (apart : ∀ e ∈ effects, ∀ f ∈ fields, e.key ≠ f.key) : Fresh fields (s.afterAll effects) := by
  induction effects generalizing s with
  | nil => exact fresh
  | cons e rest ih =>
    rw [Section.after_all_cons]
    refine ih (fun f mem => ?_) fun e' mem' => apart e' (List.mem_cons_of_mem _ mem')
    obtain ⟨consumed, effective, children, items⟩ :=
      s.after_of_ne e (apart e List.mem_cons_self f mem)
    obtain ⟨unread, unrecorded, unopened, unlisted⟩ := fresh f mem
    exact ⟨fun read => unread (consumed.mp read), effective.trans unrecorded,
      children.trans unopened, items.trans unlisted⟩

theorem fresh_of_unread (unread : s.Unread) (fields : List Field) : Fresh fields s := by
  intro f _
  simp [unread.consumed, unread.effective, unread.children, unread.items]

@[simp] theorem reaches_after_all (effects : List Effect) (p : List Step) :
    (s.afterAll effects).Reaches p ↔ s.Reaches p := by
  cases p with
  | nil => exact Iff.rfl
  | cons step rest => simp only [Section.Reaches, Section.data_after_all]

theorem Locates.key_mem {step : Step} {rest : List Step} {keys : List String}
    (locates : Locates fields (step :: rest) keys) : step.key ∈ fields.map Field.key := by
  cases locates with
  | child mem _ => exact List.mem_map_of_mem (f := Field.key) mem
  | item i mem _ => exact List.mem_map_of_mem (f := Field.key) mem

theorem Locates.of_append {step : Step} {rest : List Step} {keys : List String}
    (locates : Locates (first ++ second) (step :: rest) keys) :
    Locates first (step :: rest) keys ∨ Locates second (step :: rest) keys := by
  cases locates with
  | child mem below =>
    rcases List.mem_append.mp mem with inFirst | inSecond
    · exact .inl (.child inFirst below)
    · exact .inr (.child inSecond below)
  | item i mem below =>
    rcases List.mem_append.mp mem with inFirst | inSecond
    · exact .inl (.item i inFirst below)
    · exact .inr (.item i inSecond below)

def Apart (first second : List Field) : Prop :=
  ∀ x ∈ first, ∀ y ∈ second, x.key ≠ y.key

instance (first second : List Field) : Decidable (Apart first second) := by
  unfold Apart
  infer_instance

theorem Admissible.split {p : List Step} {k : Value} (apart : Apart first second)
    (admissible : Admissible (first ++ second) p k) : Admissible first p k ∧ Admissible second p k := by
  cases p with
  | nil =>
    exact ⟨fun f mem => admissible f (List.mem_append_left _ mem),
      fun f mem => admissible f (List.mem_append_right _ mem)⟩
  | cons step rest =>
    cases step with
    | child key =>
      rcases admissible with elsewhere | ⟨inner, mem, below⟩
      · exact ⟨.inl fun f mem => elsewhere f (List.mem_append_left _ mem),
          .inl fun f mem => elsewhere f (List.mem_append_right _ mem)⟩
      · rcases List.mem_append.mp mem with inFirst | inSecond
        · exact ⟨.inr ⟨inner, inFirst, below⟩, .inl fun f mem' => Ne.symm (apart _ inFirst f mem')⟩
        · exact ⟨.inl fun f mem' => apart f mem' _ inSecond, .inr ⟨inner, inSecond, below⟩⟩
    | item key i =>
      rcases admissible with elsewhere | ⟨inner, mem, below⟩
      · exact ⟨.inl fun f mem => elsewhere f (List.mem_append_left _ mem),
          .inl fun f mem => elsewhere f (List.mem_append_right _ mem)⟩
      · rcases List.mem_append.mp mem with inFirst | inSecond
        · exact ⟨.inr ⟨inner, inFirst, below⟩, .inl fun f mem' => Ne.symm (apart _ inFirst f mem')⟩
        · exact ⟨.inl fun f mem' => apart f mem' _ inSecond, .inr ⟨inner, inSecond, below⟩⟩

theorem apart_of_keys {effects : List Effect} (keys : effects.map Effect.key = first.map Field.key)
    (apart : Apart first second) : ∀ e ∈ effects, ∀ f ∈ second, e.key ≠ f.key := by
  intro e mem f memF
  have inFirst : e.key ∈ first.map Field.key := keys ▸ List.mem_map_of_mem (f := Effect.key) mem
  obtain ⟨x, memX, same⟩ := List.mem_map.mp inFirst
  exact same ▸ apart x memX f memF

/-! ## Combining readers -/

theorem Spec.bind {α β : Type} {m : Reading α} {f : α → Reading β} (firstSpec : Spec first m)
    (secondSpec : ∀ a, Spec second (f a)) (apart : Apart first second) :
    Spec (first ++ second) (m >>= f) where
  replay := by
    intro s b u fresh run
    obtain ⟨a, t, runFirst, runSecond⟩ := bind_eq_ok run
    obtain ⟨effects, rfl, reads, leaves, again⟩ := firstSpec.replay s a t fresh.left runFirst
    obtain ⟨later, rfl, laterReads, laterLeaves, laterAgain⟩ := (secondSpec a).replay _ b u
      (fresh.right.after_all (apart_of_keys (keys_of_reads reads) apart)) runSecond
    refine ⟨effects ++ later, by rw [Section.after_all_append], List.rel_append reads laterReads, ?_, ?_⟩
    · intro e mem
      rcases List.mem_append.mp mem with early | late
      exacts [leaves e early, laterLeaves e late]
    · intro s' fresh' path' found
      obtain ⟨effects', run', echo⟩ :=
        again s' fresh'.left path' fun e mem => found e (List.mem_append_left _ mem)
      have keys' : effects'.map Effect.key = first.map Field.key :=
        (keys_echo echo).trans (keys_of_reads reads)
      obtain ⟨later', laterRun', laterEcho⟩ := laterAgain (s'.afterAll effects')
        (fresh'.right.after_all (apart_of_keys keys' apart)) (by simp [path'])
        fun e mem => by
          rw [Section.data_after_all]
          exact found e (List.mem_append_right _ mem)
      exact ⟨effects' ++ later', by rw [bind_ok run', laterRun', Section.after_all_append],
        List.rel_append echo laterEcho⟩
  opens := by
    intro s b u fresh run step rest keys locates x es found mapping
    obtain ⟨a, t, runFirst, runSecond⟩ := bind_eq_ok run
    obtain ⟨effects, rfl, reads, -, -⟩ := firstSpec.replay s a t fresh.left runFirst
    have freshLater := fresh.right.after_all (apart_of_keys (keys_of_reads reads) apart)
    obtain ⟨later, rfl, laterReads, -, -⟩ := (secondSpec a).replay _ b u freshLater runSecond
    rcases locates.of_append with inFirst | inSecond
    · obtain ⟨inner, opened, innerKeys⟩ :=
        firstSpec.opens s a _ fresh.left runFirst step rest keys inFirst x es found mapping
      refine ⟨inner, ?_, innerKeys⟩
      rw [Section.section_at_after_all_of_ne _ _ _ _ ?_, opened]
      intro e mem
      obtain ⟨y, memY, same⟩ := List.mem_map.mp inFirst.key_mem
      have inLater : e.key ∈ second.map Field.key :=
        keys_of_reads laterReads ▸ List.mem_map_of_mem (f := Effect.key) mem
      obtain ⟨z, memZ, sameZ⟩ := List.mem_map.mp inLater
      rw [← same, ← sameZ]
      exact apart y memY z memZ
    · obtain ⟨inner, opened, innerKeys⟩ := (secondSpec a).opens _ b _ freshLater runSecond step rest
        keys inSecond x es (by rwa [Section.data_after_all]) mapping
      rw [Section.path_after_all] at opened
      exact ⟨inner, opened, innerKeys⟩
  frame := by
    intro s b u fresh run p k v admissible reaches
    obtain ⟨a, t, runFirst, runSecond⟩ := bind_eq_ok run
    obtain ⟨effects, rfl, reads, -, -⟩ := firstSpec.replay s a t fresh.left runFirst
    obtain ⟨early, late⟩ := admissible.split apart
    rw [bind_ok (firstSpec.frame s a _ fresh.left runFirst p k v early reaches)]
    exact (secondSpec a).frame _ b u (fresh.right.after_all (apart_of_keys (keys_of_reads reads) apart))
      runSecond
      p k v late ((reaches_after_all _ _).mpr reaches)

theorem spec_stateless {α : Type} {m : Reading α} (answer : String → Except SettingsError α)
    (answers : ∀ s, m s = (answer s.path).map fun a => (a, s)) : Spec [] m where
  replay := by
    intro s a t _ run
    rw [answers] at run
    cases found : answer s.path with
    | error e => simp [found, Except.map] at run
    | ok b =>
      simp only [found, Except.map, Except.ok.injEq, Prod.mk.injEq] at run
      obtain ⟨rfl, rfl⟩ := run
      refine ⟨[], rfl, .nil, by simp, fun s' _ path' _ => ⟨[], ?_, .nil⟩⟩
      rw [answers, path', found]
      rfl
  opens := by
    intro s a t _ _ step rest keys locates
    cases locates with
    | child mem => cases mem
    | item i mem => cases mem
  frame := by
    intro s a t _ run p k v _ _
    rw [answers] at run ⊢
    rw [Section.path_add_at]
    cases found : answer s.path with
    | error e => simp [found, Except.map] at run
    | ok b =>
      simp only [found, Except.map, Except.ok.injEq, Prod.mk.injEq] at run ⊢
      obtain ⟨rfl, rfl⟩ := run
      exact ⟨rfl, rfl⟩

theorem spec_pure {α : Type} (a : α) : Spec [] (pure a : Reading α) :=
  spec_stateless (fun _ => .ok a) fun _ => rfl

theorem spec_throw {α : Type} (e : SettingsError) : Spec [] (throw e : Reading α) :=
  spec_stateless (fun _ => .error e) fun _ => rfl

theorem spec_section_path : Spec [] sectionPath :=
  spec_stateless .ok fun _ => rfl

theorem Spec.ite {α : Type} {c : Prop} [Decidable c] {m₁ m₂ : Reading α} (first : Spec fields m₁)
    (second : Spec fields m₂) : Spec fields (if c then m₁ else m₂) := by
  split
  · exact first
  · exact second

theorem Spec.guard {α : Type} {c : Prop} [Decidable c] (e : SettingsError) {m : Reading α}
    (spec : Spec fields m) : Spec fields (if c then (throw e : Reading PUnit) >>= fun _ => m else m) :=
  Spec.ite (Spec.bind (spec_throw e) (fun _ => spec) (by simp [Apart])) spec

end Conveyor.Config

import Conveyor.Proofs.ValueReaders

/-!
# Readers of nested sections

A nested section is opened over the mapping found at its key, or over the default, read by
its own reader and hung under the key. Reading it again over the effective values it left
replays the same reads (`Spec.reread`), and `spec_read_nested` gives the nested reader its
`Spec` from the inner one.
-/

namespace Conveyor.Config

set_option autoImplicit false

open Conveyor.Text

variable {fields first second : List Field} {s : Section}

theorem assoc_set_assoc_set {β : Type} (xs : List (String × β)) (key : String) (a b : β) :
    assocSet (assocSet xs key a) key b = assocSet xs key b := by
  unfold assocSet
  split
  · rename_i present
    have still : ((xs.map fun entry => if entry.1 == key then (key, a) else entry).any
        fun entry => entry.1 == key) = true := by
      obtain ⟨entry, mem, same⟩ := List.any_eq_true.mp present
      exact List.any_eq_true.mpr ⟨(key, a), List.mem_map.mpr ⟨entry, mem, if_pos same⟩, by simp⟩
    rw [if_pos still, List.map_map]
    congr 1
    funext entry
    by_cases same : entry.1 = key <;> simp [same]
  · rename_i absent
    have now : ((xs ++ [(key, a)]).any fun entry => entry.1 == key) = true := by simp
    rw [if_pos now, List.map_append]
    have kept : (xs.map fun entry => if entry.1 == key then (key, b) else entry) = xs := by
      rw [List.map_congr_left (g := id), List.map_id]
      intro entry mem
      have other : entry.1 ≠ key := by
        simp only [Bool.not_eq_true, List.any_eq_false] at absent
        simpa using absent entry mem
      simp [other]
    rw [kept]
    simp

theorem read_with_eq_ok {α : Type} {f : Section → Read α} {s t : Section} {a : α} :
    readWith f s = .ok (a, t) ↔ f s = (.ok a, t) := by
  unfold readWith
  split
  · rename_i b t' found
    rw [found]
    simp
  · rename_i e t' found
    rw [found]
    simp

/-- What a nested section is opened over: the mapping found, or the default when nothing is
found; none when neither is a mapping. -/
def openedEntries (found : Value) (default : Option Value) : Option (List (Value × Value)) :=
  match found with
  | .null =>
    match default with
    | none => none
    | some .null => some []
    | some d => d.entries?
  | other => other.entries?

theorem opened_entries_of_entries {w : Value} {es : List (Value × Value)} (mapping : w.entries? = some es)
    (default : Option Value) : openedEntries w default = some es := by
  cases w <;> simp_all [openedEntries, Value.entries?]

theorem open_child_eq_ok_iff (s : Section) {K : String} (stripped : strip K = K)
    (nonblank : K.isEmpty = false) (default : Option Value) (unopened : s.children.lookup K = none)
    {k : String} {t : Section} :
    s.openChild (.str K) default = (.ok k, t) ↔
      k = K ∧ ∃ es, openedEntries ((s.data.lookup K).getD .null) default = some es ∧
        t = s.after (.child K (Section.ofEntries es (joinPath s.path K))) := by
  simp only [Section.openChild, Value.isFalsy, Section.trimKey, stripped, nonblank, unopened,
    Bool.false_eq_true, if_false]
  generalize (s.data.lookup K).getD Value.null = found
  cases found with
  | null =>
    rcases default with _ | d
    · simp [openedEntries]
    · cases d with
      | null => simp [openedEntries, Section.after, eq_comm]
      | _ => simp [openedEntries, Value.entries?, Section.after, eq_comm]
  | _ => simp [openedEntries, Value.entries?, Section.after, eq_comm]

theorem after_child_rehang (s : Section) (K : String) (first inner : Section) :
    (s.after (.child K first)).withChildren (assocSet (s.after (.child K first)).children K inner) =
      s.after (.child K inner) := by
  simp [Section.after, assoc_set_assoc_set]

theorem lookup_children_after_child (s : Section) (K : String) (inner : Section) :
    (s.after (.child K inner)).children.lookup K = some inner := by
  simp [Section.after, Section.consume_eq]

section Nested

variable {α : Type} {K : String} {default : Option Value} {m : Reading α} {s t : Section} {a : α}

theorem read_nested_eq_ok (stripped : strip K = K) (nonblank : K.isEmpty = false)
    (unopened : s.children.lookup K = none) (run : readNested K default m s = .ok (a, t)) :
    ∃ es c, openedEntries ((s.data.lookup K).getD .null) default = some es ∧
      m (Section.ofEntries es (joinPath s.path K)) = .ok (a, c) ∧ t = s.after (.child K c) := by
  obtain ⟨k, opened, runOpen, runInner⟩ := bind_eq_ok run
  obtain ⟨rfl, es, entries, rfl⟩ :=
    (open_child_eq_ok_iff s stripped nonblank default unopened).mp (read_with_eq_ok.mp runOpen)
  simp only [lookup_children_after_child, Option.getD_some] at runInner
  split at runInner
  · rename_i b c runM
    cases runInner
    exact ⟨es, c, entries, runM, (after_child_rehang _ _ _ _)⟩
  · cases runInner

theorem read_nested_of_open {start c : Section}
    (opened : s.openChild (.str K) default = (.ok K, s.after (.child K start)))
    (runInner : m start = .ok (a, c)) : readNested K default m s = .ok (a, s.after (.child K c)) := by
  unfold readNested
  rw [bind_ok (read_with_eq_ok.mpr opened)]
  simp only [lookup_children_after_child, Option.getD_some, runInner]
  rw [after_child_rehang]

end Nested

theorem value_effect_of_reads {fields : List Field} {effects : List Effect}
    (reads : List.Forall₂ Field.Reads fields effects) {key : String} (mem : Field.value key ∈ fields) :
    ∃ y, Effect.value key y ∈ effects := by
  induction reads with
  | nil => cases mem
  | @cons f e fields effects head _ ih =>
    rcases List.mem_cons.mp mem with rfl | later
    · cases e with
      | value key' y =>
        cases head
        exact ⟨y, List.mem_cons_self⟩
      | _ => cases head
    · obtain ⟨y, found⟩ := ih later
      exact ⟨y, List.mem_cons_of_mem _ found⟩

namespace Section

theorem keys_effective_values_after_all (s : Section) (effects : List Effect) (unread : s.Unread)
    (distinct : (effects.map Effect.key).Nodup) {entry : String × Value}
    (mem : entry ∈ effectiveValues (s.afterAll effects)) : entry.1 ∈ effects.map Effect.key := by
  rw [effective_values_after_all s effects unread distinct, List.filterMap_filterMap,
    List.map_filterMap] at mem
  rcases List.mem_append.mp mem with early | late
  · rcases List.mem_append.mp early with recorded | hung
    · obtain ⟨e, memE, found⟩ := List.mem_filterMap.mp recorded
      exact Effect.key_of_recorded? found ▸ List.mem_map_of_mem memE
    · obtain ⟨e, memE, found⟩ := List.mem_filterMap.mp hung
      exact child_entry_keyed e entry found ▸ List.mem_map_of_mem memE
  · obtain ⟨e, memE, found⟩ := List.mem_filterMap.mp late
    exact items_entry_keyed e entry found ▸ List.mem_map_of_mem memE

theorem of_entries_object {fields : List (String × Value)} {es : List (Value × Value)}
    (entries : (Value.object fields).entries? = some es) (path : String) :
    (ofEntries es path).data = fields ∧ (ofEntries es path).others = [] := by
  cases entries
  simp [of_entries_eq, Value.split_keys_fields]

end Section

theorem clean_of_echo {effects effects' : List Effect} (echo : List.Forall₂ Effect.Echo effects effects')
    {e : Effect} (mem : e ∈ effects') : e.Clean := by
  induction echo with
  | nil => cases mem
  | cons head _ ih =>
    rcases List.mem_cons.mp mem with rfl | later
    · exact head.clean
    · exact ih later

section Reread

variable {α : Type} {inner : List Field} {m : Reading α}

/-- A reader of a nested section, run on a fresh section, leaves effective values that read
again as the same result, leave the same effective values and pass the final check. -/
theorem Spec.reread (spec : Spec inner m) (distinct : (inner.map Field.key).Nodup)
    {es : List (Value × Value)} {path : String} {a : α} {c : Section}
    (run : m (Section.ofEntries es path) = .ok (a, c)) {es' : List (Value × Value)}
    (entries : (Value.object (Section.effectiveValues c)).entries? = some es') :
    ∃ c', m (Section.ofEntries es' path) = .ok (a, c') ∧
      Section.effectiveValues c' = Section.effectiveValues c ∧ c'.assertConsumed = .ok () := by
  have unread := Section.unread_of_entries es path
  have unread' := Section.unread_of_entries es' path
  obtain ⟨effects, rfl, reads, leaves, again⟩ := spec.replay _ a c (fresh_of_unread unread _) run
  have nodup : (effects.map Effect.key).Nodup := keys_of_reads reads ▸ distinct
  obtain ⟨data', others'⟩ := Section.of_entries_object entries path
  obtain ⟨effects', run', echo⟩ := again _ (fresh_of_unread unread' _) rfl fun e mem => by
    rw [data']
    exact Section.lookup_effective_values_after_all _ effects unread nodup mem (leaves e mem)
  refine ⟨_, run', Section.effective_values_after_all_echo unread unread' nodup echo, ?_⟩
  refine Section.assert_consumed_after_all _ effects' unread' others' (fun entry mem => ?_)
    (keys_echo echo ▸ nodup) fun e mem => ?_
  · rw [keys_echo echo]
    rw [data'] at mem
    exact Section.keys_effective_values_after_all _ effects unread nodup mem
  · exact clean_of_echo echo mem

theorem Spec.effective_ne_nil (spec : Spec inner m) (distinct : (inner.map Field.key).Nodup)
    {key : String} (records : Field.value key ∈ inner) {es : List (Value × Value)} {path : String}
    {a : α} {c : Section} (run : m (Section.ofEntries es path) = .ok (a, c)) :
    Section.effectiveValues c ≠ [] := by
  have unread := Section.unread_of_entries es path
  obtain ⟨effects, rfl, reads, -, -⟩ := spec.replay _ a c (fresh_of_unread unread _) run
  obtain ⟨y, mem⟩ := value_effect_of_reads reads records
  have found := Section.lookup_effective_values_after_all _ effects unread
    (keys_of_reads reads ▸ distinct) mem trivial
  intro empty
  rw [empty] at found
  cases found

end Reread

theorem admissible_child_cases {K : String} {inner : List Field} {p : List Step} {k : Value}
    (admissible : Admissible [.child K inner] p k) :
    Section.Clear K p k ∨ ∃ rest, p = .child K :: rest ∧ Admissible inner rest k := by
  cases p with
  | nil => exact .inl (admissible _ List.mem_cons_self)
  | cons step rest =>
    cases step with
    | child key =>
      rcases admissible with elsewhere | ⟨inner', mem, below⟩
      · exact .inl (Ne.symm (elsewhere _ List.mem_cons_self))
      · simp only [List.mem_singleton, Field.child.injEq] at mem
        obtain ⟨rfl, rfl⟩ := mem
        exact .inr ⟨rest, rfl, below⟩
    | item key i =>
      rcases admissible with elsewhere | ⟨inner', mem, -⟩
      · exact .inl (Ne.symm (elsewhere _ List.mem_cons_self))
      · simp at mem

theorem admissible_items_cases {K : String} {inner : List Field} {p : List Step} {k : Value}
    (admissible : Admissible [.items K inner] p k) :
    Section.Clear K p k ∨ ∃ i rest, p = .item K i :: rest ∧ Admissible inner rest k := by
  cases p with
  | nil => exact .inl (admissible _ List.mem_cons_self)
  | cons step rest =>
    cases step with
    | child key =>
      rcases admissible with elsewhere | ⟨inner', mem, -⟩
      · exact .inl (Ne.symm (elsewhere _ List.mem_cons_self))
      · simp at mem
    | item key i =>
      rcases admissible with elsewhere | ⟨inner', mem, below⟩
      · exact .inl (Ne.symm (elsewhere _ List.mem_cons_self))
      · simp only [List.mem_singleton, Field.items.injEq] at mem
        obtain ⟨rfl, rfl⟩ := mem
        exact .inr ⟨i, rest, rfl, below⟩

theorem locates_child {K : String} {inner : List Field} {step : Step} {rest : List Step}
    {keys : List String} (locates : Locates [.child K inner] (step :: rest) keys) :
    step = .child K ∧ Locates inner rest keys := by
  cases locates with
  | child mem below =>
    simp only [List.mem_singleton, Field.child.injEq] at mem
    obtain ⟨rfl, rfl⟩ := mem
    exact ⟨rfl, below⟩
  | item i mem => simp at mem

theorem locates_items {K : String} {inner : List Field} {step : Step} {rest : List Step}
    {keys : List String} (locates : Locates [.items K inner] (step :: rest) keys) :
    ∃ i, step = .item K i ∧ Locates inner rest keys := by
  cases locates with
  | child mem => simp at mem
  | item i mem below =>
    simp only [List.mem_singleton, Field.items.injEq] at mem
    obtain ⟨rfl, rfl⟩ := mem
    exact ⟨i, rfl, below⟩

theorem Locates.nil_keys {fields : List Field} {keys : List String} (locates : Locates fields [] keys) :
    keys = fields.map Field.key := by
  cases locates
  rfl

theorem spec_read_nested {α : Type} {K : String} (stripped : strip K = K) (nonblank : K.isEmpty = false)
    (default : Option Value) {inner : List Field} {m : Reading α} (spec : Spec inner m)
    (distinct : (inner.map Field.key).Nodup) {key : String} (records : Field.value key ∈ inner) :
    Spec [.child K inner] (readNested K default m) where
  replay := by
    intro s a t fresh run
    have unopened : s.children.lookup K = none := (fresh (.child K inner) List.mem_cons_self).2.2.1
    obtain ⟨es, c, -, runInner, rfl⟩ := read_nested_eq_ok stripped nonblank unopened run
    refine ⟨[.child K c], rfl, .cons rfl .nil, ?_, ?_⟩
    · intro e mem
      rw [List.mem_singleton] at mem
      subst mem
      exact spec.effective_ne_nil distinct records runInner
    · intro s' fresh' path' found
      have unopened' : s'.children.lookup K = none :=
        (fresh' (.child K inner) List.mem_cons_self).2.2.1
      have foundK : s'.data.lookup K = some (.object (Section.effectiveValues c)) :=
        found (.child K c) List.mem_cons_self
      obtain ⟨es', entries⟩ : ∃ es', (Value.object (Section.effectiveValues c)).entries? = some es' :=
        ⟨_, rfl⟩
      obtain ⟨c', runInner', same, clean⟩ := spec.reread distinct runInner entries
      have opened : s'.openChild (.str K) default =
          (.ok K, s'.after (.child K (Section.ofEntries es' (joinPath s'.path K)))) := by
        rw [open_child_eq_ok_iff s' stripped nonblank default unopened', foundK]
        exact ⟨rfl, es', opened_entries_of_entries entries default, rfl⟩
      rw [path'] at opened
      exact ⟨[.child K c'], read_nested_of_open opened runInner', .cons (.child K same clean) .nil⟩
  opens := by
    intro s a t fresh run step rest keys locates x es found mapping
    have unopened : s.children.lookup K = none := (fresh (.child K inner) List.mem_cons_self).2.2.1
    obtain ⟨es₀, c, opened, runInner, rfl⟩ := read_nested_eq_ok stripped nonblank unopened run
    obtain ⟨rfl, below⟩ := locates_child locates
    simp only [Value.valueAt, Value.entry_at_object, Option.bind_eq_some_iff] at found
    obtain ⟨w, atKey, inside⟩ := found
    rw [Section.section_at_after_child]
    cases rest with
    | nil =>
      cases inside
      rw [atKey, Option.getD_some, opened_entries_of_entries mapping] at opened
      cases opened
      have unread := Section.unread_of_entries es (joinPath s.path K)
      obtain ⟨effects, rfl, reads, -, -⟩ := spec.replay _ a c (fresh_of_unread unread _) runInner
      exact ⟨effects, rfl, (keys_of_reads reads).trans below.nil_keys.symm⟩
    | cons next more =>
      obtain ⟨esw, mappingW⟩ := Value.entries?_of_value_at_cons inside
      rw [atKey, Option.getD_some, opened_entries_of_entries mappingW] at opened
      cases opened
      exact spec.opens _ a c (fresh_of_unread (Section.unread_of_entries _ _) _) runInner next more
        keys below x es ((Section.value_at_of_entries_data mappingW _ next more).trans inside) mapping
  frame := by
    intro s a t fresh run p k v admissible reaches
    have unopened : s.children.lookup K = none := (fresh (.child K inner) List.mem_cons_self).2.2.1
    obtain ⟨es, c, opened, runInner, rfl⟩ := read_nested_eq_ok stripped nonblank unopened run
    rcases admissible_child_cases admissible with clear | ⟨rest, rfl, below⟩
    · -- the entry is added away from the nested section: it opens and reads the same
      have opened' : (s.addAt p k v).openChild (.str K) default =
          (.ok K, (s.addAt p k v).after (.child K (Section.ofEntries es (joinPath s.path K)))) := by
        rw [open_child_eq_ok_iff _ stripped nonblank default
          (by rw [Section.lookup_children_add_at clear]; exact unopened)]
        exact ⟨rfl, es, by rwa [Section.lookup_data_add_at clear], by rw [Section.path_add_at]⟩
      rw [Section.add_at_after s (.child K c) clear]
      exact read_nested_of_open opened' runInner
    · -- the entry is added inside the nested section, which then opens with it
      obtain ⟨w, esw, atKey, mappingW, reachesBelow⟩ := reaches.child
      rw [atKey, Option.getD_some, opened_entries_of_entries mappingW] at opened
      cases opened
      obtain ⟨es', entries', startAdded⟩ :=
        Section.of_entries_add_at mappingW rest k v (joinPath s.path K)
      have opened' : (s.addAt (.child K :: rest) k v).openChild (.str K) default =
          (.ok K, (s.addAt (.child K :: rest) k v).after
            (.child K ((Section.ofEntries es (joinPath s.path K)).addAt rest k v))) := by
        rw [open_child_eq_ok_iff _ stripped nonblank default
          (by rw [Section.lookup_children_add_at_child, unopened]; rfl)]
        refine ⟨rfl, es', ?_, by rw [Section.path_add_at, startAdded]⟩
        rw [Section.lookup_data_add_at_child, atKey]
        exact opened_entries_of_entries entries' default
      rw [Section.add_at_after_child]
      exact read_nested_of_open opened' (spec.frame _ a c (fresh_of_unread (Section.unread_of_entries _ _) _)
        runInner rest k v below (reachesBelow _))

end Conveyor.Config

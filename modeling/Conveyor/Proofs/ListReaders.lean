import Conveyor.Proofs.NestedReaders

/-!
# Readers of lists of sections

A list of sections is opened item by item, each item a mapping read by the same reader at the
path with its index (`itemSection`). `ItemsRead` follows the items and what each reading
handed back side by side, and `spec_read_items` gives the list reader its `Spec`.
-/

namespace Conveyor.Config

set_option autoImplicit false

open Conveyor.Text

variable {fields first second : List Field} {s : Section}

theorem forall₂_of_map_m_eq_ok {β γ ε : Type} {f : β → Except ε γ} {l : List β} {cs : List γ}
    (run : l.mapM f = .ok cs) : List.Forall₂ (fun x c => f x = .ok c) l cs := by
  induction l generalizing cs with
  | nil =>
    cases run
    exact .nil
  | cons x rest ih =>
    rw [List.mapM_cons] at run
    cases found : f x with
    | error e => simp [found, bind, Except.bind] at run
    | ok c =>
      cases later : rest.mapM f with
      | error e => simp [found, later, bind, Except.bind] at run
      | ok cs' =>
        simp only [found, later, bind, Except.bind, pure, Except.pure, Except.ok.injEq] at run
        subst run
        exact .cons found (ih later)

theorem map_m_eq_ok_of_forall₂ {β γ ε : Type} {f : β → Except ε γ} {l : List β} {cs : List γ}
    (related : List.Forall₂ (fun x c => f x = .ok c) l cs) : l.mapM f = .ok cs := by
  induction related with
  | nil => rfl
  | cons head _ ih =>
    rw [List.mapM_cons, head, ih]
    rfl

theorem forall₂_of_read_each_eq_ok {α : Type} {m : Reading α} {l : List Section} {as : List α}
    {cs : List Section} (run : readEach m l = .ok (as, cs)) :
    ∃ rs, List.Forall₂ (fun c r => m c = .ok r) l rs ∧ rs.map Prod.fst = as ∧ rs.map Prod.snd = cs := by
  induction l generalizing as cs with
  | nil =>
    cases run
    exact ⟨[], .nil, rfl, rfl⟩
  | cons c rest ih =>
    simp only [readEach] at run
    cases found : m c with
    | error e => simp [found, bind, Except.bind] at run
    | ok r =>
      obtain ⟨a, c2⟩ := r
      cases later : readEach m rest with
      | error e => simp [found, later, bind, Except.bind] at run
      | ok pair =>
        obtain ⟨as', cs'⟩ := pair
        simp only [found, later, bind, Except.bind, pure, Except.pure, Except.ok.injEq,
          Prod.mk.injEq] at run
        obtain ⟨rfl, rfl⟩ := run
        obtain ⟨rs, related, rfl, rfl⟩ := ih later
        exact ⟨(a, c2) :: rs, .cons found related, rfl, rfl⟩

theorem read_each_eq_ok_of_forall₂ {α : Type} {m : Reading α} {l : List Section}
    {rs : List (α × Section)} (related : List.Forall₂ (fun c r => m c = .ok r) l rs) :
    readEach m l = .ok (rs.map Prod.fst, rs.map Prod.snd) := by
  induction related with
  | nil => rfl
  | cons head _ ih =>
    simp only [readEach, head, ih]
    rfl

def itemSection (path : String) (item : Value × Nat) : Except ConfigError Section :=
  match item.1.entries? with
  | some d => .ok (Section.ofEntries d (path ++ "[" ++ toString item.2 ++ "]"))
  | none => .error (.itemNotSection (path ++ "[" ++ toString item.2 ++ "]") item.1.kindName)

section SectionList

variable (s : Section) {K : String} (stripped : strip K = K) (nonblank : K.isEmpty = false)
include stripped nonblank

theorem section_list_eq_ok {n : Nat} {t : Section}
    (run : s.sectionList (.str K) none false = (.ok n, t)) :
    ((s.children.lookup K).isSome || (s.items.lookup K).isSome) = false ∧
      ∃ v xs sections, s.data.lookup K = some v ∧ (nullAsList v).sequence? = some xs ∧
        xs.zipIdx.mapM (itemSection (joinPath s.path K)) = .ok sections ∧ sections ≠ [] ∧
        t = s.after (.items K sections) := by
  change Section.sectionList.go s (.str K) none false = _ at run
  unfold Section.sectionList.go at run
  cases nested : ((s.children.lookup K).isSome || (s.items.lookup K).isSome)
  · refine ⟨rfl, ?_⟩
    cases found : s.data.lookup K with
    | none =>
      rw [raw_missing s stripped nonblank none nested (by rw [found]; rfl)] at run
      cases run
    | some v =>
      rw [raw_found s stripped nonblank none nested (by rw [found]; rfl)] at run
      simp only [stripped] at run
      cases v with
      | list items | tuple items =>
        simp only [Value.sequence?, Bool.false_eq_true, ↓reduceIte] at run
        split at run
        · cases run
        · rename_i sections built
          split at run
          · cases run
          · rename_i nonempty
            cases run
            refine ⟨_, items, sections, rfl, rfl, built, ?_, rfl⟩
            simpa using nonempty
      | null => simp [Value.sequence?, pure, Except.pure] at run
      | _ => simp [Value.sequence?] at run
  · rw [raw_nested s stripped nonblank none nested] at run
    cases run

theorem section_list_of_items {v : Value} {xs : List Value} {sections : List Section}
    (nested : ((s.children.lookup K).isSome || (s.items.lookup K).isSome) = false)
    (found : s.data.lookup K = some v) (sequence : (nullAsList v).sequence? = some xs)
    (built : xs.zipIdx.mapM (itemSection (joinPath s.path K)) = .ok sections)
    (nonempty : sections ≠ []) :
    s.sectionList (.str K) none false = (.ok sections.length, s.after (.items K sections)) := by
  change Section.sectionList.go s (.str K) none false = _
  unfold Section.sectionList.go
  rw [raw_found s stripped nonblank none nested (by rw [found]; rfl)]
  simp only [stripped]
  cases v with
  | list items | tuple items =>
    simp only [nullAsList, Value.sequence?, Option.some.injEq] at sequence
    subst sequence
    simp only [Value.sequence?, Bool.false_eq_true, ↓reduceIte]
    -- the items are read by the same function as itemSection, written in place
    split
    · rename_i e refused
      cases refused.symm.trans built
    · rename_i read accepted
      cases accepted.symm.trans built
      simp [nonempty, Section.after]
  | null =>
    simp only [nullAsList, Value.sequence?, Option.some.injEq] at sequence
    subst sequence
    cases built
    exact absurd rfl nonempty
  | _ => simp [nullAsList, Value.sequence?] at sequence

end SectionList

theorem after_items_rehang (s : Section) (K : String) (first inner : List Section) :
    (s.after (.items K first)).withItems (assocSet (s.after (.items K first)).items K inner) =
      s.after (.items K inner) := by
  simp [Section.after, assoc_set_assoc_set]

theorem lookup_items_after_items (s : Section) (K : String) (inner : List Section) :
    (s.after (.items K inner)).items.lookup K = some inner := by
  simp [Section.after, Section.consume_eq]

theorem item_section_eq_ok {path : String} {item : Value × Nat} {c : Section} :
    itemSection path item = .ok c ↔
      ∃ es, item.1.entries? = some es ∧
        c = Section.ofEntries es (path ++ "[" ++ toString item.2 ++ "]") := by
  cases entries : item.1.entries? <;> simp [itemSection, entries, eq_comm]

theorem null_as_list_of_sequence {w : Value} {xs : List Value} (sequence : w.sequence? = some xs) :
    nullAsList w = w := by
  cases w <;> first | rfl | cases sequence

/-- The items of a list of sections from a place in the list on, each a mapping that a reader
reads at its place, with the results and the sections it leaves. -/
inductive ItemsRead {α : Type} (m : Reading α) (path : String) :
    Nat → List Value → List α → List Section → Prop
  | nil (n : Nat) : ItemsRead m path n [] [] []
  | cons {n : Nat} {x : Value} {es : List (Value × Value)} {a : α} {c : Section} {xs : List Value}
      {as : List α} {cs : List Section} :
      x.entries? = some es →
      m (Section.ofEntries es (path ++ "[" ++ toString n ++ "]")) = .ok (a, c) →
      ItemsRead m path (n + 1) xs as cs → ItemsRead m path n (x :: xs) (a :: as) (c :: cs)

section Items

variable {α : Type} {m : Reading α} {path : String}

theorem items_read_of_forall₂ {n : Nat} {xs : List Value} {sections : List Section}
    {rs : List (α × Section)}
    (opened : List.Forall₂ (fun x c => itemSection path x = .ok c) (xs.zipIdx n) sections)
    (read : List.Forall₂ (fun c r => m c = .ok r) sections rs) :
    ItemsRead m path n xs (rs.map Prod.fst) (rs.map Prod.snd) := by
  induction xs generalizing n sections rs with
  | nil =>
    cases opened
    cases read
    exact .nil n
  | cons x rest ih =>
    rw [List.zipIdx_cons] at opened
    cases opened with
    | cons head tail =>
      cases read with
      | cons first later =>
        obtain ⟨es, entries, rfl⟩ := item_section_eq_ok.mp head
        exact .cons entries first (ih tail later)

theorem forall₂_of_items_read {n : Nat} {xs : List Value} {as : List α} {cs : List Section}
    (read : ItemsRead m path n xs as cs) :
    ∃ sections rs, List.Forall₂ (fun x c => itemSection path x = .ok c) (xs.zipIdx n) sections ∧
      List.Forall₂ (fun c r => m c = .ok r) sections rs ∧ rs.map Prod.fst = as ∧
      rs.map Prod.snd = cs := by
  induction read with
  | nil => exact ⟨[], [], .nil, .nil, rfl, rfl⟩
  | @cons n x es a c xs as cs entries runItem _ ih =>
    obtain ⟨sections, rs, opened, related, rfl, rfl⟩ := ih
    refine ⟨_ :: sections, (a, c) :: rs, ?_, .cons runItem related, rfl, rfl⟩
    rw [List.zipIdx_cons]
    exact .cons (item_section_eq_ok.mpr ⟨es, entries, rfl⟩) opened

theorem ItemsRead.length_eq {n : Nat} {xs : List Value} {as : List α} {cs : List Section}
    (read : ItemsRead m path n xs as cs) : cs.length = xs.length := by
  induction read with
  | nil => rfl
  | cons _ _ _ ih => simp [ih]

theorem ItemsRead.get_elem? {n : Nat} {xs : List Value} {as : List α} {cs : List Section}
    (read : ItemsRead m path n xs as cs) {i : Nat} {y : Value} (found : xs[i]? = some y) :
    ∃ es a c, y.entries? = some es ∧ cs[i]? = some c ∧
      m (Section.ofEntries es (path ++ "[" ++ toString (n + i) ++ "]")) = .ok (a, c) := by
  induction read generalizing i with
  | nil => cases found
  | @cons n x es a c xs as cs entries runItem _ ih =>
    cases i with
    | zero =>
      cases found
      exact ⟨es, a, c, entries, rfl, runItem⟩
    | succ j =>
      obtain ⟨es', a', c', entries', atJ, runJ⟩ := ih found
      rw [show n + 1 + j = n + (j + 1) by omega] at runJ
      exact ⟨es', a', c', entries', atJ, runJ⟩

/-- Read again over their effective values, the items read the same results, leave the same
effective values and pass the final check. -/
theorem ItemsRead.reread {inner : List Field} (spec : Spec inner m) (distinct : (inner.map Field.key).Nodup)
    {n : Nat} {xs : List Value} {as : List α} {cs : List Section} (read : ItemsRead m path n xs as cs) :
    ∃ cs', ItemsRead m path n (cs.map fun c => .object (Section.effectiveValues c)) as cs' ∧
      cs'.map Section.effectiveValues = cs.map Section.effectiveValues ∧
      Section.assertList cs' = .ok () := by
  induction read with
  | nil n => exact ⟨[], .nil n, rfl, rfl⟩
  | @cons n x es a c xs as cs entries runItem _ ih =>
    obtain ⟨cs', read', same, clean⟩ := ih
    obtain ⟨es', entries'⟩ : ∃ es', (Value.object (Section.effectiveValues c)).entries? = some es' :=
      ⟨_, rfl⟩
    obtain ⟨c', runItem', sameItem, cleanItem⟩ := spec.reread distinct runItem entries'
    refine ⟨c' :: cs', .cons entries' runItem' read', by simp [sameItem, same], ?_⟩
    simp only [Section.assertList, cleanItem, clean]
    rfl

theorem ItemsRead.add_at {inner : List Field} (spec : Spec inner m) {rest : List Step} {k : Value}
    (below : Admissible inner rest k) {n : Nat} {xs : List Value} {as : List α} {cs : List Section}
    (read : ItemsRead m path n xs as cs) {i : Nat} {y : Value} {es : List (Value × Value)}
    (found : xs[i]? = some y) (entries : y.entries? = some es)
    (reaches : ∀ path, (Section.ofEntries es path).Reaches rest) (v : Value) :
    ItemsRead m path n (xs.modify i (·.addAt rest k v)) as (cs.modify i (·.addAt rest k v)) := by
  induction read generalizing i with
  | nil => cases found
  | @cons n x esx a c xs as cs entriesX runItem tail ih =>
    cases i with
    | zero =>
      cases found
      rw [entries] at entriesX
      cases entriesX
      obtain ⟨es', entries', opened⟩ :=
        Section.of_entries_add_at entries rest k v (path ++ "[" ++ toString n ++ "]")
      rw [List.modify_zero_cons, List.modify_zero_cons]
      refine .cons entries' ?_ tail
      rw [opened]
      exact spec.frame _ a c (fresh_of_unread (Section.unread_of_entries _ _) _) runItem rest k v below
        (reaches _)
    | succ j =>
      rw [List.modify_succ_cons, List.modify_succ_cons]
      exact .cons entriesX runItem (ih found)

section ReadItems

variable {K : String} (stripped : strip K = K) (nonblank : K.isEmpty = false) {s t : Section}
  {as : List α}
include stripped nonblank

theorem read_items_eq_ok (run : readItems K m s = .ok (as, t)) :
    ∃ v xs cs, s.data.lookup K = some v ∧ (nullAsList v).sequence? = some xs ∧ xs ≠ [] ∧
      ItemsRead m (joinPath s.path K) 0 xs as cs ∧ t = s.after (.items K cs) := by
  obtain ⟨n, listedSection, listed, runItems⟩ := bind_eq_ok run
  obtain ⟨-, v, xs, sections, found, sequence, opened, nonempty, rfl⟩ :=
    section_list_eq_ok s stripped nonblank
      ((read_with_eq_ok (f := fun s => s.sectionList (.str K) none false)).mp listed)
  simp only [lookup_items_after_items, Option.getD_some] at runItems
  split at runItems
  · rename_i as' cs' readAll
    cases runItems
    obtain ⟨rs, related, rfl, rfl⟩ := forall₂_of_read_each_eq_ok readAll
    have openedEach := forall₂_of_map_m_eq_ok opened
    have read := items_read_of_forall₂ openedEach related
    refine ⟨v, xs, rs.map Prod.snd, found, sequence, ?_, read, after_items_rehang _ _ _ _⟩
    rintro rfl
    cases openedEach
    exact nonempty rfl
  · cases runItems

theorem read_items_of_items {v : Value} {xs : List Value} {cs : List Section}
    (nested : ((s.children.lookup K).isSome || (s.items.lookup K).isSome) = false)
    (found : s.data.lookup K = some v) (sequence : (nullAsList v).sequence? = some xs)
    (nonempty : xs ≠ []) (read : ItemsRead m (joinPath s.path K) 0 xs as cs) :
    readItems K m s = .ok (as, s.after (.items K cs)) := by
  obtain ⟨sections, rs, opened, related, rfl, rfl⟩ := forall₂_of_items_read read
  have sectionsNonempty : sections ≠ [] := by
    rintro rfl
    cases xs with
    | nil => exact nonempty rfl
    | cons x rest => cases opened
  have listed := section_list_of_items s stripped nonblank nested found sequence
    (map_m_eq_ok_of_forall₂ opened) sectionsNonempty
  unfold readItems
  rw [bind_ok ((read_with_eq_ok (f := fun s => s.sectionList (.str K) none false)).mpr listed)]
  simp only [lookup_items_after_items, Option.getD_some, read_each_eq_ok_of_forall₂ related]
  rw [after_items_rehang]

end ReadItems

end Items

theorem spec_read_items {α : Type} {K : String} (stripped : strip K = K)
    (nonblank : K.isEmpty = false) {inner : List Field} {m : Reading α} (spec : Spec inner m) (distinct : (inner.map Field.key).Nodup) :
    Spec [.items K inner] (readItems K m) where
  replay := by
    intro s as t fresh run
    obtain ⟨v, xs, cs, -, -, nonempty, read, rfl⟩ := read_items_eq_ok stripped nonblank run
    refine ⟨[.items K cs], rfl, .cons rfl .nil, fun e mem => ?_, ?_⟩
    · rw [List.mem_singleton] at mem
      subst mem
      trivial
    intro s' fresh' path' found
    have unopened : s'.children.lookup K = none := (fresh' (.items K inner) List.mem_cons_self).2.2.1
    have unlisted : s'.items.lookup K = none := (fresh' (.items K inner) List.mem_cons_self).2.2.2
    have foundK : s'.data.lookup K = some (.list (cs.map fun c => .object (Section.effectiveValues c))) :=
      found (.items K cs) List.mem_cons_self
    obtain ⟨cs', read', same, clean⟩ := read.reread spec distinct
    have listed : cs.map (fun c => Value.object (Section.effectiveValues c)) ≠ [] := by
      rw [Ne, List.map_eq_nil_iff, ← List.length_eq_zero_iff, read.length_eq, List.length_eq_zero_iff]
      exact nonempty
    refine ⟨[.items K cs'], ?_, .cons (.items K same clean) .nil⟩
    exact read_items_of_items stripped nonblank (by simp [unopened, unlisted]) foundK rfl listed
      (path' ▸ read')
  opens := by
    intro s as t fresh run step rest keys locates x es found mapping
    obtain ⟨v, xs, cs, atKey, sequence, -, read, rfl⟩ := read_items_eq_ok stripped nonblank run
    obtain ⟨i, rfl, below⟩ := locates_items locates
    simp only [Value.valueAt, Value.entry_at_object, Option.bind_eq_some_iff] at found
    obtain ⟨y, ⟨w, atKey', ys, sequenceW, item⟩, inside⟩ := found
    rw [atKey] at atKey'
    cases atKey'
    rw [null_as_list_of_sequence sequenceW, sequenceW] at sequence
    cases sequence
    rw [Section.section_at_after_items]
    cases rest with
    | nil =>
      cases inside
      obtain ⟨esy, a, c, entries, atI, runItem⟩ := read.get_elem? item
      rw [mapping] at entries
      cases entries
      rw [Nat.zero_add] at runItem
      rw [atI, Option.bind_some]
      obtain ⟨effects, rfl, reads, -, -⟩ :=
        spec.replay _ a c (fresh_of_unread (Section.unread_of_entries _ _) _) runItem
      exact ⟨effects, rfl, (keys_of_reads reads).trans below.nil_keys.symm⟩
    | cons next more =>
      obtain ⟨esy, mappingY⟩ := Value.entries?_of_value_at_cons inside
      obtain ⟨esy', a, c, entries, atI, runItem⟩ := read.get_elem? item
      rw [mappingY] at entries
      cases entries
      rw [Nat.zero_add] at runItem
      rw [atI, Option.bind_some]
      exact spec.opens _ a c (fresh_of_unread (Section.unread_of_entries _ _) _) runItem next more
        keys below x es ((Section.value_at_of_entries_data mappingY _ next more).trans inside) mapping
  frame := by
    intro s as t fresh run p k v admissible reaches
    obtain ⟨w, xs, cs, found, sequence, nonempty, read, rfl⟩ := read_items_eq_ok stripped nonblank run
    have unopened : s.children.lookup K = none := (fresh (.items K inner) List.mem_cons_self).2.2.1
    have unlisted : s.items.lookup K = none := (fresh (.items K inner) List.mem_cons_self).2.2.2
    rcases admissible_items_cases admissible with clear | ⟨i, rest, rfl, below⟩
    · -- the entry is added away from the list: it opens and reads the same
      rw [Section.add_at_after s (.items K cs) clear]
      refine read_items_of_items stripped nonblank ?_ (by rw [Section.lookup_data_add_at clear]; exact found)
        sequence nonempty (by rw [Section.path_add_at]; exact read)
      rw [Section.lookup_children_add_at clear, Section.lookup_items_add_at clear, unopened, unlisted]
      rfl
    · -- the entry is added below one item, which reads it with its own reader
      obtain ⟨w', ys, y, esy, atKey, sequenceW, item, entries, reachesBelow⟩ := reaches.item
      rw [found] at atKey
      cases atKey
      rw [null_as_list_of_sequence sequenceW, sequenceW] at sequence
      cases sequence
      have sequence' := Value.sequence?_map_item sequenceW i fun x => x.addAt rest k v
      have foundAdded : (s.addAt (.item K i :: rest) k v).data.lookup K =
          some (w.mapItem i fun x => x.addAt rest k v) := by
        rw [Section.lookup_data_add_at_item, found]
        rfl
      have sequenceAdded : (nullAsList (w.mapItem i fun x => x.addAt rest k v)).sequence? =
          some (xs.modify i fun x => x.addAt rest k v) := by
        rw [null_as_list_of_sequence sequence', sequence']
      rw [Section.add_at_after_items]
      refine read_items_of_items stripped nonblank ?_ foundAdded sequenceAdded ?_ ?_
      · simp [Section.lookup_items_add_at_item, unopened, unlisted]
      · rw [Ne, ← List.length_eq_zero_iff, List.length_modify, List.length_eq_zero_iff]
        exact nonempty
      · rw [Section.path_add_at]
        exact read.add_at spec below item entries reachesBelow v

end Conveyor.Config

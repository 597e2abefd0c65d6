import Conveyor.Proofs.Merging

/-!
# What a merge gives

A merge that does not fail gives the overlay where either side is nothing, a replacement where
the sides are not both mappings, and for two mappings the base's entries merged in their order
followed by the overlay's entries under new keys (`merge_at_mappings_eq_ok`). For documents,
whose keys compare as the keys of dictionaries, a merge with itself or with an empty mapping
gives the document back.
-/

namespace Conveyor.Config

set_option autoImplicit false

open Conveyor.Value

/-- What an overlay that is not merged into a mapping leaves: itself, with a tuple as the list of
its items. -/
def replacement : Value → Value
  | .tuple items => .list items
  | v => v

theorem replace_with_same {path : String} {base overlay : Value} (set : base.isNull = false)
    (same : Value.shape base = Value.shape overlay) :
    replaceWith path base overlay = .ok (replacement overlay) := by
  have kept : (Value.shape base != Value.shape overlay) = false := by simp [same]
  simp only [replaceWith, set, kept, Bool.false_eq_true, if_false]
  cases overlay <;> rfl

theorem merge_at_flat_eq_ok {path : String} {base overlay : Value}
    (flat : base.entries? = none ∨ overlay.entries? = none) (clean : ∀ p, ¬Conflict base overlay p) :
    mergeAt path base overlay =
      .ok (if overlay.isNull || base.isNull then overlay else replacement overlay) := by
  rw [merge_at_flat flat]
  cases unset : overlay.isNull with
  | true =>
    cases overlay <;> simp_all [Value.isNull]
  | false =>
    cases unsetBase : base.isNull with
    | true => simp [replaceWith, unsetBase]
    | false =>
      have same : Value.shape base = Value.shape overlay := by
        by_contra differ
        exact clean [] (.here unsetBase unset differ)
      simp [replace_with_same unsetBase same]

/-- A base entry once the overlay's entries are set over it: it takes the value of the overlay
entry with the same key, if there is one. -/
def overlaid (q : List (Value × Value)) (e : Value × Value) : Value × Value :=
  (e.1, ((q.find? fun e' => sameKey e.1 e'.1).map Prod.snd).getD e.2)

theorem overlaid_unmatched {q : List (Value × Value)} {e : Value × Value}
    (unmatched : ∀ x ∈ q, sameKey e.1 x.1 = false) : (overlaid q e).2 = e.2 := by
  have none : q.find? (fun x => sameKey e.1 x.1) = none :=
    List.find?_eq_none.2 fun x mx => by simp [unmatched x mx]
  simp [overlaid, none]

theorem lookup_key_eq_none_iff {b : List (Value × Value)} {k : Value} :
    lookupKey b k = none ↔ ∀ e ∈ b, sameKey e.1 k = false := by
  simp [lookupKey, List.find?_eq_none]

theorem overlaid_append_of_differ {q : List (Value × Value)} {e x : Value × Value}
    (differ : sameKey e.1 x.1 = false) : overlaid (q ++ [x]) e = overlaid q e := by
  cases found : q.find? (fun y => sameKey e.1 y.1) <;>
    simp [overlaid, List.find?_append, found, differ]

theorem overlaid_append_of_same {q : List (Value × Value)} {e x : Value × Value}
    (unmatched : ∀ y ∈ q, sameKey e.1 y.1 = false) (same : sameKey e.1 x.1 = true) :
    overlaid (q ++ [x]) e = (e.1, x.2) := by
  have none : q.find? (fun y => sameKey e.1 y.1) = none :=
    List.find?_eq_none.2 fun y mem => by simp [unmatched y mem]
  simp [overlaid, List.find?_append, none, same]

theorem set_key_overlaid {b q : List (Value × Value)} {x : Value × Value}
    (apartLast : ∀ y ∈ q, sameKey y.1 x.1 = false ∧
      ∀ e ∈ b, sameKey e.1 x.1 = true → sameKey e.1 y.1 = false) :
    setKey (b.map (overlaid q) ++ q.filter fun e => (lookupKey b e.1).isNone) x.1 x.2 =
      b.map (overlaid (q ++ [x])) ++ (q ++ [x]).filter fun e => (lookupKey b e.1).isNone := by
  have newApart : ∀ e ∈ q.filter (fun e => (lookupKey b e.1).isNone), sameKey e.1 x.1 = false :=
    fun e mem => (apartLast e (List.mem_of_mem_filter mem)).1
  cases shared : lookupKey b x.1 with
  | some inner =>
    obtain ⟨e, found, rfl⟩ := Option.map_eq_some_iff.1 shared
    have matched : (b.map (overlaid q) ++ q.filter fun e => (lookupKey b e.1).isNone).any
        (fun p => sameKey p.1 x.1) = true := by
      have := List.find?_some found
      simp only [List.any_append, List.any_map, Bool.or_eq_true, List.any_eq_true]
      exact .inl ⟨e, List.mem_of_find?_eq_some found, this⟩
    rw [setKey, if_pos matched, List.map_append, List.map_map, List.filter_append]
    congr 1
    · apply List.map_congr_left
      intro e' mem
      have key : (overlaid q e').1 = e'.1 := rfl
      cases same : sameKey e'.1 x.1
      · rw [overlaid_append_of_differ same]
        simp [key, same]
      · rw [overlaid_append_of_same (fun y inQ => (apartLast y inQ).2 e' mem same) same]
        simp [key, same]
    · have unchanged : ∀ e ∈ q.filter (fun e => (lookupKey b e.1).isNone),
          (if sameKey e.1 x.1 then (e.1, x.2) else e) = e := by
        intro e mem
        rw [if_neg (by simp [newApart e mem])]
      rw [List.map_congr_left unchanged, List.map_id']
      simp [shared]
  | none =>
    have fresh := lookup_key_eq_none_iff.1 shared
    have unmatched : (b.map (overlaid q) ++ q.filter fun e => (lookupKey b e.1).isNone).any
        (fun p => sameKey p.1 x.1) = false := by
      simp only [List.any_append, List.any_map, Bool.or_eq_false_iff, List.any_eq_false]
      exact ⟨fun e mem => by simp [overlaid, fresh e mem], fun e mem => by simp [newApart e mem]⟩
    rw [setKey, if_neg (by simp [unmatched]), List.filter_append, ← List.append_assoc,
      List.map_congr_left fun e mem => overlaid_append_of_differ (fresh e mem)]
    simp [shared]

theorem foldl_set_key {b q : List (Value × Value)}
    (apart : q.Pairwise fun x y => sameKey x.1 y.1 = false ∧
      ∀ e ∈ b, sameKey e.1 y.1 = true → sameKey e.1 x.1 = false) :
    q.foldl (fun m e => setKey m e.1 e.2) b =
      b.map (overlaid q) ++ q.filter fun e => (lookupKey b e.1).isNone := by
  induction q using List.reverseRecOn with
  | nil =>
    rw [List.foldl_nil, List.filter_nil, List.append_nil]
    exact (List.map_id' b).symm
  | append_singleton q x ih =>
    rw [List.pairwise_append] at apart
    obtain ⟨apartEarlier, -, apartLast⟩ := apart
    rw [List.foldl_append, List.foldl_cons, List.foldl_nil, ih apartEarlier]
    exact set_key_overlaid fun y mem => apartLast y mem x (List.mem_singleton_self x)

theorem merge_pairs_eq_ok_iff {path : String} {b merged o r : List (Value × Value)} :
    mergePairs path b merged o = .ok r ↔
      ∃ q : List (Value × Value),
        List.Forall₂ (fun e e' : Value × Value => e'.1 = e.1 ∧ entryMerge path b e = .ok e'.2) o q ∧
          r = q.foldl (fun m e => setKey m e.1 e.2) merged := by
  induction o generalizing merged with
  | nil => simp [mergePairs, eq_comm]
  | cons e rest ih =>
    rw [merge_pairs_cons]
    simp only [List.forall₂_cons_left_iff]
    cases first : entryMerge path b e with
    | error err =>
      refine iff_of_false (fun fails => by cases fails) ?_
      rintro ⟨_, ⟨e', q, ⟨-, merges⟩, -, -⟩, -⟩
      cases merges
    | ok nv =>
      show mergePairs path b (setKey merged e.1 nv) rest = .ok r ↔ _
      rw [ih]
      constructor
      · rintro ⟨q, merges, rfl⟩
        exact ⟨_, ⟨(e.1, nv), q, ⟨rfl, rfl⟩, merges, rfl⟩, rfl⟩
      · rintro ⟨_, ⟨e', q, ⟨key, merges⟩, rest, rfl⟩, rfl⟩
        have same : nv = e'.2 := Except.ok.inj merges
        exact ⟨q, rest, by rw [List.foldl_cons, key, same]⟩

section Merged

variable {path : String} {b o q : List (Value × Value)}
variable (merges : List.Forall₂ (fun e e' : Value × Value => e'.1 = e.1 ∧ entryMerge path b e = .ok e'.2) o q)
include merges

theorem merged_keys : q.map Prod.fst = o.map Prod.fst := by
  induction merges with
  | nil => rfl
  | cons related _ ih => simp [related.1, ih]

theorem merged_mem {e : Value × Value} (mem : e ∈ o) :
    ∃ e' ∈ q, e'.1 = e.1 ∧ entryMerge path b e = .ok e'.2 := by
  induction merges with
  | nil => cases mem
  | cons related _ ih =>
    rcases List.mem_cons.1 mem with rfl | later
    · exact ⟨_, List.mem_cons_self, related⟩
    · obtain ⟨e', mem', found⟩ := ih later
      exact ⟨e', List.mem_cons_of_mem _ mem', found⟩

theorem merged_new :
    (q.filter fun e => (lookupKey b e.1).isNone) = o.filter fun e => (lookupKey b e.1).isNone := by
  induction merges with
  | nil => rfl
  | @cons e e' _ _ related _ ih =>
    obtain ⟨key, merged⟩ := related
    cases fresh : lookupKey b e.1 with
    | none =>
      rw [entry_merge_new fresh] at merged
      have same : e' = e := Prod.ext key (Except.ok.inj merged).symm
      simp [same, fresh, ih]
    | some inner => simp [key, fresh, ih]

end Merged

def UniqueKeys (es : List (Value × Value)) : Prop :=
  (es.map Prod.fst).Pairwise fun k k' => sameKey k k' = false ∧ sameKey k' k = false

/-- Keys among which being the same key is symmetric and transitive, as it is among the keys of
dictionaries. A key need not be the same as itself: a binary64 NaN is the same as no key. -/
structure KeysCompare (keys : List Value) : Prop where
  symm : ∀ k ∈ keys, ∀ k' ∈ keys, sameKey k k' = true → sameKey k' k = true
  trans : ∀ k ∈ keys, ∀ k' ∈ keys, ∀ k'' ∈ keys,
    sameKey k k' = true → sameKey k' k'' = true → sameKey k k'' = true

namespace KeysCompare

variable {keys : List Value} {k k' k'' : Value}

theorem apart_of_same_as (compare : KeysCompare keys) (mk : k ∈ keys) (mk' : k' ∈ keys)
    (mk'' : k'' ∈ keys) (apart : sameKey k k' = false) (same' : sameKey k' k'' = true) :
    sameKey k k'' = false := by
  rw [Bool.eq_false_iff]
  intro same
  simpa [apart] using compare.trans k mk k'' mk'' k' mk' same (compare.symm k' mk' k'' mk'' same')

theorem apart_of_same_to (compare : KeysCompare keys) (mk : k ∈ keys) (mk' : k' ∈ keys)
    (mk'' : k'' ∈ keys) (apart : sameKey k k' = false) (same' : sameKey k'' k' = true) :
    sameKey k'' k = false := by
  rw [Bool.eq_false_iff]
  intro same
  simpa [apart] using compare.trans k mk k'' mk'' k' mk' (compare.symm k'' mk'' k mk same) same'

end KeysCompare

theorem find?_of_pairwise {α : Type} {p : α → Bool} {l : List α} {x : α} (mem : x ∈ l)
    (holds : p x = true) (unique : l.Pairwise fun a c => p c = true → p a = false) :
    l.find? p = some x := by
  obtain ⟨as, bs, rfl⟩ := List.append_of_mem mem
  rw [List.find?_eq_some_iff_append]
  refine ⟨holds, as, bs, rfl, fun a inAs => ?_⟩
  simpa using unique.rel_of_mem_append inAs List.mem_cons_self holds

theorem overlaid_matched {q : List (Value × Value)} {e x : Value × Value} (mx : x ∈ q)
    (same : sameKey e.1 x.1 = true)
    (unique : q.Pairwise fun y z => sameKey e.1 z.1 = true → sameKey e.1 y.1 = false) :
    (overlaid q e).2 = x.2 := by
  simp [overlaid, find?_of_pairwise mx same unique]

section Keys

variable {b o : List (Value × Value)} (compare : KeysCompare (b.map Prod.fst ++ o.map Prod.fst))
include compare

theorem overlay_keys_apart (distinct : UniqueKeys o) :
    (o.map Prod.fst).Pairwise fun k k' =>
      sameKey k k' = false ∧ ∀ e ∈ b, sameKey e.1 k' = true → sameKey e.1 k = false :=
  distinct.imp_of_mem fun {_ _} mk mk' apart => ⟨apart.1, fun _ mem same' =>
    compare.apart_of_same_to (List.mem_append_right _ mk) (List.mem_append_right _ mk')
      (List.mem_append_left _ (List.mem_map_of_mem mem)) apart.1 same'⟩

theorem lookup_key_of_same (distinct : UniqueKeys b) {e e' : Value × Value} (mem : e ∈ b)
    (mem' : e' ∈ o) (same : sameKey e.1 e'.1 = true) : lookupKey b e'.1 = some e.2 := by
  have unique : b.Pairwise fun a c => sameKey c.1 e'.1 = true → sameKey a.1 e'.1 = false := by
    rw [UniqueKeys, List.pairwise_map] at distinct
    exact distinct.imp_of_mem fun {_ _} ma mc apart later =>
      compare.apart_of_same_as (List.mem_append_left _ (List.mem_map_of_mem ma))
        (List.mem_append_left _ (List.mem_map_of_mem mc))
        (List.mem_append_right _ (List.mem_map_of_mem mem')) apart.1 later
  simp [lookupKey, find?_of_pairwise mem same unique]

end Keys

theorem merge_pairs_ok_of_clean (path : String) {base overlay : Value} {b o : List (Value × Value)}
    (hb : base.entries? = some b) (ho : overlay.entries? = some o)
    (clean : ∀ p, ¬Conflict base overlay p) : ∃ r, mergePairs path b b o = .ok r := by
  rw [ok_iff_not_error]
  rintro ⟨err, fails⟩
  have failed : mergeAt path base overlay = .error err := by
    rw [merge_at_mappings hb ho, fails]
    rfl
  obtain ⟨p, conflict⟩ := (merge_at_fails_iff_conflict path base overlay).1 ⟨err, failed⟩
  exact clean p conflict

theorem merge_at_mappings_eq_ok {path : String} {base overlay : Value} {b o : List (Value × Value)}
    (hb : base.entries? = some b) (ho : overlay.entries? = some o)
    (distinctBase : UniqueKeys b) (distinctOverlay : UniqueKeys o)
    (compare : KeysCompare (b.map Prod.fst ++ o.map Prod.fst))
    (clean : ∀ p, ¬Conflict base overlay p) :
    ∃ ms : List (Value × Value),
      mergeAt path base overlay = .ok (ofEntries (ms ++ o.filter fun e => (lookupKey b e.1).isNone)) ∧
      List.Forall₂ (fun e m : Value × Value => m.1 = e.1 ∧
          ((∀ e' ∈ o, sameKey e.1 e'.1 = false) → m.2 = e.2) ∧
          ∀ e' ∈ o, sameKey e.1 e'.1 = true → mergeAt (childPath path e'.1.text) e.2 e'.2 = .ok m.2)
        b ms := by
  obtain ⟨r, merged⟩ := merge_pairs_ok_of_clean path hb ho clean
  obtain ⟨q, merges, rfl⟩ := merge_pairs_eq_ok_iff.1 merged
  have apart : q.Pairwise fun x y =>
      sameKey x.1 y.1 = false ∧ ∀ e ∈ b, sameKey e.1 y.1 = true → sameKey e.1 x.1 = false := by
    have := overlay_keys_apart compare distinctOverlay
    rwa [← merged_keys merges, List.pairwise_map] at this
  refine ⟨b.map (overlaid q), ?_, ?_⟩
  · rw [merge_at_mappings hb ho, merged, foldl_set_key apart, merged_new merges]
    rfl
  · rw [List.forall₂_map_right_iff, List.forall₂_same]
    intro e mem
    refine ⟨rfl, fun unmatched => overlaid_unmatched fun x mx => ?_, fun e' mem' same => ?_⟩
    · -- every merged entry is under an overlay key
      have : x.1 ∈ o.map Prod.fst := merged_keys merges ▸ List.mem_map_of_mem mx
      obtain ⟨e', mem', key⟩ := List.mem_map.1 this
      rw [← key]
      exact unmatched e' mem'
    · obtain ⟨x, mx, key, entry⟩ := merged_mem merges mem'
      rw [entry_merge_shared (lookup_key_of_same compare distinctBase mem mem' same)] at entry
      rw [overlaid_matched mx (key ▸ same) (apart.imp fun apart' later => apart'.2 e mem later)]
      exact entry

/-! ## Merging with itself and with nothing -/

/-- A value as documents hold it, as far as merging reads it: every mapping in it, down through
the values of mappings, is held in its canonical form (`keyed` only with a key that is not
text) with keys each the same key as itself and no two the same key; and no tuple stands where
a merge would give it back as a list. -/
inductive Document : Value → Prop
  | flat {v : Value} : v.entries? = none → (∀ items, v ≠ .tuple items) → Document v
  | mapping {v : Value} {es : List (Value × Value)} : v.entries? = some es → ofEntries es = v →
      UniqueKeys es → (∀ e ∈ es, sameKey e.1 e.1 = true) → (∀ e ∈ es, Document e.2) →
      Document v

section Itself

variable {es : List (Value × Value)} {e : Value × Value}

theorem UniqueKeys.others {as bs : List (Value × Value)} (distinct : UniqueKeys (as ++ e :: bs)) :
    ∀ a ∈ as ++ bs, sameKey a.1 e.1 = false := by
  rw [UniqueKeys, List.map_append, List.map_cons, List.pairwise_append, List.pairwise_cons] at distinct
  obtain ⟨-, ⟨afterward, -⟩, across⟩ := distinct
  intro a mem
  rcases List.mem_append.1 mem with before | after
  · exact (across a.1 (List.mem_map_of_mem before) e.1 List.mem_cons_self).1
  · exact (afterward a.1 (List.mem_map_of_mem after)).2

theorem lookup_key_self (distinct : UniqueKeys es) (self : sameKey e.1 e.1 = true) (mem : e ∈ es) :
    lookupKey es e.1 = some e.2 := by
  obtain ⟨as, bs, rfl⟩ := List.append_of_mem mem
  have first : (as ++ e :: bs).find? (fun p => sameKey p.1 e.1) = some e := by
    rw [List.find?_eq_some_iff_append]
    refine ⟨self, as, bs, rfl, fun a inAs => ?_⟩
    simp [distinct.others a (List.mem_append_left _ inAs)]
  simp [lookupKey, first]

theorem set_key_self (distinct : UniqueKeys es) (self : sameKey e.1 e.1 = true) (mem : e ∈ es) :
    setKey es e.1 e.2 = es := by
  obtain ⟨as, bs, rfl⟩ := List.append_of_mem mem
  have present : (as ++ e :: bs).any (fun p => sameKey p.1 e.1) = true := by
    simp only [List.any_eq_true]
    exact ⟨e, mem, self⟩
  have kept : ∀ p ∈ as ++ e :: bs, (if sameKey p.1 e.1 then (p.1, e.2) else p) = p := by
    intro p inEs
    rcases List.mem_append.1 inEs with before | middle
    · simp [distinct.others p (List.mem_append_left _ before)]
    rcases List.mem_cons.1 middle with rfl | after
    · simp
    · simp [distinct.others p (List.mem_append_right _ after)]
  rw [setKey, if_pos present, List.map_congr_left kept, List.map_id']

theorem foldl_set_key_self {l : List (Value × Value)} (distinct : UniqueKeys es)
    (self : ∀ e ∈ es, sameKey e.1 e.1 = true) (within : ∀ e ∈ l, e ∈ es) :
    l.foldl (fun m e => setKey m e.1 e.2) es = es := by
  induction l with
  | nil => rfl
  | cons e rest ih =>
    have mem := within e List.mem_cons_self
    rw [List.foldl_cons, set_key_self distinct (self e mem) mem]
    exact ih fun e' later => within e' (List.mem_cons_of_mem _ later)

end Itself

theorem replacement_of_not_tuple {v : Value} (notTuple : ∀ items, v ≠ .tuple items) :
    replacement v = v := by
  cases v <;> simp_all [replacement]

theorem merge_at_self {x : Value} (doc : Document x) (path : String) : mergeAt path x x = .ok x := by
  induction doc generalizing path with
  | @flat v none notTuple =>
    have clean : ∀ p, ¬Conflict v v p := fun p conflict =>
      ((conflict_flat_iff (.inl none)).1 conflict).2.2.2 rfl
    rw [merge_at_flat_eq_ok (.inl none) clean, replacement_of_not_tuple notTuple]
    simp
  | @mapping v es hv canonical distinct self _ ih =>
    have merges : List.Forall₂ (fun e e' : Value × Value => e'.1 = e.1 ∧ entryMerge path es e = .ok e'.2)
        es es := by
      rw [List.forall₂_same]
      intro e mem
      exact ⟨rfl, by rw [entry_merge_shared (lookup_key_self distinct (self e mem) mem), ih e mem]⟩
    rw [merge_at_mappings hv hv, merge_pairs_eq_ok_iff.2 ⟨es, merges, rfl⟩,
      foldl_set_key_self distinct self fun _ mem => mem]
    exact congrArg Except.ok canonical

theorem merge_at_empty_overlay (es : List (Value × Value)) (path : String) :
    mergeAt path (ofEntries es) (.object []) = .ok (ofEntries es) := by
  rw [merge_at_mappings (entries?_of_entries es) rfl]
  rfl

theorem merge_at_empty_base {es : List (Value × Value)} (distinct : UniqueKeys es) (path : String) :
    mergeAt path (.object []) (ofEntries es) = .ok (ofEntries es) := by
  have merges : List.Forall₂ (fun e e' : Value × Value => e'.1 = e.1 ∧ entryMerge path [] e = .ok e'.2)
      es es :=
    List.forall₂_same.2 fun e _ => ⟨rfl, entry_merge_new rfl⟩
  have apart : es.Pairwise fun x y => sameKey x.1 y.1 = false ∧
      ∀ e ∈ ([] : List (Value × Value)), sameKey e.1 y.1 = true → sameKey e.1 x.1 = false := by
    rw [UniqueKeys, List.pairwise_map] at distinct
    exact distinct.imp fun apart => ⟨apart.1, by simp⟩
  have empty : (Value.object []).entries? = some [] := rfl
  rw [merge_at_mappings empty (entries?_of_entries es), merge_pairs_eq_ok_iff.2 ⟨es, merges, rfl⟩,
    foldl_set_key apart]
  simp [lookupKey]
  rfl

/-! ## The merge -/

/-- Merging an overlay onto a base fails exactly where the overlay would change the kind of a
value below keys that both sides map, and names the first such place, depth first in the order
of the overlay's keys. Otherwise it gives the overlay where either side is nothing, the overlay
as a replacement where the sides are not both mappings, and for two mappings the base's entries,
each merged with the overlay's value under the same key, then the overlay's new entries. A
document merged onto itself, a mapping merged with an empty one and an empty one merged with a
mapping give it back. -/
theorem merge_refuses_exactly_kind_changes :
    (∀ path base overlay,
      (∃ err, mergeAt path base overlay = .error err) ↔ ∃ p, Conflict base overlay p) ∧
    (∀ path base overlay err, mergeAt path base overlay = .error err ↔
      ∃ p baseAt overlayAt, FirstConflict base overlay p baseAt overlayAt ∧
        err = ⟨keyPath path p, Value.shape baseAt, overlayAt.kindName⟩ ∧
        err.message = "Invalid config overlay merge at " ++
          (if (keyPath path p).isEmpty then "<root>" else keyPath path p) ++ ": base is " ++
          (Value.shape baseAt).word ++ " but overlay is " ++ overlayAt.kindName) ∧
    (∀ path base overlay, (base.entries? = none ∨ overlay.entries? = none) →
      (∀ p, ¬Conflict base overlay p) →
      mergeAt path base overlay =
        .ok (if overlay.isNull || base.isNull then overlay else replacement overlay)) ∧
    (∀ path base overlay (b o : List (Value × Value)),
      base.entries? = some b → overlay.entries? = some o → UniqueKeys b → UniqueKeys o →
      KeysCompare (b.map Prod.fst ++ o.map Prod.fst) → (∀ p, ¬Conflict base overlay p) →
      ∃ ms : List (Value × Value),
        mergeAt path base overlay = .ok (ofEntries (ms ++ o.filter fun e => (lookupKey b e.1).isNone)) ∧
        List.Forall₂ (fun e m : Value × Value => m.1 = e.1 ∧
            ((∀ e' ∈ o, sameKey e.1 e'.1 = false) → m.2 = e.2) ∧
            ∀ e' ∈ o, sameKey e.1 e'.1 = true → mergeAt (childPath path e'.1.text) e.2 e'.2 = .ok m.2)
          b ms) ∧
    (∀ path x, Document x → mergeAt path x x = .ok x) ∧
    (∀ path es, mergeAt path (ofEntries es) (.object []) = .ok (ofEntries es)) ∧
    (∀ path es, UniqueKeys es → mergeAt path (.object []) (ofEntries es) = .ok (ofEntries es)) := by
  refine ⟨merge_at_fails_iff_conflict, fun path base overlay err => ?_,
    fun _ _ _ flat clean => merge_at_flat_eq_ok flat clean,
    fun _ _ _ _ _ hb ho distinctBase distinctOverlay compare clean =>
      merge_at_mappings_eq_ok hb ho distinctBase distinctOverlay compare clean,
    fun path _ doc => merge_at_self doc path, fun path es => merge_at_empty_overlay es path,
    fun path _ distinct => merge_at_empty_base distinct path⟩
  rw [merge_at_eq_error_iff]
  constructor
  · rintro ⟨p, baseAt, overlayAt, first, rfl⟩
    exact ⟨p, baseAt, overlayAt, first, rfl, rfl⟩
  · rintro ⟨p, baseAt, overlayAt, first, named, -⟩
    exact ⟨p, baseAt, overlayAt, first, named⟩

/-- A configuration with a nested mapping and a list is a document, and merges onto itself. -/
theorem merge_refuses_exactly_kind_changes_document :
    Document (.object [("a", .object [("b", .int 1)]), ("c", .list [.int 2])]) ∧
      mergeAt "" (.object [("a", .object [("b", .int 1)]), ("c", .list [.int 2])])
          (.object [("a", .object [("b", .int 1)]), ("c", .list [.int 2])]) =
        .ok (.object [("a", .object [("b", .int 1)]), ("c", .list [.int 2])]) := by
  have leaf : ∀ v : Value, v.entries? = none → (∀ items, v ≠ .tuple items) → Document v :=
    fun _ => .flat
  have inner : Document (.object [("b", .int 1)]) := by
    refine .mapping rfl rfl (by unfold UniqueKeys; decide) (by decide) ?_
    intro e mem
    simp only [List.map_cons, List.map_nil, List.mem_singleton] at mem
    subst mem
    exact leaf _ rfl (by simp)
  have doc : Document (.object [("a", .object [("b", .int 1)]), ("c", .list [.int 2])]) := by
    refine .mapping rfl rfl (by unfold UniqueKeys; decide) (by decide) ?_
    intro e mem
    simp only [List.map_cons, List.map_nil, List.mem_cons, List.not_mem_nil, or_false] at mem
    rcases mem with rfl | rfl
    · exact inner
    · exact leaf _ rfl (by simp)
  exact ⟨doc, merge_refuses_exactly_kind_changes.2.2.2.2.1 "" _ doc⟩

end Conveyor.Config

import Mathlib
import Conveyor.Config.Merge
import Conveyor.Proofs.Addresses

/-!
# Merging an overlay onto a base

`mergeAt` walks the overlay. Where both sides are mappings it merges the overlay's entries one
by one onto the base's (`entryMerge`); anywhere else the overlay replaces the base, unless both
are set and of different kinds.

So a merge fails exactly where a `Conflict` lies: a key path that both sides map all the way
down, at whose end the kinds differ (`merge_at_fails_iff_conflict`). The error it gives is the
one of the `FirstConflict`, depth first in the order of the overlay's keys, and names its
dotted path, the base's kind and the overlay's type there (`merge_at_eq_error_iff`).

A merge that does not fail gives the overlay where either side is nothing, the overlay as a
replacement (a tuple as a list) where the sides are not both mappings, and for two mappings the
base's entries in their order, each merged with the overlay's value under the same key,
followed by the overlay's entries under new keys (`merge_at_mappings_eq_ok`). That needs the
keys to behave as the keys of dictionaries: no two in one mapping are the same key, and being
the same key is symmetric and transitive among them. From these: a document merged onto itself,
a mapping merged with an empty one and an empty one merged with a mapping all give it back.
Values are never changed in place, so neither side of a merge is modified.

This module covers where a merge fails; what a merge gives follows in `MergeResults`.
-/

namespace Conveyor.Config

set_option autoImplicit false

open Conveyor.Value

/-! ## One step of a merge -/

theorem merge_fields_eq_merge_pairs (path : String) (b merged : List (Value × Value))
    (o : List (String × Value)) :
    mergeFields path b merged o = mergePairs path b merged (o.map fun e => (.str e.1, e.2)) := by
  induction o generalizing merged with
  | nil => simp [mergeFields, mergePairs]
  | cons e rest ih =>
    obtain ⟨k, v⟩ := e
    rw [mergeFields, List.map_cons, mergePairs]
    cases lookupKey b (.str k) with
    | none => simp only [ih]
    | some inner =>
      simp only [ih]
      rfl

/-- The value an overlay entry brings into a merge of mappings: merged with the base's value
under the same key, or as it is under a new key. -/
def entryMerge (path : String) (b : List (Value × Value)) (e : Value × Value) :
    Except MergeError Value :=
  match lookupKey b e.1 with
  | some inner => mergeAt (childPath path e.1.text) inner e.2
  | none => .ok e.2

theorem entry_merge_new {path : String} {b : List (Value × Value)} {e : Value × Value}
    (fresh : lookupKey b e.1 = none) : entryMerge path b e = .ok e.2 := by
  simp [entryMerge, fresh]

theorem entry_merge_shared {path : String} {b : List (Value × Value)} {e : Value × Value}
    {inner : Value} (found : lookupKey b e.1 = some inner) :
    entryMerge path b e = mergeAt (childPath path e.1.text) inner e.2 := by
  simp [entryMerge, found]

theorem merge_pairs_cons (path : String) (b merged : List (Value × Value)) (e : Value × Value)
    (rest : List (Value × Value)) :
    mergePairs path b merged (e :: rest) =
      entryMerge path b e >>= fun nv => mergePairs path b (setKey merged e.1 nv) rest := by
  obtain ⟨k, v⟩ := e
  rw [mergePairs, entryMerge]
  cases lookupKey b k <;> rfl

theorem merge_at_mappings {path : String} {base overlay : Value} {b o : List (Value × Value)}
    (hb : base.entries? = some b) (ho : overlay.entries? = some o) :
    mergeAt path base overlay = (mergePairs path b b o).map ofEntries := by
  cases overlay with
  | object fields =>
    simp only [entries?, Option.some.injEq] at ho
    rw [mergeAt, hb]
    dsimp only
    rw [merge_fields_eq_merge_pairs, ← ho]
  | keyed pairs =>
    simp only [entries?, Option.some.injEq] at ho
    rw [mergeAt, hb, ho]
  | _ => simp [entries?] at ho

theorem merge_at_flat {path : String} {base overlay : Value}
    (flat : base.entries? = none ∨ overlay.entries? = none) :
    mergeAt path base overlay = if overlay.isNull then .ok .null else replaceWith path base overlay := by
  cases overlay with
  | null => rfl
  | object fields =>
    have hb : base.entries? = none := by simpa [entries?] using flat
    rw [mergeAt, hb]; rfl
  | keyed pairs =>
    have hb : base.entries? = none := by simpa [entries?] using flat
    rw [mergeAt, hb]; rfl
  | _ => rfl

theorem mappings_or_flat (base overlay : Value) :
    (∃ b o, base.entries? = some b ∧ overlay.entries? = some o) ∨
      (base.entries? = none ∨ overlay.entries? = none) := by
  cases hb : base.entries? <;> cases ho : overlay.entries? <;> simp

theorem shape_of_entries {v : Value} {o : List (Value × Value)} (ho : v.entries? = some o) :
    Value.shape v = Shape.mapping := by
  cases v <;> simp_all [entries?, Value.shape]

theorem size_of_lt_of_entry {v : Value} {o : List (Value × Value)} (ho : v.entries? = some o)
    {e : Value × Value} (mem : e ∈ o) : sizeOf e.2 < sizeOf v := by
  cases v with
  | object fields =>
    simp only [entries?, Option.some.injEq] at ho
    subst ho
    obtain ⟨⟨k, w⟩, inner, rfl⟩ := List.mem_map.1 mem
    have := List.sizeOf_lt_of_mem inner
    simp at this ⊢
    omega
  | keyed pairs =>
    simp only [entries?, Option.some.injEq] at ho
    subst ho
    have := List.sizeOf_lt_of_mem mem
    obtain ⟨k, w⟩ := e
    simp at this ⊢
    omega
  | _ => simp [entries?] at ho

theorem entries_induction {motive : Value → Prop}
    (step : ∀ v, (∀ o, v.entries? = some o → ∀ e ∈ o, motive e.2) → motive v) (v : Value) :
    motive v := by
  induction h : sizeOf v using Nat.strong_induction_on generalizing v with
  | _ n ih =>
    apply step
    intro o ho e mem
    exact ih _ (h ▸ size_of_lt_of_entry ho mem) _ rfl

/-! ## Where a merge fails -/

theorem map_eq_error_iff {α β ε : Type} {f : α → β} {x : Except ε α} {err : ε} :
    x.map f = .error err ↔ x = .error err := by
  cases x <;> simp [Except.map]

theorem ok_iff_not_error {ε α : Type} (x : Except ε α) :
    (∃ a, x = .ok a) ↔ ¬∃ err, x = .error err := by
  cases x <;> simp

theorem entry_merge_eq_error_iff {path : String} {b : List (Value × Value)} {e : Value × Value}
    {err : MergeError} :
    entryMerge path b e = .error err ↔
      ∃ inner, lookupKey b e.1 = some inner ∧ mergeAt (childPath path e.1.text) inner e.2 = .error err := by
  unfold entryMerge
  cases lookupKey b e.1 <;> simp

theorem merge_pairs_fails_iff {path : String} {b merged o : List (Value × Value)} :
    (∃ err, mergePairs path b merged o = .error err) ↔ ∃ e ∈ o, ∃ err, entryMerge path b e = .error err := by
  induction o generalizing merged with
  | nil => simp [mergePairs]
  | cons e rest ih =>
    rw [merge_pairs_cons]
    cases first : entryMerge path b e with
    | error err =>
      exact iff_of_true ⟨err, rfl⟩ ⟨e, List.mem_cons_self, err, first⟩
    | ok nv =>
      simp only [first, List.mem_cons, exists_eq_or_imp, reduceCtorEq, exists_false, false_or]
      exact ih

theorem merge_pairs_append_of_ok {path : String} {b merged before : List (Value × Value)}
    (rest : List (Value × Value)) (merges : ∀ e ∈ before, ∃ nv, entryMerge path b e = .ok nv) :
    ∃ merged', mergePairs path b merged (before ++ rest) = mergePairs path b merged' rest := by
  induction before generalizing merged with
  | nil => exact ⟨merged, rfl⟩
  | cons e before ih =>
    obtain ⟨nv, first⟩ := merges e List.mem_cons_self
    rw [List.cons_append, merge_pairs_cons, first]
    exact ih fun e' mem => merges e' (List.mem_cons_of_mem _ mem)

theorem merge_pairs_eq_error_iff {path : String} {b merged o : List (Value × Value)} {err : MergeError} :
    mergePairs path b merged o = .error err ↔
      ∃ (before : List (Value × Value)) (e : Value × Value) (after : List (Value × Value)),
        o = before ++ e :: after ∧ (∀ e' ∈ before, ∃ nv, entryMerge path b e' = .ok nv) ∧
          entryMerge path b e = .error err := by
  constructor
  · intro fails
    induction o generalizing merged with
    | nil => cases fails
    | cons e rest ih =>
      rw [merge_pairs_cons] at fails
      cases first : entryMerge path b e with
      | error err' =>
        rw [first] at fails
        cases fails
        exact ⟨[], e, rest, rfl, by simp, first⟩
      | ok nv =>
        rw [first] at fails
        obtain ⟨before, e', after, split, merges, fails'⟩ := ih fails
        refine ⟨e :: before, e', after, by simp [split], ?_, fails'⟩
        intro e'' mem
        rcases List.mem_cons.1 mem with rfl | later
        · exact ⟨nv, first⟩
        · exact merges e'' later
  · rintro ⟨before, e, after, rfl, merges, fails⟩
    obtain ⟨merged', skip⟩ := merge_pairs_append_of_ok (e :: after) merges
    rw [skip, merge_pairs_cons, fails]
    rfl

/-- A key path along which an overlay would change the kind of a value: at every key before
its end both sides are mappings (the key is the overlay's, matched in the base as mapping keys
are), and at its end both are set and of different kinds. -/
inductive Conflict : Value → Value → List Value → Prop
  | here {base overlay : Value} : base.isNull = false → overlay.isNull = false →
      Value.shape base ≠ Value.shape overlay → Conflict base overlay []
  | child {base overlay inner : Value} {b o : List (Value × Value)} {e : Value × Value}
      {p : List Value} : base.entries? = some b → overlay.entries? = some o → e ∈ o →
      lookupKey b e.1 = some inner → Conflict inner e.2 p → Conflict base overlay (e.1 :: p)

theorem conflict_flat_iff {base overlay : Value} {p : List Value}
    (flat : base.entries? = none ∨ overlay.entries? = none) :
    Conflict base overlay p ↔
      p = [] ∧ base.isNull = false ∧ overlay.isNull = false ∧ Value.shape base ≠ Value.shape overlay := by
  constructor
  · intro conflict
    cases conflict with
    | here base overlay differ => exact ⟨rfl, base, overlay, differ⟩
    | child hb ho _ _ _ => simp_all
  · rintro ⟨rfl, base, overlay, differ⟩
    exact .here base overlay differ

theorem conflict_mappings_iff {base overlay : Value} {b o : List (Value × Value)}
    (hb : base.entries? = some b) (ho : overlay.entries? = some o) :
    (∃ p, Conflict base overlay p) ↔
      ∃ e ∈ o, ∃ inner, lookupKey b e.1 = some inner ∧ ∃ p, Conflict inner e.2 p := by
  constructor
  · rintro ⟨p, conflict⟩
    cases conflict with
    | here _ _ differ => exact absurd ((shape_of_entries hb).trans (shape_of_entries ho).symm) differ
    | child hb' ho' mem found below =>
      rw [hb] at hb'
      rw [ho] at ho'
      cases hb'
      cases ho'
      exact ⟨_, mem, _, found, _, below⟩
  · rintro ⟨e, mem, inner, found, p, below⟩
    exact ⟨_, .child hb ho mem found below⟩

theorem replace_with_eq_error_iff {path : String} {base overlay : Value} {err : MergeError} :
    replaceWith path base overlay = .error err ↔
      base.isNull = false ∧ Value.shape base ≠ Value.shape overlay ∧
        err = ⟨path, Value.shape base, overlay.kindName⟩ := by
  unfold replaceWith
  cases base.isNull with
  | true => simp
  | false =>
    by_cases same : Value.shape base = Value.shape overlay
    · simp only [Bool.false_eq_true, if_false, same]
      simp only [bne_self_eq_false, Bool.false_eq_true, if_false, ne_eq, not_true_eq_false,
        false_and, and_false, iff_false]
      split <;> simp
    · have differs : (Value.shape base != Value.shape overlay) = true := by simpa using same
      simp only [Bool.false_eq_true, if_false, differs, if_true, Except.error.injEq, true_and]
      exact ⟨fun made => ⟨same, made.symm⟩, fun named => named.2.symm⟩

theorem merge_at_flat_eq_error_iff {path : String} {base overlay : Value} {err : MergeError}
    (flat : base.entries? = none ∨ overlay.entries? = none) :
    mergeAt path base overlay = .error err ↔
      base.isNull = false ∧ overlay.isNull = false ∧ Value.shape base ≠ Value.shape overlay ∧
        err = ⟨path, Value.shape base, overlay.kindName⟩ := by
  rw [merge_at_flat flat]
  cases overlay.isNull with
  | true => simp
  | false => simp [replace_with_eq_error_iff]

theorem merge_at_fails_iff_conflict (path : String) (base overlay : Value) :
    (∃ err, mergeAt path base overlay = .error err) ↔ ∃ p, Conflict base overlay p := by
  induction overlay using entries_induction generalizing path base with
  | step overlay ih =>
    rcases mappings_or_flat base overlay with ⟨b, o, hb, ho⟩ | flat
    · rw [merge_at_mappings hb ho, conflict_mappings_iff hb ho]
      simp only [map_eq_error_iff, merge_pairs_fails_iff, entry_merge_eq_error_iff]
      refine exists_congr fun e => and_congr_right fun mem => ?_
      constructor
      · rintro ⟨err, inner, found, fails⟩
        exact ⟨inner, found, (ih o ho e mem _ inner).1 ⟨err, fails⟩⟩
      · rintro ⟨inner, found, conflict⟩
        obtain ⟨err, fails⟩ := (ih o ho e mem (childPath path e.1.text) inner).2 conflict
        exact ⟨err, inner, found, fails⟩
    · simp only [merge_at_flat_eq_error_iff flat, conflict_flat_iff flat]
      constructor
      · rintro ⟨err, base, overlay, differ, -⟩
        exact ⟨[], rfl, base, overlay, differ⟩
      · rintro ⟨p, -, base, overlay, differ⟩
        exact ⟨_, base, overlay, differ, rfl⟩

theorem entry_merge_ok_iff {path : String} {b : List (Value × Value)} {e : Value × Value} :
    (∃ nv, entryMerge path b e = .ok nv) ↔
      ∀ inner, lookupKey b e.1 = some inner → ∀ p, ¬Conflict inner e.2 p := by
  rw [ok_iff_not_error]
  simp only [entry_merge_eq_error_iff]
  constructor
  · intro clean inner found p conflict
    obtain ⟨err, fails⟩ :=
      (merge_at_fails_iff_conflict (childPath path e.1.text) inner e.2).2 ⟨p, conflict⟩
    exact clean ⟨err, inner, found, fails⟩
  · rintro clean ⟨err, inner, found, fails⟩
    obtain ⟨p, conflict⟩ := (merge_at_fails_iff_conflict _ inner e.2).1 ⟨err, fails⟩
    exact clean inner found p conflict

/-- The conflict a merge meets first: depth first, in the order of the overlay's keys; with the
base's and the overlay's values where it is. -/
inductive FirstConflict : Value → Value → List Value → Value → Value → Prop
  | here {base overlay : Value} : base.isNull = false → overlay.isNull = false →
      Value.shape base ≠ Value.shape overlay → FirstConflict base overlay [] base overlay
  | child {base overlay inner baseAt overlayAt : Value} {b o before after : List (Value × Value)}
      {e : Value × Value} {p : List Value} :
      base.entries? = some b → overlay.entries? = some o → o = before ++ e :: after →
      (∀ e' ∈ before, ∀ inner', lookupKey b e'.1 = some inner' → ∀ p', ¬Conflict inner' e'.2 p') →
      lookupKey b e.1 = some inner → FirstConflict inner e.2 p baseAt overlayAt →
      FirstConflict base overlay (e.1 :: p) baseAt overlayAt

def keyPath (path : String) (keys : List Value) : String :=
  keys.foldl (fun acc k => childPath acc k.text) path

theorem first_conflict_flat_iff {base overlay baseAt overlayAt : Value} {p : List Value}
    (flat : base.entries? = none ∨ overlay.entries? = none) :
    FirstConflict base overlay p baseAt overlayAt ↔
      p = [] ∧ baseAt = base ∧ overlayAt = overlay ∧ base.isNull = false ∧ overlay.isNull = false ∧
        Value.shape base ≠ Value.shape overlay := by
  constructor
  · intro first
    cases first with
    | here base overlay differ => exact ⟨rfl, rfl, rfl, base, overlay, differ⟩
    | child hb ho _ _ _ _ => simp_all
  · rintro ⟨rfl, rfl, rfl, base, overlay, differ⟩
    exact .here base overlay differ

theorem first_conflict_mappings_iff {base overlay baseAt overlayAt : Value}
    {b o : List (Value × Value)} {p : List Value}
    (hb : base.entries? = some b) (ho : overlay.entries? = some o) :
    FirstConflict base overlay p baseAt overlayAt ↔
      ∃ (before : List (Value × Value)) (e : Value × Value) (after : List (Value × Value))
        (rest : List Value) (inner : Value), o = before ++ e :: after ∧
        (∀ e' ∈ before, ∀ inner', lookupKey b e'.1 = some inner' → ∀ p', ¬Conflict inner' e'.2 p') ∧
        lookupKey b e.1 = some inner ∧ FirstConflict inner e.2 rest baseAt overlayAt ∧
        p = e.1 :: rest := by
  constructor
  · intro first
    cases first with
    | here _ _ differ => exact absurd ((shape_of_entries hb).trans (shape_of_entries ho).symm) differ
    | child hb' ho' split clean found below =>
      rw [hb] at hb'
      rw [ho] at ho'
      cases hb'
      cases ho'
      exact ⟨_, _, _, _, _, split, clean, found, below, rfl⟩
  · rintro ⟨before, e, after, rest, inner, split, clean, found, below, rfl⟩
    exact .child hb ho split clean found below

theorem merge_at_eq_error_iff (path : String) (base overlay : Value) (err : MergeError) :
    mergeAt path base overlay = .error err ↔
      ∃ p baseAt overlayAt, FirstConflict base overlay p baseAt overlayAt ∧
        err = ⟨keyPath path p, Value.shape baseAt, overlayAt.kindName⟩ := by
  induction overlay using entries_induction generalizing path base err with
  | step overlay ih =>
    rcases mappings_or_flat base overlay with ⟨b, o, hb, ho⟩ | flat
    · rw [merge_at_mappings hb ho, map_eq_error_iff, merge_pairs_eq_error_iff]
      simp only [first_conflict_mappings_iff hb ho, entry_merge_ok_iff, entry_merge_eq_error_iff]
      constructor
      · rintro ⟨before, e, after, split, clean, inner, found, fails⟩
        have mem : e ∈ o := by simp [split]
        obtain ⟨p, baseAt, overlayAt, first, rfl⟩ := (ih o ho e mem _ inner _).1 fails
        exact ⟨e.1 :: p, baseAt, overlayAt,
          ⟨before, e, after, p, inner, split, clean, found, first, rfl⟩, rfl⟩
      · rintro ⟨_, baseAt, overlayAt, ⟨before, e, after, p, inner, split, clean, found, first, rfl⟩, rfl⟩
        have mem : e ∈ o := by simp [split]
        exact ⟨before, e, after, split, clean, inner, found,
          (ih o ho e mem _ inner _).2 ⟨p, baseAt, overlayAt, first, rfl⟩⟩
    · simp only [merge_at_flat_eq_error_iff flat, first_conflict_flat_iff flat]
      constructor
      · rintro ⟨base, overlay, differ, rfl⟩
        exact ⟨[], _, _, ⟨rfl, rfl, rfl, base, overlay, differ⟩, rfl⟩
      · rintro ⟨p, baseAt, overlayAt, ⟨rfl, rfl, rfl, base, overlay, differ⟩, rfl⟩
        exact ⟨base, overlay, differ, rfl⟩

/-- The key `true` matches the base's key `1`, and the path names the overlay's key. -/
example : mergeAt "" (.keyed [(.int 1, .object [("b", .int 1)])])
    (.keyed [(.bool true, .object [("b", .list [])])]) = .error ⟨"True.b", .scalar, "list"⟩ := by
  rfl

end Conveyor.Config

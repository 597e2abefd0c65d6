import Mathlib
import Conveyor.Table.Sort

/-!
# The sort by runs is the stable sort

`sortBy` cuts a list into runs, extends short runs by insertion, and merges neighbouring runs
on a stack after two galloping searches. Given a comparison that orders items by a key of a
linear order and never fails, its result is the stable sort of the list by that key: the items
in the order of their keys, the items of each key in the order they came
(`sort_by_eq_merge_sort`).

Stability is said one key at a time (`SameClasses`): two lists hold, for every key, the same
items of that key in the same order. It is an equivalence that appending respects, it implies
that the lists are permutations of each other, and an ascending list is determined by its
classes (`Ascending.eq_of_same_classes`). Every stage of the sort is proved to hand back an
ascending list with the classes of what it was given:

* a run taken from the front (`take_run_spec`), reversed when it strictly goes down;
* a run extended by insertion from the right (`extend_run_spec`);
* the two galloping searches, which find exactly where an item goes among its equals
  (`gallop_right_spec`, `gallop_left_spec`);
* the merges from the front and from the back, where an item of the later run goes first only
  when it is below (`merge_front_spec`, `merge_back_spec`), and the merge of two neighbouring
  runs (`merge_at_spec`);
* the stack of runs, whose runs read bottom to top hold the classes of what was pushed
  (`StackHolds`), kept by every settling step and by every push.

This module covers the runs and the searches; the merges, the stack and the whole sort
follow in `RunMerging`.
-/

namespace Conveyor.Table

set_option autoImplicit false

variable {α κ ε : Type} [LinearOrder κ]

/-! ## Ascending lists and key classes -/

def Ascending (key : α → κ) (xs : List α) : Prop :=
  xs.Pairwise fun a b => key a ≤ key b

def SameClasses (key : α → κ) (xs ys : List α) : Prop :=
  ∀ k, xs.filter (fun a => decide (key a = k)) = ys.filter (fun a => decide (key a = k))

variable {key : α → κ}

namespace SameClasses

variable {xs ys zs xs' ys' : List α}

theorem refl (xs : List α) : SameClasses key xs xs := fun _ => rfl

theorem symm (same : SameClasses key xs ys) : SameClasses key ys xs := fun k => (same k).symm

theorem trans (first : SameClasses key xs ys) (second : SameClasses key ys zs) :
    SameClasses key xs zs :=
  fun k => (first k).trans (second k)

theorem append (front : SameClasses key xs ys) (back : SameClasses key xs' ys') :
    SameClasses key (xs ++ xs') (ys ++ ys') :=
  fun k => by rw [List.filter_append, List.filter_append, front k, back k]

/-- Lists with the same classes are permutations of each other: an item is counted within
its own class. -/
theorem perm (same : SameClasses key xs ys) : xs.Perm ys := by
  classical
  rw [List.perm_iff_count]
  intro a
  have own : ∀ l : List α, (l.filter fun b => decide (key b = key a)).count a = l.count a :=
    fun l => List.count_filter (by simp)
  rw [← own xs, ← own ys, same (key a)]

theorem swap (apart : ∀ a ∈ xs, ∀ b ∈ ys, key a ≠ key b) :
    SameClasses key (xs ++ ys) (ys ++ xs) := by
  intro k
  rw [List.filter_append, List.filter_append]
  by_cases present : ∃ a ∈ xs, key a = k
  · obtain ⟨a, mem, rfl⟩ := present
    have none : ys.filter (fun b => decide (key b = key a)) = [] :=
      List.filter_eq_nil_iff.mpr fun b inYs same => apart a mem b inYs (of_decide_eq_true same).symm
    rw [none, List.nil_append, List.append_nil]
  · have none : xs.filter (fun b => decide (key b = k)) = [] :=
      List.filter_eq_nil_iff.mpr fun b inXs same => present ⟨b, inXs, by simpa using same⟩
    rw [none, List.nil_append, List.append_nil]

theorem cons (x : α) (same : SameClasses key xs ys) : SameClasses key (x :: xs) (x :: ys) :=
  (refl [x]).append same

theorem swap_within (front back : List α) (apart : ∀ a ∈ ys, ∀ b ∈ zs, key a ≠ key b) :
    SameClasses key (front ++ ys ++ zs ++ back) (front ++ zs ++ ys ++ back) := by
  have swapped := ((refl front).append (swap apart)).append (refl back)
  simpa only [List.append_assoc] using swapped

end SameClasses

theorem same_classes_reverse_of_descending {xs : List α}
    (descending : xs.Pairwise fun a b => key b < key a) : SameClasses key xs.reverse xs := by
  intro k
  rw [List.filter_reverse]
  have single : ∀ l : List α, l.Pairwise (fun a b => key b < key a) → (∀ a ∈ l, key a = k) →
      l.reverse = l := by
    intro l pairwise keyed
    rcases l with _ | ⟨a, _ | ⟨b, rest⟩⟩
    · rfl
    · rfl
    · have below := List.rel_of_pairwise_cons pairwise List.mem_cons_self
      rw [keyed a List.mem_cons_self, keyed b (by simp)] at below
      exact absurd below (lt_irrefl k)
  exact single _ (descending.filter _) fun a mem => by simpa using (List.mem_filter.mp mem).2

theorem Ascending.append {xs ys : List α} (front : Ascending key xs) (back : Ascending key ys)
    (across : ∀ a ∈ xs, ∀ b ∈ ys, key a ≤ key b) : Ascending key (xs ++ ys) :=
  List.pairwise_append.mpr ⟨front, back, across⟩

theorem pairwise_cons_of_head {R : α → α → Prop} (trans : ∀ a b c, R a b → R b c → R a c)
    {x y : α} {ys : List α} (first : R x y) (rest : (y :: ys).Pairwise R) :
    (x :: y :: ys).Pairwise R := by
  refine List.Pairwise.cons (fun b mem => ?_) rest
  rcases List.mem_cons.mp mem with rfl | later
  · exact first
  · exact trans _ _ _ first (List.rel_of_pairwise_cons rest later)

theorem Ascending.cons_of_le {x y : α} {ys : List α} (first : key x ≤ key y)
    (rest : Ascending key (y :: ys)) : Ascending key (x :: y :: ys) :=
  pairwise_cons_of_head (R := fun a b => key a ≤ key b) (fun _ _ _ => le_trans) first rest

theorem Ascending.head_le {x a : α} {xs : List α} (ascending : Ascending key (x :: xs))
    (mem : a ∈ x :: xs) : key x ≤ key a := by
  rcases List.mem_cons.mp mem with rfl | later
  · exact le_rfl
  · exact List.rel_of_pairwise_cons ascending later

theorem Ascending.of_reverse_cons {x : α} {xs : List α}
    (ascending : Ascending key (x :: xs).reverse) :
    Ascending key xs.reverse ∧ ∀ a ∈ x :: xs, key a ≤ key x := by
  have descending := List.pairwise_reverse.mp ascending
  refine ⟨List.pairwise_reverse.mpr descending.of_cons, fun a mem => ?_⟩
  rcases List.mem_cons.mp mem with rfl | later
  · exact le_rfl
  · exact List.rel_of_pairwise_cons descending later

theorem Ascending.le_of_get_last? {xs : List α} {x a : α} (ascending : Ascending key xs)
    (last : xs.getLast? = some x) (mem : a ∈ xs) : key a ≤ key x := by
  obtain ⟨front, rfl⟩ := List.getLast?_eq_some_iff.mp last
  rcases List.mem_append.mp mem with inFront | isLast
  · exact (List.pairwise_append.mp ascending).2.2 a inFront x (List.mem_singleton_self x)
  · rw [List.mem_singleton.mp isLast]

theorem Ascending.append_three {l m r : List α} {lo hi : κ} (ascL : Ascending key l)
    (ascM : Ascending key m) (ascR : Ascending key r) (left : ∀ a ∈ l, key a ≤ lo)
    (middle : ∀ b ∈ m, lo ≤ key b ∧ key b ≤ hi) (right : ∀ c ∈ r, hi ≤ key c)
    (ordered : lo ≤ hi) : Ascending key (l ++ m ++ r) := by
  refine (ascL.append ascM fun a inL b inM => (left a inL).trans (middle b inM).1).append ascR ?_
  intro a mem c inR
  rcases List.mem_append.mp mem with inL | inM
  · exact (left a inL).trans (ordered.trans (right c inR))
  · exact (middle a inM).2.trans (right c inR)

theorem Ascending.get_elem_le {run : List α} (ascending : Ascending key run) {i j : Nat}
    (hi : i < run.length) (hj : j < run.length) (le : i ≤ j) : key run[i] ≤ key run[j] := by
  rcases le.lt_or_eq with lt | rfl
  · exact List.pairwise_iff_getElem.mp ascending i j hi hj lt
  · exact le_rfl

theorem Ascending.split_of_boundary {run : List α} (ascending : Ascending key run) {p : κ → Prop}
    (downward : ∀ a b, a ≤ b → p b → p a) {k : Nat} (bounded : k ≤ run.length)
    (before : ∀ h : 0 < k, p (key run[k - 1])) (after : ∀ h : k < run.length, ¬ p (key run[k])) :
    (∀ a ∈ run.take k, p (key a)) ∧ ∀ a ∈ run.drop k, ¬ p (key a) := by
  constructor
  · intro a mem
    obtain ⟨i, inTake, rfl⟩ := List.mem_take_iff_getElem.mp mem
    exact downward _ _ (ascending.get_elem_le _ _ (by omega)) (before (by omega))
  · intro a mem holds
    obtain ⟨j, inDrop, rfl⟩ := List.mem_drop_iff_getElem.mp mem
    exact after (by omega) (downward _ _ (ascending.get_elem_le _ _ (by omega)) holds)

/-- An ascending list is determined by its classes: its first item is the first item of the
least key. -/
theorem Ascending.eq_of_same_classes {xs ys : List α} (ascXs : Ascending key xs)
    (ascYs : Ascending key ys) (same : SameClasses key xs ys) : xs = ys := by
  induction xs generalizing ys with
  | nil => exact (List.perm_nil.mp same.perm.symm).symm
  | cons x xs ih =>
    cases ys with
    | nil => exact absurd same.perm.length_eq (by simp)
    | cons y ys =>
      have inYs : x ∈ y :: ys := same.perm.subset List.mem_cons_self
      have inXs : y ∈ x :: xs := same.perm.symm.subset List.mem_cons_self
      have keys : key x = key y := by
        apply le_antisymm
        · rcases List.mem_cons.mp inXs with rfl | later
          · exact le_rfl
          · exact List.rel_of_pairwise_cons ascXs later
        · rcases List.mem_cons.mp inYs with rfl | later
          · exact le_rfl
          · exact List.rel_of_pairwise_cons ascYs later
      have heads := same (key x)
      simp only [List.filter_cons, keys, decide_true, if_true, List.cons.injEq] at heads
      obtain ⟨rfl, -⟩ := heads
      refine congrArg (x :: ·) (ih ascXs.of_cons ascYs.of_cons fun k => ?_)
      have classes := same k
      by_cases ofKey : key x = k <;> simpa [List.filter_cons, ofKey] using classes

/-! ## The comparison -/

section Keyed

variable {cmp : α → α → Except ε Ordering}
  (keyed : ∀ a b, cmp a b = .ok (compare (key a) (key b)))

theorem compare_bne_gt (a b : κ) : (compare a b != .gt) = decide (a ≤ b) := by
  cases h : compare a b <;> simp_all [← compare_le_iff_le]

theorem compare_beq_lt (a b : κ) : (compare a b == .lt) = decide (a < b) := by
  cases h : compare a b <;> simp_all [← compare_lt_iff_lt]

include keyed

/-! ## Runs -/

theorem ascending_from_spec (last : α) (xs : List α) :
    ∃ more tail, ascendingFrom cmp last xs = .ok (more, tail) ∧ more ++ tail = xs ∧
      Ascending key (last :: more) := by
  fun_induction ascendingFrom cmp last xs with
  | case1 => exact ⟨[], [], rfl, rfl, by simp [Ascending]⟩
  | case2 last x rest ih =>
    rw [keyed]
    by_cases up : key last ≤ key x
    · obtain ⟨more, tail, run, rfl, ascending⟩ := ih
      refine ⟨x :: more, tail, ?_, rfl, ?_⟩
      · simp only [bind, Except.bind, compare_bne_gt, up, decide_true, if_true, run]
        rfl
      · exact ascending.cons_of_le up
    · refine ⟨[], x :: rest, ?_, rfl, by simp [Ascending]⟩
      simp only [bind, Except.bind, compare_bne_gt, up, decide_false, Bool.false_eq_true, if_false]
      rfl

theorem descending_from_spec (last : α) (xs : List α) :
    ∃ more tail, descendingFrom cmp last xs = .ok (more, tail) ∧ more ++ tail = xs ∧
      (last :: more).Pairwise fun a b => key b < key a := by
  fun_induction descendingFrom cmp last xs with
  | case1 => exact ⟨[], [], rfl, rfl, by simp⟩
  | case2 last x rest ih =>
    rw [keyed]
    by_cases down : key x < key last
    · obtain ⟨more, tail, run, rfl, descending⟩ := ih
      refine ⟨x :: more, tail, ?_, rfl, ?_⟩
      · simp only [bind, Except.bind, compare_beq_lt, down, decide_true, if_true, run]
        rfl
      · exact pairwise_cons_of_head (fun _ _ _ first second => second.trans first) down descending
    · refine ⟨[], x :: rest, ?_, rfl, by simp⟩
      simp only [bind, Except.bind, compare_beq_lt, down, decide_false, Bool.false_eq_true, if_false]
      rfl

theorem take_run_spec (xs : List α) :
    ∃ run tail front, takeRun cmp xs = .ok (run, tail) ∧ xs = front ++ tail ∧
      SameClasses key run front ∧ Ascending key run ∧ (xs ≠ [] → front ≠ []) := by
  rcases xs with _ | ⟨x, _ | ⟨y, rest⟩⟩
  · exact ⟨[], [], [], rfl, rfl, SameClasses.refl _, by simp [Ascending], fun absurd => absurd⟩
  · exact ⟨[x], [], [x], rfl, rfl, SameClasses.refl _, by simp [Ascending], fun _ => by simp⟩
  · rw [takeRun, keyed]
    by_cases up : key x ≤ key y
    · obtain ⟨more, tail, run, rfl, ascending⟩ := ascending_from_spec keyed y rest
      refine ⟨x :: y :: more, tail, x :: y :: more, ?_, rfl, SameClasses.refl _, ?_, fun _ => by simp⟩
      · simp only [bind, Except.bind, compare_bne_gt, up, decide_true, if_true, run]
        rfl
      · exact ascending.cons_of_le up
    · obtain ⟨more, tail, run, rfl, descending⟩ := descending_from_spec keyed y rest
      have down : key y < key x := lt_of_not_ge up
      have whole : (x :: y :: more).Pairwise fun a b => key b < key a :=
        pairwise_cons_of_head (fun _ _ _ first second => second.trans first) down descending
      refine ⟨(x :: y :: more).reverse, tail, x :: y :: more, ?_, rfl,
        same_classes_reverse_of_descending whole, ?_, fun _ => by simp⟩
      · simp only [bind, Except.bind, compare_bne_gt, up, decide_false, Bool.false_eq_true, if_false,
          run]
        rfl
      · exact List.pairwise_reverse.mpr (whole.imp le_of_lt)

/-! ## Extending a run by insertion -/

theorem insert_from_right_spec (item : α) (rrev : List α) (ascending : Ascending key rrev.reverse) :
    ∃ out, insertFromRight cmp item rrev = .ok out ∧ Ascending key out.reverse ∧
      SameClasses key out.reverse (rrev.reverse ++ [item]) := by
  fun_induction insertFromRight cmp item rrev with
  | case1 => exact ⟨[item], rfl, by simp [Ascending], SameClasses.refl _⟩
  | case2 x xs ih =>
    rw [List.reverse_cons] at ascending
    have rest : Ascending key xs.reverse := (List.pairwise_append.mp ascending).1
    have belowX : ∀ a ∈ xs.reverse, key a ≤ key x :=
      fun a mem => (List.pairwise_append.mp ascending).2.2 a mem x List.mem_cons_self
    rw [keyed]
    by_cases below : key item < key x
    · obtain ⟨out, placed, ascOut, same⟩ := ih rest
      refine ⟨x :: out, ?_, ?_, ?_⟩
      · simp only [bind, Except.bind, compare_beq_lt, below, decide_true, if_true, placed]
        rfl
      · rw [List.reverse_cons]
        refine ascOut.append (by simp [Ascending]) fun a mem b inX => ?_
        rw [List.mem_singleton.mp inX]
        rcases List.mem_append.mp (same.perm.subset mem) with inXs | isItem
        · exact belowX a inXs
        · rw [List.mem_singleton.mp isItem]
          exact below.le
      · -- the item and `x` have different keys, so they may trade places
        rw [List.reverse_cons, List.reverse_cons, List.append_assoc xs.reverse [x] [item]]
        refine (same.append (SameClasses.refl [x])).trans ?_
        rw [List.append_assoc]
        refine (SameClasses.refl xs.reverse).append (SameClasses.swap ?_)
        simp only [List.mem_singleton, forall_eq]
        exact below.ne
    · refine ⟨item :: x :: xs, ?_, ?_, ?_⟩
      · simp only [bind, Except.bind, compare_beq_lt, below, decide_false, Bool.false_eq_true,
          if_false]
        rfl
      · rw [List.reverse_cons, List.reverse_cons]
        refine ascending.append (by simp [Ascending]) fun a mem b isItem => ?_
        rw [List.mem_singleton.mp isItem]
        rcases List.mem_append.mp mem with inXs | isX
        · exact (belowX a inXs).trans (le_of_not_gt below)
        · rw [List.mem_singleton.mp isX]
          exact le_of_not_gt below
      · rw [List.reverse_cons, List.reverse_cons]
        exact SameClasses.refl _

theorem extend_reversed_spec (extra : List α) :
    ∀ rrev : List α, Ascending key rrev.reverse → ∃ out, extendReversed cmp rrev extra = .ok out ∧
      Ascending key out.reverse ∧ SameClasses key out.reverse (rrev.reverse ++ extra) := by
  induction extra with
  | nil => exact fun rrev ascending => ⟨rrev, rfl, ascending, by simpa using SameClasses.refl _⟩
  | cons item rest ih =>
    intro rrev ascending
    obtain ⟨placed, inserted, ascPlaced, samePlaced⟩ := insert_from_right_spec keyed item rrev ascending
    obtain ⟨out, extended, ascOut, sameOut⟩ := ih placed ascPlaced
    refine ⟨out, ?_, ascOut, ?_⟩
    · simp only [extendReversed, bind, Except.bind, inserted, extended]
    · refine sameOut.trans ?_
      have := samePlaced.append (SameClasses.refl rest)
      simpa using this

theorem extend_run_spec {run : List α} (ascending : Ascending key run) (extra : List α) :
    ∃ out, extendRun cmp run extra = .ok out ∧ Ascending key out ∧
      SameClasses key out (run ++ extra) := by
  obtain ⟨out, extended, ascOut, same⟩ :=
    extend_reversed_spec keyed extra run.reverse (by simpa using ascending)
  refine ⟨out.reverse, ?_, ascOut, by simpa using same⟩
  simp only [extendRun, extended, Except.map]

theorem next_run_spec (least : Nat) (xs : List α) :
    ∃ run rest front, nextRun cmp least xs = .ok (run, rest) ∧ xs = front ++ rest ∧
      SameClasses key run front ∧ Ascending key run ∧ (xs ≠ [] → front ≠ []) := by
  obtain ⟨run, tail, front, taken, split, same, ascending, progress⟩ := take_run_spec keyed xs
  obtain ⟨out, extended, ascOut, sameOut⟩ :=
    extend_run_spec keyed ascending (tail.take (least - run.length))
  refine ⟨out, tail.drop (least - run.length), front ++ tail.take (least - run.length), ?_, ?_,
    sameOut.trans (same.append (SameClasses.refl _)), ascOut, fun nonempty => ?_⟩
  · simp only [nextRun, bind, Except.bind, taken, extended]
    rfl
  · rw [List.append_assoc, List.take_append_drop, split]
  · exact fun empty => progress nonempty (List.append_eq_nil_iff.mp empty).1

/-! ## The searches before a merge

Each search keeps two offsets whose items bound the place it looks for; the doubling steps
widen the gap and the halving steps close it, and when they meet the place is found. These
facts are about the two offsets only; that the place splits the whole run is where the run
being ascending comes in (`Ascending.split_of_boundary`). -/

theorem reach_right_spec (run : Array α) (pivot : α) (last ofs : Nat) (below : last < ofs)
    (inside : last < run.size) (notAbove : key run[last] ≤ key pivot) :
    ∃ last' ofs', reachRight cmp run pivot last ofs = .ok (last', ofs') ∧ last' < ofs' ∧
      ofs' ≤ run.size ∧ ∃ inside' : last' < run.size, key run[last'] ≤ key pivot ∧
        ∀ h : ofs' < run.size, key pivot < key run[ofs'] := by
  fun_induction reachRight cmp run pivot last ofs with
  | case1 last ofs within ih =>
    rw [keyed]
    by_cases above : key pivot < key run[ofs]
    · refine ⟨last, ofs, ?_, below, within.le, inside, notAbove, fun _ => above⟩
      simp only [bind, Except.bind, compare_beq_lt, above, decide_true, if_true]
      rfl
    · obtain ⟨last', ofs', reached, spec⟩ := ih (by omega) within (le_of_not_gt above)
      refine ⟨last', ofs', ?_, spec⟩
      simp only [bind, Except.bind, compare_beq_lt, above, decide_false, Bool.false_eq_true,
        if_false, reached]
  | case2 last ofs beyond =>
    exact ⟨last, run.size, rfl, inside, le_rfl, inside, notAbove, fun h => absurd h (lt_irrefl _)⟩

theorem narrow_right_spec (run : Array α) (pivot : α) (last ofs : Nat) (below : last < ofs)
    (bounded : ofs ≤ run.size) (inside : last < run.size) (notAbove : key run[last] ≤ key pivot)
    (above : ∀ h : ofs < run.size, key pivot < key run[ofs]) :
    ∃ o, narrowRight cmp run pivot last ofs = .ok o ∧ 0 < o ∧ o ≤ run.size ∧
      (∃ h : o - 1 < run.size, key run[o - 1] ≤ key pivot) ∧
        ∀ h : o < run.size, key pivot < key run[o] := by
  fun_induction narrowRight cmp run pivot last ofs with
  | case1 last ofs apart m ihLow ihHigh =>
    have middle : last < m ∧ m < ofs := by omega
    have mInside : m < run.size := by omega
    have probe : run.getD m pivot = run[m] := by simp [mInside]
    rw [keyed, probe]
    by_cases lower : key pivot < key run[m]
    · obtain ⟨o, narrowed, spec⟩ := ihLow middle.1 (by omega) inside notAbove fun _ => lower
      refine ⟨o, ?_, spec⟩
      simp only [bind, Except.bind, compare_beq_lt, lower, decide_true, if_true, narrowed]
    · obtain ⟨o, narrowed, spec⟩ := ihHigh middle.2 bounded mInside (le_of_not_gt lower) above
      refine ⟨o, ?_, spec⟩
      simp only [bind, Except.bind, compare_beq_lt, lower, decide_false, Bool.false_eq_true,
        if_false, narrowed]
  | case2 last ofs met =>
    have adjacent : ofs - 1 = last := by omega
    exact ⟨ofs, rfl, by omega, bounded, ⟨by omega, by simpa only [adjacent] using notAbove⟩, above⟩

theorem reach_left_spec (run : Array α) (pivot : α) (last ofs : Nat) (below : last < ofs)
    (inside : last < run.size) (notBelow : key pivot ≤ key run[run.size - 1 - last]) :
    ∃ last' ofs', reachLeft cmp run pivot last ofs = .ok (last', ofs') ∧ last' < ofs' ∧
      ofs' ≤ run.size ∧ ∃ inside' : last' < run.size, key pivot ≤ key run[run.size - 1 - last'] ∧
        ∀ h : ofs' < run.size, key run[run.size - 1 - ofs'] < key pivot := by
  fun_induction reachLeft cmp run pivot last ofs with
  | case1 last ofs within ih =>
    have probe : run.getD (run.size - ofs - 1) pivot = run[run.size - 1 - ofs] := by
      simp only [Array.getD_eq_getD_getElem?, Nat.sub_right_comm]
      rw [Array.getElem?_eq_getElem (by omega), Option.getD_some]
    rw [probe, keyed]
    by_cases lower : key run[run.size - 1 - ofs] < key pivot
    · refine ⟨last, ofs, ?_, below, within.le, inside, notBelow, fun _ => lower⟩
      simp only [bind, Except.bind, compare_beq_lt, lower, decide_true, if_true]
      rfl
    · obtain ⟨last', ofs', reached, spec⟩ := ih (by omega) within (le_of_not_gt lower)
      refine ⟨last', ofs', ?_, spec⟩
      simp only [bind, Except.bind, compare_beq_lt, lower, decide_false, Bool.false_eq_true,
        if_false, reached]
  | case2 last ofs beyond =>
    exact ⟨last, run.size, rfl, inside, le_rfl, inside, notBelow, fun h => absurd h (lt_irrefl _)⟩

theorem narrow_left_spec (run : Array α) (pivot : α) (lo hi : Nat) (below : lo < hi)
    (bounded : hi ≤ run.size) (lower : ∀ h : 0 < lo, key run[lo - 1] < key pivot)
    (notBelow : key pivot ≤ key run[hi - 1]) :
    ∃ o, narrowLeft cmp run pivot lo hi = .ok o ∧ ∃ inside : o < run.size,
      (∀ h : 0 < o, key run[o - 1] < key pivot) ∧ key pivot ≤ key run[o] := by
  fun_induction narrowLeft cmp run pivot lo hi with
  | case1 lo hi apart m ihHigh ihLow =>
    have middle : lo < m ∧ m < hi := by omega
    have probe : run.getD (m - 1) pivot = run[m - 1] := by simp [show m - 1 < run.size by omega]
    rw [probe, keyed]
    by_cases below' : key run[m - 1] < key pivot
    · obtain ⟨o, narrowed, spec⟩ := ihHigh middle.2 bounded (fun _ => below') notBelow
      refine ⟨o, ?_, spec⟩
      simp only [bind, Except.bind, compare_beq_lt, below', decide_true, if_true, narrowed]
    · obtain ⟨o, narrowed, spec⟩ := ihLow middle.1 (by omega) lower (le_of_not_gt below')
      refine ⟨o, ?_, spec⟩
      simp only [bind, Except.bind, compare_beq_lt, below', decide_false, Bool.false_eq_true,
        if_false, narrowed]
  | case2 lo hi met =>
    have adjacent : hi - 1 = lo := by omega
    refine ⟨hi - 1, rfl, by omega, fun positive => ?_, notBelow⟩
    have := lower (by omega)
    simpa only [adjacent] using this

theorem gallop_right_spec {run : List α} (ascending : Ascending key run) (pivot : α) :
    ∃ k, gallopRight cmp run.toArray pivot = .ok k ∧ k ≤ run.length ∧
      (∀ a ∈ run.take k, key a ≤ key pivot) ∧ ∀ a ∈ run.drop k, key pivot < key a := by
  have placed : ∃ k, gallopRight cmp run.toArray pivot = .ok k ∧ ∃ bounded : k ≤ run.length,
      (∀ h : 0 < k, key run[k - 1] ≤ key pivot) ∧
        ∀ h : k < run.length, key pivot < key run[k] := by
    unfold gallopRight
    by_cases nonempty : 0 < run.toArray.size
    · rw [dif_pos nonempty, keyed]
      have length : 0 < run.length := by simpa using nonempty
      by_cases above : key pivot < key run[0]
      · refine ⟨0, ?_, Nat.zero_le _, fun h => absurd h (lt_irrefl 0), fun _ => above⟩
        simp only [List.getElem_toArray, bind, Except.bind, compare_beq_lt, above, decide_true,
          if_true]
        rfl
      · obtain ⟨last, ofs, reached, apart, bounded, inside, notAbove, aboveOfs⟩ :=
          reach_right_spec keyed run.toArray pivot 0 1 zero_lt_one nonempty
            (by simpa using le_of_not_gt above)
        obtain ⟨o, narrowed, positive, bounded', ⟨inside', before⟩, after⟩ :=
          narrow_right_spec keyed run.toArray pivot last ofs apart bounded inside notAbove aboveOfs
        simp only [List.size_toArray, List.getElem_toArray] at bounded' before after
        refine ⟨o, ?_, bounded', fun _ => before, after⟩
        simp only [List.getElem_toArray, bind, Except.bind, compare_beq_lt, above, decide_false,
          Bool.false_eq_true, if_false, reached, narrowed]
    · rw [dif_neg nonempty]
      exact ⟨0, rfl, Nat.zero_le _, fun h => absurd h (lt_irrefl 0),
        fun h => absurd (by simpa using h) nonempty⟩
  obtain ⟨k, found, bounded, before, after⟩ := placed
  have split := ascending.split_of_boundary (fun _ _ => le_trans) bounded before
    fun h => not_le.mpr (after h)
  exact ⟨k, found, bounded, split.1, fun a mem => not_le.mp (split.2 a mem)⟩

theorem gallop_left_spec {run : List α} (ascending : Ascending key run) (pivot : α) :
    ∃ n, gallopLeft cmp run.toArray pivot = .ok n ∧ n ≤ run.length ∧
      (∀ a ∈ run.take n, key a < key pivot) ∧ ∀ a ∈ run.drop n, key pivot ≤ key a := by
  have placed : ∃ n, gallopLeft cmp run.toArray pivot = .ok n ∧ ∃ bounded : n ≤ run.length,
      (∀ h : 0 < n, key run[n - 1] < key pivot) ∧
        ∀ h : n < run.length, key pivot ≤ key run[n] := by
    unfold gallopLeft
    by_cases nonempty : 0 < run.toArray.size
    · rw [dif_pos nonempty, keyed]
      have length : 0 < run.length := by simpa using nonempty
      by_cases lower : key run[run.length - 1] < key pivot
      · refine ⟨run.length, ?_, le_rfl, fun _ => lower, fun h => absurd h (lt_irrefl _)⟩
        simp only [List.getElem_toArray, List.size_toArray, bind, Except.bind, compare_beq_lt,
          lower, decide_true, if_true]
        rfl
      · obtain ⟨last, ofs, reached, apart, bounded, inside, notBelow, lowerOfs⟩ :=
          reach_left_spec keyed run.toArray pivot 0 1 zero_lt_one nonempty
            (by simpa using le_of_not_gt lower)
        simp only [List.size_toArray, List.getElem_toArray] at bounded inside notBelow lowerOfs
        obtain ⟨o, narrowed, inside', before, after⟩ :=
          narrow_left_spec keyed run.toArray pivot (run.length - ofs) (run.length - last)
            (by omega) (by simp)
            (fun h => by
              simp only [List.getElem_toArray, show run.length - ofs - 1 = run.length - 1 - ofs by omega]
              exact lowerOfs (by omega))
            (by simpa [show run.length - last - 1 = run.length - 1 - last by omega] using notBelow)
        simp only [List.size_toArray, List.getElem_toArray] at inside' before after
        refine ⟨o, ?_, inside'.le, before, fun _ => after⟩
        simp only [List.getElem_toArray, List.size_toArray, bind, Except.bind, compare_beq_lt,
          lower, decide_false, Bool.false_eq_true, if_false, reached, narrowed]
    · rw [dif_neg nonempty]
      exact ⟨0, rfl, Nat.zero_le _, fun h => absurd h (lt_irrefl 0),
        fun h => absurd (by simpa using h) nonempty⟩
  obtain ⟨n, found, bounded, before, after⟩ := placed
  have split := ascending.split_of_boundary (fun _ _ => lt_of_le_of_lt) bounded before
    fun h => not_lt.mpr (after h)
  exact ⟨n, found, bounded, split.1, fun a mem => not_lt.mp (split.2 a mem)⟩

end Keyed

end Conveyor.Table

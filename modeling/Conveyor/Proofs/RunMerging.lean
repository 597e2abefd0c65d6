import Conveyor.Proofs.StableSort

/-!
# Merging runs, and the whole sort

The merges from the front and from the back keep an item of the later run behind its equals
of the earlier one (`merge_front_spec`, `merge_back_spec`, `merge_at_spec`); the stack of runs
holds the classes of what was pushed through every settling step (`StackHolds`). Together they
make `sortBy` the stable sort by the key (`sort_by_eq_merge_sort`).
-/

namespace Conveyor.Table

set_option autoImplicit false

variable {α κ ε : Type} [LinearOrder κ]

variable {key : α → κ}

section Keyed

variable {cmp : α → α → Except ε Ordering}
  (keyed : ∀ a b, cmp a b = .ok (compare (key a) (key b)))

include keyed

theorem merge_front_spec {xs ys : List α} (ascXs : Ascending key xs) (ascYs : Ascending key ys) :
    ∃ merged, mergeFront cmp xs ys = .ok merged ∧ Ascending key merged ∧
      SameClasses key merged (xs ++ ys) := by
  fun_induction mergeFront cmp xs ys with
  | case1 ys => exact ⟨ys, rfl, ascYs, SameClasses.refl _⟩
  | case2 xs _ => exact ⟨xs, rfl, ascXs, by simpa using SameClasses.refl xs⟩
  | case3 x xs y ys ihLater ihEarlier =>
    rw [keyed]
    by_cases below : key y < key x
    · obtain ⟨merged, done, ascending, same⟩ := ihLater ascXs ascYs.of_cons
      have above : ∀ a ∈ x :: xs, key y < key a := fun a mem => below.trans_le (ascXs.head_le mem)
      refine ⟨y :: merged, ?_, List.Pairwise.cons (fun b mem => ?_) ascending, ?_⟩
      · simp only [bind, Except.bind, compare_beq_lt, below, decide_true, if_true, done]
        rfl
      · rcases List.mem_append.mp (same.perm.subset mem) with inXs | inYs
        · exact (above b inXs).le
        · exact ascYs.head_le (List.mem_cons_of_mem y inYs)
      · have apart : ∀ a ∈ [y], ∀ b ∈ x :: xs, key a ≠ key b := by
          simpa using fun b mem => (above b mem).ne
        have swapped := SameClasses.swap_within [] ys apart
        exact (same.cons y).trans (by simpa using swapped)
    · obtain ⟨merged, done, ascending, same⟩ := ihEarlier ascXs.of_cons ascYs
      have notBelow : key x ≤ key y := le_of_not_gt below
      refine ⟨x :: merged, ?_, List.Pairwise.cons (fun b mem => ?_) ascending, same.cons x⟩
      · simp only [bind, Except.bind, compare_beq_lt, below, decide_false, Bool.false_eq_true,
          if_false, done]
        rfl
      · rcases List.mem_append.mp (same.perm.subset mem) with inXs | inYs
        · exact ascXs.head_le (List.mem_cons_of_mem x inXs)
        · exact notBelow.trans (ascYs.head_le inYs)

theorem merge_back_spec {xs ys : List α} (ascXs : Ascending key xs.reverse)
    (ascYs : Ascending key ys.reverse) :
    ∃ merged, mergeBack cmp xs ys = .ok merged ∧ Ascending key merged.reverse ∧
      SameClasses key merged.reverse (xs.reverse ++ ys.reverse) := by
  fun_induction mergeBack cmp xs ys with
  | case1 ys => exact ⟨ys, rfl, ascYs, SameClasses.refl _⟩
  | case2 xs _ => exact ⟨xs, rfl, ascXs, by simpa using SameClasses.refl _⟩
  | case3 x xs y ys ihEarlier ihLater =>
    obtain ⟨restXs, belowX⟩ := ascXs.of_reverse_cons
    obtain ⟨restYs, belowY⟩ := ascYs.of_reverse_cons
    rw [keyed]
    by_cases below : key y < key x
    · obtain ⟨merged, done, ascending, same⟩ := ihEarlier restXs ascYs
      refine ⟨x :: merged, ?_, ?_, ?_⟩
      · simp only [bind, Except.bind, compare_beq_lt, below, decide_true, if_true, done]
        rfl
      · rw [List.reverse_cons]
        refine ascending.append (by simp [Ascending]) fun a mem b isX => ?_
        rw [List.mem_singleton.mp isX]
        rcases List.mem_append.mp (same.perm.subset mem) with inXs | inYs
        · exact belowX a (List.mem_cons_of_mem x (List.mem_reverse.mp inXs))
        · exact (belowY a (List.mem_reverse.mp inYs)).trans below.le
      · -- `x` is above every item of the later run, so it goes behind all of them
        have apart : ∀ a ∈ (y :: ys).reverse, ∀ b ∈ [x], key a ≠ key b := by
          intro a mem b isX
          rw [List.mem_singleton.mp isX]
          exact ((belowY a (List.mem_reverse.mp mem)).trans_lt below).ne
        have swapped := SameClasses.swap_within xs.reverse [] apart
        rw [List.reverse_cons]
        exact (same.append (SameClasses.refl [x])).trans (by simpa using swapped)
    · obtain ⟨merged, done, ascending, same⟩ := ihLater ascXs restYs
      have notBelow : key x ≤ key y := le_of_not_gt below
      refine ⟨y :: merged, ?_, ?_, ?_⟩
      · simp only [bind, Except.bind, compare_beq_lt, below, decide_false, Bool.false_eq_true,
          if_false, done]
        rfl
      · rw [List.reverse_cons]
        refine ascending.append (by simp [Ascending]) fun a mem b isY => ?_
        rw [List.mem_singleton.mp isY]
        rcases List.mem_append.mp (same.perm.subset mem) with inXs | inYs
        · exact (belowX a (List.mem_reverse.mp inXs)).trans notBelow
        · exact belowY a (List.mem_cons_of_mem y (List.mem_reverse.mp inYs))
      · have appended := same.append (SameClasses.refl [y])
        rw [List.reverse_cons]
        simpa using appended

theorem merge_middle_spec {front back : List α} (ascFront : Ascending key front)
    (ascBack : Ascending key back) (lastAbove : ∀ x ∈ front.getLast?, ∀ b ∈ back, key b < key x)
    (firstBelow : ∀ y ∈ back.head?, ∀ a ∈ front, key y < key a) :
    ∃ merged, mergeMiddle cmp front back = .ok merged ∧ Ascending key merged ∧
      SameClasses key merged (front ++ back) := by
  unfold mergeMiddle
  by_cases shorter : back.length < front.length
  · rw [if_pos shorter]
    cases reversed : front.reverse with
    | nil =>
      obtain rfl := List.reverse_eq_nil_iff.mp reversed
      exact ⟨back, rfl, ascBack, SameClasses.refl _⟩
    | cons x xs =>
      obtain rfl := List.reverse_eq_cons_iff.mp reversed
      obtain ⟨restXs, belowX⟩ := (show Ascending key (x :: xs).reverse by simpa using ascFront).of_reverse_cons
      have above : ∀ b ∈ back, key b < key x := lastAbove x (by simp)
      obtain ⟨merged, done, ascending, same⟩ :=
        merge_back_spec keyed restXs (show Ascending key back.reverse.reverse by simpa using ascBack)
      refine ⟨(x :: merged).reverse, ?_, ?_, ?_⟩
      · simp only [bind, Except.bind, done]
        rfl
      · rw [List.reverse_cons]
        refine ascending.append (by simp [Ascending]) fun a mem b isX => ?_
        rw [List.mem_singleton.mp isX]
        rcases List.mem_append.mp (same.perm.subset mem) with inXs | inBack
        · exact belowX a (List.mem_cons_of_mem x (List.mem_reverse.mp inXs))
        · exact (above a (by simpa using inBack)).le
      · -- the last item of the earlier part goes behind the whole later part
        have apart : ∀ a ∈ back, ∀ b ∈ [x], key a ≠ key b := by
          intro a mem b isX
          rw [List.mem_singleton.mp isX]
          exact (above a mem).ne
        have swapped := SameClasses.swap_within xs.reverse [] apart
        rw [List.reverse_cons]
        exact (same.append (SameClasses.refl [x])).trans (by simpa using swapped)
  · rw [if_neg shorter]
    cases back with
    | nil => exact ⟨front, rfl, ascFront, by simpa using SameClasses.refl front⟩
    | cons y ys =>
      have below : ∀ a ∈ front, key y < key a := firstBelow y (by simp)
      obtain ⟨merged, done, ascending, same⟩ := merge_front_spec keyed ascFront ascBack.of_cons
      refine ⟨y :: merged, ?_, List.Pairwise.cons (fun b mem => ?_) ascending, ?_⟩
      · simp only [bind, Except.bind, done]
        rfl
      · rcases List.mem_append.mp (same.perm.subset mem) with inFront | inYs
        · exact (below b inFront).le
        · exact ascBack.head_le (List.mem_cons_of_mem y inYs)
      · -- the first item of the later part goes in front of the whole earlier part
        have apart : ∀ a ∈ [y], ∀ b ∈ front, key a ≠ key b := by
          simpa using fun b mem => (below b mem).ne
        have swapped := SameClasses.swap_within [] ys apart
        exact (same.cons y).trans (by simpa using swapped)

theorem merge_at_spec {earlier later : List α} (ascEarlier : Ascending key earlier)
    (ascLater : Ascending key later) :
    ∃ merged, mergeAt cmp earlier later = .ok merged ∧ Ascending key merged ∧
      SameClasses key merged (earlier ++ later) := by
  unfold mergeAt
  cases later with
  | nil =>
    cases earlier.getLast? <;> exact ⟨earlier ++ [], rfl, by simpa using ascEarlier, SameClasses.refl _⟩
  | cons first rest =>
    cases last : earlier.getLast? with
    | none =>
      obtain rfl := List.getLast?_eq_none_iff.mp last
      exact ⟨[] ++ first :: rest, rfl, ascLater, SameClasses.refl _⟩
    | some lastEarlier =>
      obtain ⟨k, found, bounded, notAbove, above⟩ := gallop_right_spec keyed ascEarlier first
      by_cases whole : k = earlier.length
      · -- the whole earlier run is not above the later one
        have allNotAbove : ∀ a ∈ earlier, key a ≤ key first := by simpa [whole] using notAbove
        refine ⟨earlier ++ first :: rest, ?_, ascEarlier.append ascLater fun a mem b inLater =>
          (allNotAbove a mem).trans (ascLater.head_le inLater), SameClasses.refl _⟩
        simp only [bind, Except.bind, found, whole, beq_self_eq_true, if_true]
        rfl
      · have lastInDrop : lastEarlier ∈ earlier.drop k :=
          List.mem_of_getLast? (by rw [List.getLast?_drop, if_neg (by omega), last])
        have firstBelowLast : key first < key lastEarlier := above lastEarlier lastInDrop
        obtain ⟨n, found', boundedN, below, notBelow⟩ := gallop_left_spec keyed ascLater lastEarlier
        have lastAbove : ∀ x ∈ (earlier.drop k).getLast?, ∀ b ∈ (first :: rest).take n,
            key b < key x := by
          intro x mem b inTake
          rw [List.getLast?_drop, if_neg (by omega), last, Option.mem_some_iff] at mem
          exact mem ▸ below b inTake
        have firstBelow : ∀ y ∈ ((first :: rest).take n).head?, ∀ a ∈ earlier.drop k,
            key y < key a := by
          intro y mem a inDrop
          rw [List.head?_take] at mem
          have isFirst : y = first := by
            split_ifs at mem
            · exact absurd mem (by simp)
            · simpa using mem.symm
          exact isFirst ▸ above a inDrop
        obtain ⟨merged, done, ascending, same⟩ :=
          merge_middle_spec keyed (ascEarlier.sublist (List.drop_sublist _ _))
            (ascLater.sublist (List.take_sublist _ _)) lastAbove firstBelow
        have middle : ∀ b ∈ merged, key first ≤ key b ∧ key b ≤ key lastEarlier := by
          intro b mem
          rcases List.mem_append.mp (same.perm.subset mem) with inDrop | inTake
          · exact ⟨(above b inDrop).le, ascEarlier.le_of_get_last? last (List.mem_of_mem_drop inDrop)⟩
          · exact ⟨ascLater.head_le (List.mem_of_mem_take inTake), (below b inTake).le⟩
        refine ⟨earlier.take k ++ merged ++ (first :: rest).drop n, ?_, ?_, ?_⟩
        · simp only [bind, Except.bind, found, found', done, beq_iff_eq, whole, if_false]
          rfl
        · exact Ascending.append_three (ascEarlier.sublist (List.take_sublist _ _)) ascending
            (ascLater.sublist (List.drop_sublist _ _)) notAbove middle notBelow firstBelowLast.le
        · -- the merged middle stands for the back of the earlier run and the front of the later
          have parts := ((SameClasses.refl (earlier.take k)).append same).append
            (SameClasses.refl ((first :: rest).drop n))
          have rejoined : earlier.take k ++ (earlier.drop k ++ (first :: rest).take n) ++
              (first :: rest).drop n = earlier ++ first :: rest := by
            rw [List.append_assoc, List.append_assoc, List.take_append_drop, ← List.append_assoc,
              List.take_append_drop]
          rwa [rejoined] at parts

/-! ## The stack of runs -/

/-- A stack of runs, newest first, every run ascending, the runs read from the oldest holding
the classes of what was pushed. -/
structure StackHolds (key : α → κ) (stack : List (List α)) (pushed : List α) : Prop where
  ascending : ∀ r ∈ stack, Ascending key r
  classes : SameClasses key stack.reverse.flatten pushed

theorem StackHolds.merge_neighbours (top : List (List α)) {bottom : List (List α)}
    {later earlier pushed : List α} (holds : StackHolds key (top ++ later :: earlier :: bottom) pushed) :
    ∃ merged, mergeAt cmp earlier later = .ok merged ∧
      StackHolds key (top ++ merged :: bottom) pushed := by
  obtain ⟨merged, done, ascending, same⟩ :=
    merge_at_spec keyed (holds.ascending earlier (by simp)) (holds.ascending later (by simp))
  refine ⟨merged, done, ⟨fun r mem => ?_, ?_⟩⟩
  · rcases List.mem_append.mp mem with inTop | inRest
    · exact holds.ascending r (List.mem_append_left _ inTop)
    · rcases List.mem_cons.mp inRest with rfl | inBottom
      · exact ascending
      · exact holds.ascending r (by simp [inBottom])
  · have parts := (SameClasses.refl bottom.reverse.flatten).append
      (same.append (SameClasses.refl top.reverse.flatten))
    exact SameClasses.trans (by simpa using parts) holds.classes

omit keyed in
theorem StackHolds.single {run pushed : List α} (holds : StackHolds key [run] pushed) :
    Ascending key run ∧ SameClasses key run pushed :=
  ⟨holds.ascending run List.mem_cons_self, by simpa using holds.classes⟩

theorem settle_spec {stack : List (List α)} {pushed : List α} (holds : StackHolds key stack pushed) :
    ∃ out, settle cmp stack = .ok out ∧ StackHolds key out pushed := by
  fun_induction settle cmp stack with
  | case1 c b a rest deep urgent _ ih =>
    obtain ⟨merged, done, holdsMerged⟩ := holds.merge_neighbours keyed [c]
    obtain ⟨out, settled, holdsOut⟩ := ih merged holdsMerged
    exact ⟨out, by simp only [bind, Except.bind, done, settled], holdsOut⟩
  | case2 c b a rest deep urgent _ ih =>
    obtain ⟨merged, done, holdsMerged⟩ := holds.merge_neighbours keyed []
    obtain ⟨out, settled, holdsOut⟩ := ih merged holdsMerged
    exact ⟨out, by simp only [bind, Except.bind, done, settled], holdsOut⟩
  | case3 c b a rest deep calm _ ih =>
    obtain ⟨merged, done, holdsMerged⟩ := holds.merge_neighbours keyed []
    obtain ⟨out, settled, holdsOut⟩ := ih merged holdsMerged
    exact ⟨out, by simp only [bind, Except.bind, done, settled], holdsOut⟩
  | case4 => exact ⟨_, rfl, holds⟩
  | case5 c b _ =>
    obtain ⟨merged, done, holdsMerged⟩ := holds.merge_neighbours keyed []
    exact ⟨[merged], by simp only [bind, Except.bind, done]; rfl, holdsMerged⟩
  | case6 => exact ⟨_, rfl, holds⟩
  | case7 => exact ⟨_, rfl, holds⟩

theorem settle_all_spec {stack : List (List α)} {pushed : List α}
    (holds : StackHolds key stack pushed) :
    ∃ sorted, settleAll cmp stack = .ok sorted ∧ Ascending key sorted ∧
      SameClasses key sorted pushed := by
  fun_induction settleAll cmp stack with
  | case1 => exact ⟨[], rfl, List.Pairwise.nil, by simpa using holds.classes⟩
  | case2 run => exact ⟨run, rfl, holds.single⟩
  | case3 c b =>
    obtain ⟨merged, done, holdsMerged⟩ := holds.merge_neighbours keyed []
    exact ⟨merged, done, holdsMerged.single⟩
  | case4 c b a rest _ ih =>
    obtain ⟨merged, done, holdsMerged⟩ := holds.merge_neighbours keyed [c]
    obtain ⟨sorted, settled, rest⟩ := ih merged holdsMerged
    exact ⟨sorted, by simp only [bind, Except.bind, done, settled], rest⟩
  | case5 c b a rest _ ih =>
    obtain ⟨merged, done, holdsMerged⟩ := holds.merge_neighbours keyed []
    obtain ⟨sorted, settled, rest⟩ := ih merged holdsMerged
    exact ⟨sorted, by simp only [bind, Except.bind, done, settled], rest⟩

theorem push_runs_spec (least fuel : Nat) {stack : List (List α)} {pushed xs : List α}
    (enough : xs.length ≤ fuel) (holds : StackHolds key stack pushed) :
    ∃ out, pushRuns cmp least fuel stack xs = .ok out ∧ StackHolds key out (pushed ++ xs) := by
  induction fuel generalizing stack pushed xs with
  | zero =>
    obtain rfl : xs = [] := List.eq_nil_of_length_eq_zero (by omega)
    exact ⟨stack, rfl, by simpa using holds⟩
  | succ fuel ih =>
    cases xs with
    | nil => exact ⟨stack, rfl, by simpa using holds⟩
    | cons x rest =>
      obtain ⟨run, tail, front, taken, split, same, ascending, progress⟩ :=
        next_run_spec keyed least (x :: rest)
      have nonempty : front ≠ [] := progress (List.cons_ne_nil x rest)
      have pushedRun : StackHolds key (run :: stack) (pushed ++ front) := by
        refine ⟨fun r mem => ?_, by simpa using holds.classes.append same⟩
        rcases List.mem_cons.mp mem with rfl | inStack
        · exact ascending
        · exact holds.ascending r inStack
      obtain ⟨settled, done, holdsSettled⟩ := settle_spec keyed pushedRun
      have shorter : tail.length ≤ fuel := by
        have lengths := congrArg List.length split
        have positive := List.length_pos_of_ne_nil nonempty
        simp only [List.length_cons, List.length_append] at lengths enough
        omega
      obtain ⟨out, pushedAll, holdsOut⟩ := ih shorter holdsSettled
      refine ⟨out, ?_, ?_⟩
      · simp only [pushRuns, bind, Except.bind, taken, done]
        exact pushedAll
      · rw [split, ← List.append_assoc]
        exact holdsOut

/-! ## The sort -/

theorem sort_by_spec (xs : List α) :
    ∃ sorted, sortBy cmp xs = .ok sorted ∧ Ascending key sorted ∧ SameClasses key sorted xs := by
  have empty : StackHolds key ([] : List (List α)) [] := ⟨by simp, SameClasses.refl []⟩
  obtain ⟨stack, pushed, holds⟩ := push_runs_spec keyed (minRun xs.length) xs.length
    (le_refl xs.length) empty
  obtain ⟨sorted, settled, ascending, same⟩ := settle_all_spec keyed holds
  refine ⟨sorted, ?_, ascending, by simpa using same⟩
  simp only [sortBy, bind, Except.bind, pushed, settled]

end Keyed

theorem ascending_merge_sort (xs : List α) :
    Ascending key (xs.mergeSort fun a b => decide (key a ≤ key b)) := by
  have sorted : (xs.mergeSort fun a b => decide (key a ≤ key b)).Pairwise
      (fun a b => decide (key a ≤ key b) = true) :=
    List.pairwise_mergeSort (fun a b c ab bc => by simp only [decide_eq_true_eq] at ab bc ⊢; exact le_trans ab bc)
      (fun a b => by simpa using le_total (key a) (key b)) xs
  simpa [Ascending] using sorted

/-- The library's merge sort by the key is stable: the items of each key are a sublist of the
list that is ascending, so the sort keeps them in order, and it keeps them all. -/
theorem same_classes_merge_sort (xs : List α) :
    SameClasses key (xs.mergeSort fun a b => decide (key a ≤ key b)) xs := by
  intro k
  have ofKey : (xs.filter fun a => decide (key a = k)).Pairwise
      (fun a b => decide (key a ≤ key b) = true) := by
    refine List.pairwise_of_forall_mem_list fun a inA b inB => ?_
    simp only [List.mem_filter, decide_eq_true_eq] at inA inB
    simp [inA.2, inB.2]
  have kept := (List.sublist_mergeSort (fun a b c ab bc => by simp only [decide_eq_true_eq] at ab bc ⊢; exact le_trans ab bc)
    (fun a b => by simpa using le_total (key a) (key b)) ofKey List.filter_sublist).filter
      (fun a => decide (key a = k))
  simp only [List.filter_filter, Bool.and_self] at kept
  have lengths := ((List.mergeSort_perm xs fun a b => decide (key a ≤ key b)).filter
    (fun a => decide (key a = k))).length_eq
  exact (kept.eq_of_length lengths.symm).symm

section Keyed

variable {cmp : α → α → Except ε Ordering}
  (keyed : ∀ a b, cmp a b = .ok (compare (key a) (key b)))

include keyed

/-- Given a comparison by a key of a linear order that never fails, the sort by runs is the
stable sort by the key. -/
theorem sort_by_eq_merge_sort (xs : List α) :
    sortBy cmp xs = .ok (xs.mergeSort fun a b => decide (key a ≤ key b)) := by
  obtain ⟨sorted, done, ascending, same⟩ := sort_by_spec keyed xs
  rw [done, ascending.eq_of_same_classes (ascending_merge_sort xs)
    (same.trans (same_classes_merge_sort xs).symm)]

end Keyed

end Conveyor.Table

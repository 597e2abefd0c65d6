import Mathlib
import Conveyor.Proofs.RunMerging

/-!
# Sorting mapped items

The sort by runs looks at items only through the comparison. So sorting the images of items
under a map is the same as sorting the items by the comparison of their images and then
mapping (`sort_by_map`); every stage of the sort is proved to commute with the map in turn.

With it the stable-sort theorem holds for a comparison that orders by a key only on the items
of the list at hand (`sort_by_eq_merge_sort_of_mem`): the items are carried into the subtype of
the list's members, where the comparison orders by the key everywhere.
-/

namespace Conveyor.Table

set_option autoImplicit false

variable {α β ε : Type} (f : β → α) (cmp : α → α → Except ε Ordering)

def cmpOn (a b : β) : Except ε Ordering :=
  cmp (f a) (f b)

def mapPair (p : List β × List β) : List α × List α :=
  (p.1.map f, p.2.map f)

theorem array_get_d_map (run : Array β) (i : Nat) (d : β) :
    (run.map f).getD i (f d) = f (run.getD i d) := by
  simp only [Array.getD_eq_getD_getElem?, Array.getElem?_map, Option.getD_map]

omit f cmp in
theorem map_bind_of_natural {γ γ' δ δ' : Type} (x : Except ε γ) {k : γ → Except ε δ}
    {k' : γ' → Except ε δ'} (g : γ → γ') (h : δ → δ') (rest : ∀ v, (k v).map h = k' (g v)) :
    (x >>= k).map h = x.map g >>= k' := by
  cases x with
  | error => rfl
  | ok v => exact rest v

/-! ## Runs -/

theorem ascending_from_map (last : β) (xs : List β) :
    (ascendingFrom (cmpOn f cmp) last xs).map (mapPair f) =
      ascendingFrom cmp (f last) (xs.map f) := by
  fun_induction ascendingFrom (cmpOn f cmp) last xs with
  | case1 => rfl
  | case2 last x rest ih =>
    simp only [List.map_cons, ascendingFrom, cmpOn, ← ih]
    cases cmp (f last) (f x) with
    | error => rfl
    | ok o => cases o <;> cases ascendingFrom (cmpOn f cmp) x rest <;> rfl

theorem descending_from_map (last : β) (xs : List β) :
    (descendingFrom (cmpOn f cmp) last xs).map (mapPair f) =
      descendingFrom cmp (f last) (xs.map f) := by
  fun_induction descendingFrom (cmpOn f cmp) last xs with
  | case1 => rfl
  | case2 last x rest ih =>
    simp only [List.map_cons, descendingFrom, cmpOn, ← ih]
    cases cmp (f x) (f last) with
    | error => rfl
    | ok o => cases o <;> cases descendingFrom (cmpOn f cmp) x rest <;> rfl

theorem take_run_map (xs : List β) :
    (takeRun (cmpOn f cmp) xs).map (mapPair f) = takeRun cmp (xs.map f) := by
  rcases xs with _ | ⟨x, _ | ⟨y, rest⟩⟩
  · rfl
  · rfl
  · simp only [List.map_cons, takeRun, cmpOn, ← ascending_from_map, ← descending_from_map]
    cases cmp (f x) (f y) with
    | error => rfl
    | ok o =>
      cases o <;>
        first
        | (cases ascendingFrom (cmpOn f cmp) y rest <;> rfl)
        | (cases descendingFrom (cmpOn f cmp) y rest with
            | error => rfl
            | ok p => simp [mapPair, Except.map, bind, Except.bind, pure, Except.pure])

theorem insert_from_right_map (item : β) (rrev : List β) :
    (insertFromRight (cmpOn f cmp) item rrev).map (List.map f) =
      insertFromRight cmp (f item) (rrev.map f) := by
  fun_induction insertFromRight (cmpOn f cmp) item rrev with
  | case1 => rfl
  | case2 x xs ih =>
    simp only [List.map_cons, insertFromRight, cmpOn, ← ih]
    cases cmp (f item) (f x) with
    | error => rfl
    | ok o => cases o <;> cases insertFromRight (cmpOn f cmp) item xs <;> rfl

theorem extend_reversed_map (extra : List β) :
    ∀ run : List β, (extendReversed (cmpOn f cmp) run extra).map (List.map f) =
      extendReversed cmp (run.map f) (extra.map f) := by
  induction extra with
  | nil => intro run; rfl
  | cons item rest ih =>
    intro run
    simp only [List.map_cons, extendReversed, ← insert_from_right_map]
    cases insertFromRight (cmpOn f cmp) item run with
    | error => rfl
    | ok placed => exact ih placed

theorem extend_run_map (run extra : List β) :
    (extendRun (cmpOn f cmp) run extra).map (List.map f) =
      extendRun cmp (run.map f) (extra.map f) := by
  simp only [extendRun, ← List.map_reverse, ← extend_reversed_map]
  cases extendReversed (cmpOn f cmp) run.reverse extra <;> simp [Except.map]

theorem next_run_map (least : Nat) (xs : List β) :
    (nextRun (cmpOn f cmp) least xs).map (mapPair f) = nextRun cmp least (xs.map f) := by
  simp only [nextRun, ← take_run_map]
  cases takeRun (cmpOn f cmp) xs with
  | error => rfl
  | ok p =>
    obtain ⟨run, tail⟩ := p
    simp only [Except.map, bind, Except.bind, mapPair, List.length_map, ← List.map_take,
      ← extend_run_map]
    cases extendRun (cmpOn f cmp) run (tail.take (least - run.length)) <;> simp [pure, Except.pure]

/-! ## The searches -/

theorem reach_right_map (run : Array β) (key : β) (last ofs : Nat) :
    reachRight (cmpOn f cmp) run key last ofs = reachRight cmp (run.map f) (f key) last ofs := by
  fun_induction reachRight (cmpOn f cmp) run key last ofs with
  | case1 last ofs within ih =>
    rw [reachRight.eq_1 cmp (run.map f) (f key) last ofs]
    simp only [Array.size_map, within, dite_true, Array.getElem_map, cmpOn, ih]
  | case2 last ofs beyond =>
    rw [reachRight.eq_1 cmp (run.map f) (f key) last ofs]
    simp only [Array.size_map, beyond, dite_false]

theorem narrow_right_map (run : Array β) (key : β) (last ofs : Nat) :
    narrowRight (cmpOn f cmp) run key last ofs = narrowRight cmp (run.map f) (f key) last ofs := by
  fun_induction narrowRight (cmpOn f cmp) run key last ofs with
  | case1 last ofs apart m ihLow ihHigh =>
    rw [narrowRight.eq_1 cmp (run.map f) (f key) last ofs]
    simp only [apart, dite_true, array_get_d_map, cmpOn, ihLow, ihHigh, m]
  | case2 last ofs close =>
    rw [narrowRight.eq_1 cmp (run.map f) (f key) last ofs]
    simp only [close, dite_false]

theorem gallop_right_map (run : Array β) (key : β) :
    gallopRight (cmpOn f cmp) run key = gallopRight cmp (run.map f) (f key) := by
  simp only [gallopRight, Array.size_map, Array.getElem_map, cmpOn, reach_right_map,
    narrow_right_map]

theorem reach_left_map (run : Array β) (key : β) (last ofs : Nat) :
    reachLeft (cmpOn f cmp) run key last ofs = reachLeft cmp (run.map f) (f key) last ofs := by
  fun_induction reachLeft (cmpOn f cmp) run key last ofs with
  | case1 last ofs within ih =>
    rw [reachLeft.eq_1 cmp (run.map f) (f key) last ofs]
    simp only [Array.size_map, within, dite_true, array_get_d_map, cmpOn, ih]
  | case2 last ofs beyond =>
    rw [reachLeft.eq_1 cmp (run.map f) (f key) last ofs]
    simp only [Array.size_map, beyond, dite_false]

theorem narrow_left_map (run : Array β) (key : β) (lo hi : Nat) :
    narrowLeft (cmpOn f cmp) run key lo hi = narrowLeft cmp (run.map f) (f key) lo hi := by
  fun_induction narrowLeft (cmpOn f cmp) run key lo hi with
  | case1 lo hi apart m ihHigh ihLow =>
    rw [narrowLeft.eq_1 cmp (run.map f) (f key) lo hi]
    simp only [apart, dite_true, array_get_d_map, cmpOn, ihHigh, ihLow, m]
  | case2 lo hi close =>
    rw [narrowLeft.eq_1 cmp (run.map f) (f key) lo hi]
    simp only [close, dite_false]

theorem gallop_left_map (run : Array β) (key : β) :
    gallopLeft (cmpOn f cmp) run key = gallopLeft cmp (run.map f) (f key) := by
  simp only [gallopLeft, Array.size_map, Array.getElem_map, cmpOn, reach_left_map,
    narrow_left_map]

/-! ## Merging -/

theorem merge_front_map (xs ys : List β) :
    (mergeFront (cmpOn f cmp) xs ys).map (List.map f) = mergeFront cmp (xs.map f) (ys.map f) := by
  fun_induction mergeFront (cmpOn f cmp) xs ys with
  | case1 ys => simp [mergeFront.eq_1, Except.map, pure, Except.pure]
  | case2 xs nonempty =>
    rw [List.map_nil, mergeFront.eq_2 cmp (xs.map f) (by simpa using nonempty)]
    rfl
  | case3 x xs y ys ihLater ihEarlier =>
    simp only [List.map_cons] at ihLater ihEarlier ⊢
    rw [mergeFront.eq_3, ← ihLater, ← ihEarlier]
    simp only [cmpOn]
    cases cmp (f y) (f x) with
    | error => rfl
    | ok o =>
      cases o <;> first
        | (cases mergeFront (cmpOn f cmp) (x :: xs) ys <;> rfl)
        | (cases mergeFront (cmpOn f cmp) xs (y :: ys) <;> rfl)

theorem merge_back_map (xs ys : List β) :
    (mergeBack (cmpOn f cmp) xs ys).map (List.map f) = mergeBack cmp (xs.map f) (ys.map f) := by
  fun_induction mergeBack (cmpOn f cmp) xs ys with
  | case1 ys => simp [mergeBack.eq_1, Except.map, pure, Except.pure]
  | case2 xs nonempty =>
    rw [List.map_nil, mergeBack.eq_2 cmp (xs.map f) (by simpa using nonempty)]
    rfl
  | case3 x xs y ys ihEarlier ihLater =>
    simp only [List.map_cons] at ihLater ihEarlier ⊢
    rw [mergeBack.eq_3, ← ihLater, ← ihEarlier]
    simp only [cmpOn]
    cases cmp (f y) (f x) with
    | error => rfl
    | ok o =>
      cases o <;> first
        | (cases mergeBack (cmpOn f cmp) xs (y :: ys) <;> rfl)
        | (cases mergeBack (cmpOn f cmp) (x :: xs) ys <;> rfl)

theorem merge_middle_map (front back : List β) :
    (mergeMiddle (cmpOn f cmp) front back).map (List.map f) =
      mergeMiddle cmp (front.map f) (back.map f) := by
  unfold mergeMiddle
  simp only [List.length_map, ← List.map_reverse]
  by_cases shorter : back.length < front.length
  · simp only [shorter, if_true]
    cases front.reverse with
    | nil => rfl
    | cons x xs =>
      simp only [List.map_cons, ← merge_back_map]
      cases mergeBack (cmpOn f cmp) xs back.reverse <;> simp [Except.map, bind, Except.bind, pure, Except.pure]
  · simp only [shorter, if_false]
    cases back with
    | nil => rfl
    | cons y ys =>
      simp only [List.map_cons, ← merge_front_map]
      cases mergeFront (cmpOn f cmp) front ys <;> rfl

theorem merge_at_map (earlier later : List β) :
    (mergeAt (cmpOn f cmp) earlier later).map (List.map f) =
      mergeAt cmp (earlier.map f) (later.map f) := by
  cases later with
  | nil => cases last : earlier.getLast? <;> simp [mergeAt, last, Except.map, pure, Except.pure]
  | cons first rest =>
    cases last : earlier.getLast? with
    | none =>
      obtain rfl := List.getLast?_eq_none_iff.mp last
      rfl
    | some lastEarlier =>
      have lastMapped : (earlier.map f).getLast? = some (f lastEarlier) := by simp [last]
      rw [mergeAt.eq_1 _ _ _ _ _ last, List.map_cons, mergeAt.eq_1 _ _ _ _ _ lastMapped,
        ← List.map_cons, ← List.map_toArray, ← List.map_toArray, ← gallop_right_map,
        ← gallop_left_map, List.length_map]
      cases gallopRight (cmpOn f cmp) earlier.toArray first with
      | error => rfl
      | ok k =>
        by_cases whole : k = earlier.length
        · simp [whole, Except.map, bind, Except.bind, pure, Except.pure]
        · simp only [bind, Except.bind, beq_iff_eq, whole, if_false]
          cases gallopLeft (cmpOn f cmp) (first :: rest).toArray lastEarlier with
          | error => rfl
          | ok n =>
            simp only [← List.map_drop, ← List.map_take, ← merge_middle_map]
            cases mergeMiddle (cmpOn f cmp) (earlier.drop k) ((first :: rest).take n) <;>
              simp [Except.map, pure, Except.pure]

/-! ## The stack -/

omit f in
theorem settle_cons_cons_cons (c b a : List α) (rest : List (List α)) :
    settle cmp (c :: b :: a :: rest) =
      if (decide (a.length ≤ b.length + c.length) ||
          rest.head?.any fun d => decide (d.length ≤ a.length + b.length)) = true then
        if a.length ≤ c.length then mergeAt cmp a b >>= fun m => settle cmp (c :: m :: rest)
        else mergeAt cmp b c >>= fun m => settle cmp (m :: a :: rest)
      else if b.length ≤ c.length then mergeAt cmp b c >>= fun m => settle cmp (m :: a :: rest)
      else pure (c :: b :: a :: rest) := by
  cases rest with
  | nil => rw [settle.eq_2]; rfl
  | cons d tail => rw [settle.eq_1]; rfl

theorem settle_map (stack : List (List β)) :
    (settle (cmpOn f cmp) stack).map (List.map (List.map f)) =
      settle cmp (stack.map (List.map f)) := by
  fun_induction settle (cmpOn f cmp) stack with
  | case1 c b a rest deep urgent shorter ih =>
    have deepAny : deep = rest.head?.any fun d => decide (d.length ≤ a.length + b.length) := by
      simp only [deep]
      cases rest <;> rfl
    rw [List.map_cons, List.map_cons, List.map_cons, settle_cons_cons_cons]
    simp only [List.length_map, List.head?_map, Option.any_map, ← deepAny,
      urgent, shorter, if_true, ← merge_at_map]
    exact map_bind_of_natural _ _ _ fun m => ih m
  | case2 c b a rest deep urgent longer ih =>
    have deepAny : deep = rest.head?.any fun d => decide (d.length ≤ a.length + b.length) := by
      simp only [deep]
      cases rest <;> rfl
    rw [List.map_cons, List.map_cons, List.map_cons, settle_cons_cons_cons]
    simp only [List.length_map, List.head?_map, Option.any_map, ← deepAny,
      urgent, longer, if_true, if_false, ← merge_at_map]
    exact map_bind_of_natural _ _ _ fun m => ih m
  | case3 c b a rest deep calm shorter ih =>
    have deepAny : deep = rest.head?.any fun d => decide (d.length ≤ a.length + b.length) := by
      simp only [deep]
      cases rest <;> rfl
    rw [List.map_cons, List.map_cons, List.map_cons, settle_cons_cons_cons]
    simp only [List.length_map, List.head?_map, Option.any_map, ← deepAny,
      calm, shorter, if_true, ← merge_at_map]
    exact map_bind_of_natural _ _ _ fun m => ih m
  | case4 c b a rest deep calm longer =>
    have deepAny : deep = rest.head?.any fun d => decide (d.length ≤ a.length + b.length) := by
      simp only [deep]
      cases rest <;> rfl
    rw [List.map_cons, List.map_cons, List.map_cons, settle_cons_cons_cons]
    simp only [List.length_map, List.head?_map, Option.any_map, ← deepAny,
      calm, longer, if_false]
    rfl
  | case5 c b shorter =>
    rw [List.map_cons, List.map_cons, List.map_nil, settle.eq_3]
    simp only [List.length_map, shorter, if_true, ← merge_at_map]
    exact map_bind_of_natural _ _ _ fun m => rfl
  | case6 c b longer =>
    rw [List.map_cons, List.map_cons, List.map_nil, settle.eq_3]
    simp only [List.length_map, longer, if_false]
    rfl
  | case7 stack notThree notTwo =>
    rcases stack with _ | ⟨r, _ | ⟨b, _ | ⟨a, rest⟩⟩⟩
    · rw [List.map_nil, settle.eq_4 cmp [] (by simp) (by simp)]
      rfl
    · rw [List.map_cons, List.map_nil, settle.eq_4 cmp [r.map f] (by simp) (by simp)]
      rfl
    · exact absurd rfl (notTwo r b)
    · exact absurd rfl (notThree r b a rest)

theorem settle_all_map (stack : List (List β)) :
    (settleAll (cmpOn f cmp) stack).map (List.map f) = settleAll cmp (stack.map (List.map f)) := by
  fun_induction settleAll (cmpOn f cmp) stack with
  | case1 =>
    rw [List.map_nil, settleAll.eq_1]
    rfl
  | case2 r =>
    rw [List.map_cons, List.map_nil, settleAll.eq_2]
    rfl
  | case3 c b => rw [List.map_cons, List.map_cons, List.map_nil, settleAll.eq_3, ← merge_at_map]
  | case4 c b a rest shorter ih =>
    rw [List.map_cons, List.map_cons, List.map_cons, settleAll.eq_4]
    simp only [List.length_map, shorter, if_true, ← merge_at_map]
    exact map_bind_of_natural _ _ _ fun m => ih m
  | case5 c b a rest longer ih =>
    rw [List.map_cons, List.map_cons, List.map_cons, settleAll.eq_4]
    simp only [List.length_map, longer, if_false, ← merge_at_map]
    exact map_bind_of_natural _ _ _ fun m => ih m

theorem push_runs_map (least fuel : Nat) (stack : List (List β)) (xs : List β) :
    (pushRuns (cmpOn f cmp) least fuel stack xs).map (List.map (List.map f)) =
      pushRuns cmp least fuel (stack.map (List.map f)) (xs.map f) := by
  induction fuel generalizing stack xs with
  | zero => rfl
  | succ fuel ih =>
    cases xs with
    | nil => rfl
    | cons x rest =>
      rw [List.map_cons, pushRuns.eq_3, pushRuns.eq_3, ← List.map_cons, ← next_run_map]
      refine map_bind_of_natural _ _ _ fun p => ?_
      obtain ⟨run, tail⟩ := p
      dsimp only [mapPair]
      rw [← List.map_cons, ← settle_map]
      exact map_bind_of_natural _ _ _ fun settled => ih settled tail

theorem sort_by_map (xs : List β) :
    (sortBy (cmpOn f cmp) xs).map (List.map f) = sortBy cmp (xs.map f) := by
  have pushed := push_runs_map f cmp (minRun xs.length) xs.length [] xs
  rw [List.map_nil] at pushed
  simp only [sortBy, List.length_map]
  rw [← pushed]
  exact map_bind_of_natural _ _ _ fun stack => settle_all_map f cmp stack

/-- Given a comparison that orders the items of a list by a key of a linear order and never
fails on them, the sort by runs of that list is its stable sort by the key. -/
theorem sort_by_eq_merge_sort_of_mem {κ : Type} [LinearOrder κ] {key : α → κ} {xs : List α}
    (keyed : ∀ a ∈ xs, ∀ b ∈ xs, cmp a b = .ok (compare (key a) (key b))) :
    sortBy cmp xs = .ok (xs.mergeSort fun a b => decide (key a ≤ key b)) := by
  -- on the members of the list, as a subtype, the comparison is keyed everywhere
  have keyedMembers : ∀ a b : {a // a ∈ xs},
      cmpOn Subtype.val cmp a b = .ok (compare (key a.1) (key b.1)) :=
    fun a b => keyed a.1 a.2 b.1 b.2
  have sorted := sort_by_eq_merge_sort keyedMembers xs.attach
  have mapped := sort_by_map Subtype.val cmp xs.attach
  rw [List.attach_map_subtype_val, sorted] at mapped
  rw [← mapped, Except.map, List.map_mergeSort (f := Subtype.val) (s := fun a b => decide (key a ≤ key b))
    (fun a _ b _ => rfl), List.attach_map_subtype_val]

end Conveyor.Table

import Mathlib
import Conveyor.Proofs.Planning

/-!
# A set visits every name it was given

A set of names is an open-addressing table, and a name is dropped only if its probe
sequence finds neither the name nor a free slot. That never happens. Once the hash's high
bits are spent (thirteen jumps of five bits each use up a 64-bit hash), the start of each
jump is `5 · start + 1` modulo the table's size, a power of two, and that map runs through
every slot before it comes back: with `y = 4 · start + 1` it is `y ↦ 5 · y` modulo four
times the size, and the order of 5 there is the size itself (`ZMod.orderOf_five`). The
probe takes sixteen jumps more than the table has slots, so it sees every slot; and the
table grows before it fills, so a free slot is always there. Hence `mem_set_order_iff`:
a set visits exactly the names it was given.
-/

namespace Conveyor.Hash

set_option autoImplicit false

/-! ## Jumps once the stirring bits are spent -/

def spentJump (k x : Nat) : Nat :=
  (x * 5 + 1) % 2 ^ k

theorem spent_jump_lt (k x : Nat) : spentJump k x < 2 ^ k :=
  Nat.mod_lt _ (Nat.two_pow_pos k)

theorem iterate_spent_jump_lt (k : Nat) {x : Nat} (small : x < 2 ^ k) (n : Nat) :
    (spentJump k)^[n] x < 2 ^ k := by
  cases n with
  | zero => exact small
  | succ n =>
    rw [Function.iterate_succ_apply']
    exact spent_jump_lt k _

theorem spent_jump_cast (k x : Nat) :
    ((4 * spentJump k x + 1 : ℕ) : ZMod (2 ^ (k + 2))) = 5 * ((4 * x + 1 : ℕ) : ZMod (2 ^ (k + 2))) := by
  have split := Nat.mod_add_div (x * 5 + 1) (2 ^ k)
  have whole : 4 * spentJump k x + 1 + 2 ^ (k + 2) * ((x * 5 + 1) / 2 ^ k) = 5 * (4 * x + 1) := by
    unfold spentJump
    rw [pow_add]
    linear_combination 4 * split
  have vanishes : ((2 ^ (k + 2) : ℕ) : ZMod (2 ^ (k + 2))) = 0 := ZMod.natCast_self _
  calc ((4 * spentJump k x + 1 : ℕ) : ZMod (2 ^ (k + 2)))
      = ((4 * spentJump k x + 1 + 2 ^ (k + 2) * ((x * 5 + 1) / 2 ^ k) : ℕ) : ZMod (2 ^ (k + 2))) := by
        rw [Nat.cast_add (4 * spentJump k x + 1), Nat.cast_mul, vanishes, zero_mul, add_zero]
    _ = 5 * ((4 * x + 1 : ℕ) : ZMod (2 ^ (k + 2))) := by
        rw [whole]
        push_cast
        ring

theorem iterate_spent_jump_cast (k x n : Nat) :
    ((4 * (spentJump k)^[n] x + 1 : ℕ) : ZMod (2 ^ (k + 2))) =
      5 ^ n * ((4 * x + 1 : ℕ) : ZMod (2 ^ (k + 2))) := by
  induction n with
  | zero => simp
  | succ n ih =>
    rw [Function.iterate_succ_apply', spent_jump_cast, ih]
    ring

theorem iterate_spent_jump_ne (k x : Nat) {i j : Nat} (earlier : i < j) (within : j < 2 ^ k) :
    (spentJump k)^[i] x ≠ (spentJump k)^[j] x := by
  intro same
  have odd : IsUnit ((4 * x + 1 : ℕ) : ZMod (2 ^ (k + 2))) := by
    rw [ZMod.isUnit_iff_coprime]
    apply Nat.Coprime.pow_right
    rw [Nat.coprime_two_right]
    exact ⟨2 * x, by ring⟩
  have five : IsUnit (5 : ZMod (2 ^ (k + 2))) :=
    IsOfFinOrder.isUnit (orderOf_pos_iff.mp (by rw [ZMod.orderOf_five]; exact Nat.two_pow_pos k))
  have casts := congrArg (fun v : ℕ => ((4 * v + 1 : ℕ) : ZMod (2 ^ (k + 2)))) same
  simp only [iterate_spent_jump_cast] at casts
  have back : (5 : ZMod (2 ^ (k + 2))) ^ (j - i) = 1 := by
    have cancelled : (5 : ZMod (2 ^ (k + 2))) ^ i * 1 = 5 ^ i * 5 ^ (j - i) := by
      rw [mul_one, ← pow_add, Nat.add_sub_cancel' earlier.le]
      exact odd.mul_right_cancel casts
    exact ((five.pow i).mul_left_cancel cancelled).symm
  have divides := orderOf_dvd_of_pow_eq_one back
  rw [ZMod.orderOf_five] at divides
  have := Nat.le_of_dvd (Nat.sub_pos_of_lt earlier) divides
  omega

theorem exists_iterate_spent_jump (k : Nat) {x : Nat} (small : x < 2 ^ k) {y : Nat} (target : y < 2 ^ k) :
    ∃ n < 2 ^ k, (spentJump k)^[n] x = y := by
  let visit : Fin (2 ^ k) → Fin (2 ^ k) := fun n => ⟨(spentJump k)^[n] x, iterate_spent_jump_lt k small n⟩
  have injective : Function.Injective visit := by
    intro i j same
    have values : (spentJump k)^[i] x = (spentJump k)^[j] x := congrArg Fin.val same
    rcases lt_trichotomy i j with earlier | equal | later
    · exact absurd values (iterate_spent_jump_ne k x earlier j.isLt)
    · exact equal
    · exact absurd values.symm (iterate_spent_jump_ne k x later i.isLt)
  obtain ⟨n, reached⟩ := Finite.surjective_of_injective injective ⟨y, target⟩
  exact ⟨n, n.isLt, congrArg Fin.val reached⟩

/-! ## A probe sequence sees every slot -/

theorem mem_probe_run_self (mask start : Nat) : start ∈ probeRun mask start := by
  unfold probeRun
  split
  · simp
  · simp

theorem le_of_mem_probe_run {mask start i : Nat} (within : start ≤ mask) (mem : i ∈ probeRun mask start) :
    i ≤ mask := by
  unfold probeRun at mem
  split at mem
  · rw [List.mem_range'_1] at mem
    omega
  · rw [List.mem_singleton.mp mem]
    exact within

theorem le_of_mem_probe_slots {mask i : Nat} (jumps : Nat) :
    ∀ {start perturb : Nat}, start ≤ mask → i ∈ probeSlots mask start perturb jumps → i ≤ mask := by
  induction jumps with
  | zero =>
    intro start perturb _ mem
    cases mem
  | succ jumps ih =>
    intro start perturb within mem
    rcases List.mem_append.mp mem with first | later
    · exact le_of_mem_probe_run within first
    · exact ih Nat.and_le_right later

theorem iterate_spent_jump_mem_probe_slots (k jumps : Nat) :
    ∀ start, ∀ n < jumps, (spentJump k)^[n] start ∈ probeSlots (2 ^ k - 1) start 0 jumps := by
  induction jumps with
  | zero =>
    intro start n below
    omega
  | succ jumps ih =>
    intro start n below
    have next : (start * 5 + 1 + 0 >>> 5) &&& (2 ^ k - 1) = spentJump k start := by
      rw [Nat.zero_shiftRight, Nat.add_zero, Nat.and_two_pow_sub_one_eq_mod]
      rfl
    rw [probeSlots, Nat.zero_shiftRight, ← Nat.zero_shiftRight 5, next]
    cases n with
    | zero => exact List.mem_append_left _ (mem_probe_run_self _ _)
    | succ n =>
      rw [Function.iterate_succ_apply]
      exact List.mem_append_right _ (ih _ n (by omega))

theorem mem_probe_slots_of_spent (k spent : Nat) :
    ∀ {jumps start perturb : Nat}, perturb < 2 ^ (5 * spent) → spent + 2 ^ k ≤ jumps →
      start < 2 ^ k → ∀ y < 2 ^ k, y ∈ probeSlots (2 ^ k - 1) start perturb jumps := by
  induction spent with
  | zero =>
    intro jumps start perturb spentAlready enough small y target
    have none : perturb = 0 := by simpa using spentAlready
    obtain ⟨n, below, reached⟩ := exists_iterate_spent_jump k small target
    rw [none, ← reached]
    exact iterate_spent_jump_mem_probe_slots k jumps start n (by omega)
  | succ spent ih =>
    intro jumps start perturb stirred enough small y target
    obtain ⟨jumps, rfl⟩ : ∃ j, jumps = j + 1 := ⟨jumps - 1, by omega⟩
    have shifted : perturb >>> 5 < 2 ^ (5 * spent) := by
      rw [Nat.shiftRight_eq_div_pow, Nat.div_lt_iff_lt_mul (Nat.two_pow_pos 5), ← pow_add]
      simpa [Nat.mul_succ] using stirred
    have nextSmall : (start * 5 + 1 + perturb >>> 5) &&& (2 ^ k - 1) < 2 ^ k := by
      rw [Nat.and_two_pow_sub_one_eq_mod]
      exact Nat.mod_lt _ (Nat.two_pow_pos k)
    rw [probeSlots]
    exact List.mem_append_right _ (ih shifted (by omega) nextSmall y target)

theorem mem_probe_slots (k : Nat) {h : Nat} (hash : h < 2 ^ 64) {y : Nat} (target : y < 2 ^ k) :
    y ∈ probeSlots (2 ^ k - 1) (h &&& (2 ^ k - 1)) h (2 ^ k + 16) := by
  have spent : h < 2 ^ (5 * 13) := lt_of_lt_of_le hash (Nat.pow_le_pow_right (by decide) (by decide))
  have small : h &&& (2 ^ k - 1) < 2 ^ k := by
    rw [Nat.and_two_pow_sub_one_eq_mod]
    exact Nat.mod_lt _ (Nat.two_pow_pos k)
  exact mem_probe_slots_of_spent k 13 spent (by omega) small y target

/-! ## Where a name goes -/

def Stores (table : Slots) (name : String) : Prop :=
  ∃ h, some (name, h) ∈ table.toList

def filled (table : Slots) : Nat :=
  table.toList.countP (·.isSome)

theorem exists_free_of_filled_lt {table : Slots} (few : filled table < table.size) :
    ∃ i : Nat, table[i]? = some none := by
  have notAll : ¬ ∀ slot ∈ table.toList, slot.isSome = true := by
    intro all
    rw [filled, List.countP_eq_length.mpr all, Array.length_toList] at few
    exact lt_irrefl _ few
  push Not at notAll
  obtain ⟨slot, mem, notSome⟩ := notAll
  have empty : slot = none := by simpa using notSome
  obtain ⟨i, inside, at_i⟩ := List.mem_iff_getElem.mp mem
  refine ⟨i, ?_⟩
  rw [Array.getElem?_eq_getElem (by simpa using inside), ← empty, ← at_i, Array.getElem_toList]

theorem slot_for_cases {table : Slots} {k : Nat} (sized : table.size = 2 ^ k)
    (free : ∃ i : Nat, table[i]? = some none) (name : String) (h : UInt64) :
    (slotFor table name h = none ∧ Stores table name) ∨
      ∃ i : Nat, slotFor table name h = some i ∧ table[i]? = some none := by
  obtain ⟨i₀, free₀⟩ := free
  have i₀small : i₀ < 2 ^ k := by
    rw [← sized]
    exact (Array.getElem?_eq_some_iff.mp free₀).1
  have covers : ∀ i < table.size, i ∈ probeSlots (table.size - 1) (h.toNat &&& (table.size - 1)) h.toNat
      (table.size + 16) := by
    rw [sized]
    exact fun i below => mem_probe_slots k (UInt64.toNat_lt h) below
  unfold slotFor
  dsimp only
  split
  · rename_i j found
    have picked := List.find?_some found
    have inside : j < table.size := by
      have := le_of_mem_probe_slots _ Nat.and_le_right (List.mem_of_find?_eq_some found)
      rw [sized] at this ⊢
      have := Nat.one_le_two_pow (n := k)
      omega
    split
    · rename_i slot stored
      rw [stored] at picked
      obtain ⟨k', h'⟩ := slot
      simp only [beq_iff_eq] at picked
      subst picked
      refine .inl ⟨rfl, h', ?_⟩
      rw [Array.mem_toList_iff]
      exact Array.mem_of_getElem? stored
    · rename_i notStored
      refine .inr ⟨j, rfl, ?_⟩
      cases stored : table[j]? with
      | none => exact absurd stored (by simp [inside])
      | some slot =>
        cases slot with
        | none => rfl
        | some named => exact absurd stored (notStored named)
  · rename_i missing
    exfalso
    have looked := List.find?_eq_none.mp missing i₀ (covers i₀ (by rw [sized]; exact i₀small))
    rw [free₀] at looked
    exact looked rfl

/-! ## Writing into a free slot -/

section Free

variable {table : Slots} {i : Nat} (free : table[i]? = some none) (name : String) (h : UInt64)
include free

theorem stores_set_if_in_bounds_self : Stores (table.setIfInBounds i (some (name, h))) name := by
  obtain ⟨inside, -⟩ := Array.getElem?_eq_some_iff.mp free
  refine ⟨h, ?_⟩
  rw [Array.toList_setIfInBounds]
  exact List.mem_set (by simpa using inside) _

theorem stores_set_if_in_bounds {n : String} (stored : Stores table n) :
    Stores (table.setIfInBounds i (some (name, h))) n := by
  obtain ⟨inside, empty⟩ := Array.getElem?_eq_some_iff.mp free
  obtain ⟨h', mem⟩ := stored
  obtain ⟨j, below, at_j⟩ := List.mem_iff_getElem.mp mem
  have apart : i ≠ j := by
    rintro rfl
    rw [Array.getElem_toList, empty] at at_j
    cases at_j
  refine ⟨h', ?_⟩
  rw [Array.toList_setIfInBounds]
  exact List.mem_iff_getElem.mpr ⟨j, by simpa using below, by rw [List.getElem_set_ne apart]; exact at_j⟩

theorem filled_set_if_in_bounds : filled (table.setIfInBounds i (some (name, h))) = filled table + 1 := by
  obtain ⟨inside, empty⟩ := Array.getElem?_eq_some_iff.mp free
  have insideList : i < table.toList.length := by simpa using inside
  unfold filled
  rw [Array.toList_setIfInBounds, List.countP_set insideList, Array.getElem_toList, empty]
  simp

end Free

/-! ## Placing names and growing the table -/

theorem place_spec {table : Slots} {k : Nat} (sized : table.size = 2 ^ k)
    (room : filled table < table.size) (name : String) (h : UInt64) :
    Stores (place table name h) name ∧ (∀ n, Stores table n → Stores (place table name h) n) ∧
      filled (place table name h) ≤ filled table + 1 ∧ (place table name h).size = table.size := by
  unfold place
  rcases slot_for_cases sized (exists_free_of_filled_lt room) name h with ⟨found, stored⟩ | ⟨i, given, free⟩
  · rw [found]
    exact ⟨stored, fun _ kept => kept, Nat.le_succ _, rfl⟩
  · rw [given]
    exact ⟨stores_set_if_in_bounds_self free name h, fun _ kept => stores_set_if_in_bounds free name h kept,
      (filled_set_if_in_bounds free name h).le, Array.size_setIfInBounds⟩

theorem table_size_go_pow (above : Nat) :
    ∀ fuel size, (∃ k, size = 2 ^ k) → ∃ k, tableSize.go above size fuel = 2 ^ k := by
  intro fuel
  induction fuel with
  | zero => exact fun size power => power
  | succ fuel ih =>
    intro size ⟨k, sized⟩
    unfold tableSize.go
    split
    · exact ih _ ⟨k + 1, by rw [sized, pow_succ, mul_comm]⟩
    · exact ⟨k, sized⟩

theorem lt_table_size_go (above : Nat) :
    ∀ fuel size, above < size * 2 ^ fuel → above < tableSize.go above size fuel := by
  intro fuel
  induction fuel with
  | zero => simp [tableSize.go]
  | succ fuel ih =>
    intro size enough
    unfold tableSize.go
    split
    · exact ih _ (by rw [pow_succ] at enough; linarith)
    · omega

theorem table_size_spec (above : Nat) : (∃ k, tableSize above = 2 ^ k) ∧ above < tableSize above :=
  ⟨table_size_go_pow above above 8 ⟨3, rfl⟩,
    lt_table_size_go above above 8 (by have := Nat.lt_two_pow_self (n := above); omega)⟩

theorem filled_replicate (size : Nat) : filled (Array.replicate size none) = 0 := by
  simp [filled]

theorem foldl_place {f : Slots → Option (String × UInt64) → Slots} (skip : ∀ t, f t none = t)
    (placed : ∀ t k h, f t (some (k, h)) = place t k h) {k held : Nat} (fits : held < 2 ^ k) :
    ∀ (slots : List (Option (String × UInt64))) (acc : Slots), acc.size = 2 ^ k →
      filled acc + slots.countP (·.isSome) ≤ held →
      (slots.foldl f acc).size = 2 ^ k ∧ filled (slots.foldl f acc) ≤ held ∧
        (∀ n, Stores acc n → Stores (slots.foldl f acc) n) ∧
        ∀ n h, some (n, h) ∈ slots → Stores (slots.foldl f acc) n := by
  intro slots
  induction slots with
  | nil =>
    intro acc sized few
    exact ⟨sized, by simpa using few, fun _ kept => kept, by simp⟩
  | cons slot rest ih =>
    intro acc sized few
    rw [List.foldl_cons]
    cases slot with
    | none =>
      rw [skip]
      obtain ⟨sized', few', kept, stored⟩ := ih acc sized (by simpa using few)
      refine ⟨sized', few', kept, fun n h mem => stored n h ?_⟩
      simpa using mem
    | some kh =>
      obtain ⟨name, h⟩ := kh
      rw [placed]
      have room : filled acc < acc.size := by
        simp only [List.countP_cons, Option.isSome_some, if_true] at few
        omega
      obtain ⟨here, keeps, grows, size⟩ := place_spec sized room name h
      obtain ⟨sized', few', kept, stored⟩ := ih (place acc name h) (size.trans sized) (by
        simp only [List.countP_cons, Option.isSome_some, if_true] at few
        omega)
      refine ⟨sized', few', fun n stored₀ => kept n (keeps n stored₀), fun n h' mem => ?_⟩
      rcases List.mem_cons.mp mem with first | later
      · cases first
        exact kept _ here
      · exact stored n h' later

theorem grow_spec {table : Slots} {held : Nat} (few : filled table ≤ held) :
    (∃ k, (grow table held).size = 2 ^ k) ∧
      (if held > 50000 then 2 * held else 4 * held) < (grow table held).size ∧
      filled (grow table held) ≤ held ∧ ∀ n, Stores table n → Stores (grow table held) n := by
  obtain ⟨⟨k, sized⟩, above⟩ := table_size_spec (if held > 50000 then 2 * held else 4 * held)
  have atLeast : held ≤ (if held > 50000 then 2 * held else 4 * held) := by
    split <;> omega
  have fits : held < 2 ^ k := by
    rw [← sized]
    exact lt_of_le_of_lt atLeast above
  -- the new table starts empty, and the old slots move over one at a time
  have moved : (grow table held).size = 2 ^ k ∧ filled (grow table held) ≤ held ∧
      (∀ n, Stores (Array.replicate (tableSize (if held > 50000 then 2 * held else 4 * held)) none) n →
        Stores (grow table held) n) ∧
      ∀ n h, some (n, h) ∈ table.toList → Stores (grow table held) n := by
    unfold grow
    dsimp only
    rw [← Array.foldl_toList]
    exact foldl_place (fun _ => rfl) (fun _ _ _ => rfl) fits table.toList _
      (by rw [Array.size_replicate, sized]) (by rw [filled_replicate, Nat.zero_add]; exact few)
  obtain ⟨size, few', -, stored⟩ := moved
  refine ⟨⟨k, size⟩, by rw [size, ← sized]; exact above, few', fun n kept => ?_⟩
  obtain ⟨h, mem⟩ := kept
  exact stored n h mem

/-! ## Adding names one after another -/

/-- What a set's table keeps while names are added: a power of two of slots, no more filled
slots than names counted, and fewer names than three fifths of the mask. -/
structure Spacious (acc : Slots × Nat) : Prop where
  power : ∃ k, acc.1.size = 2 ^ k
  counted : filled acc.1 ≤ acc.2
  sparse : acc.2 * 5 < (acc.1.size - 1) * 3

theorem Spacious.room {acc : Slots × Nat} (spacious : Spacious acc) : filled acc.1 < acc.1.size := by
  have counted := spacious.counted
  have sparse := spacious.sparse
  omega

theorem spacious_start : Spacious (Array.replicate 8 none, 0) :=
  ⟨⟨3, rfl⟩, by rw [filled_replicate], by decide⟩

theorem add_name_spec {acc : Slots × Nat} (spacious : Spacious acc) (name : String) :
    Spacious (addName acc name) ∧ Stores (addName acc name).1 name ∧
      ∀ n, Stores acc.1 n → Stores (addName acc name).1 n := by
  obtain ⟨table, held⟩ := acc
  have room : filled table < table.size := spacious.room
  obtain ⟨⟨k, sized⟩, counted, sparse⟩ := spacious
  dsimp only at sized counted sparse
  unfold addName
  dsimp only
  rcases slot_for_cases sized (exists_free_of_filled_lt room) name (textHash name) with
    ⟨found, stored⟩ | ⟨i, given, free⟩
  · rw [found]
    exact ⟨⟨⟨k, sized⟩, counted, sparse⟩, stored, fun _ kept => kept⟩
  · rw [given]
    dsimp only
    have here := stores_set_if_in_bounds_self free name (textHash name)
    have keeps : ∀ n, Stores table n → Stores (table.setIfInBounds i (some (name, textHash name))) n :=
      fun _ kept => stores_set_if_in_bounds free name (textHash name) kept
    have count := filled_set_if_in_bounds free name (textHash name)
    have size : (table.setIfInBounds i (some (name, textHash name))).size = table.size :=
      Array.size_setIfInBounds
    split
    · -- the table grows to more than twice the names it holds
      obtain ⟨power, above, few, moved⟩ :=
        @grow_spec (table.setIfInBounds i (some (name, textHash name))) (held + 1) (by omega)
      refine ⟨⟨power, few, ?_⟩, moved _ here, fun n kept => moved n (keeps n kept)⟩
      dsimp only
      split at above <;> omega
    · rename_i sparse'
      rw [size] at sparse'
      refine ⟨⟨⟨k, size.trans sized⟩, ?_, ?_⟩, here, keeps⟩ <;> dsimp only <;> omega

theorem add_names_spec (names : List String) :
    ∀ acc, Spacious acc → Spacious (names.foldl addName acc) ∧
      (∀ n, Stores acc.1 n → Stores (names.foldl addName acc).1 n) ∧
      ∀ n ∈ names, Stores (names.foldl addName acc).1 n := by
  induction names with
  | nil => exact fun acc spacious => ⟨spacious, fun _ kept => kept, by simp⟩
  | cons name rest ih =>
    intro acc spacious
    obtain ⟨spacious₁, here, keeps⟩ := add_name_spec spacious name
    obtain ⟨spacious₂, kept, stored⟩ := ih _ spacious₁
    refine ⟨spacious₂, fun n before => kept n (keeps n before), fun n mem => ?_⟩
    rcases List.mem_cons.mp mem with rfl | later
    · exact kept n here
    · exact stored n later

theorem mem_set_order_of_mem {names : List String} {name : String} (mem : name ∈ names) :
    name ∈ setOrder names := by
  obtain ⟨-, -, stored⟩ := add_names_spec names _ spacious_start
  obtain ⟨h, inTable⟩ := stored name mem
  unfold setOrder
  simp only [List.mem_filterMap, Option.map_eq_some_iff]
  exact ⟨_, inTable, (name, h), rfl, rfl⟩

theorem mem_set_order_iff {names : List String} {name : String} : name ∈ setOrder names ↔ name ∈ names :=
  ⟨mem_of_mem_set_order, mem_set_order_of_mem⟩

end Conveyor.Hash

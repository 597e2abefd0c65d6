/-!
# A stable sort by runs

Rows are sorted by a comparison that may fail, and the first failing comparison is
the one reported, so which pairs are compared, in what order and which item on the
left, is part of the result. The sort cuts the list into sorted runs, keeps them on a
stack and merges neighbours on it:

1. From the front of what is left, take a run: items that never go down, each
   compared with the next (the earlier item on the left), or items that strictly go
   down, each next one compared with the one before it (the later item on the left),
   which are then reversed.
2. A run shorter than the least run length is extended by inserting the items after
   it one by one: each moves left past every item it is below, the item being
   inserted on the left of each comparison.
3. Each run is pushed on the stack, and neighbours are merged while the lengths on the
   stack do not shrink fast enough from its bottom to its top (`settle`); at the end
   all are merged, top down (`settleAll`).
4. Two neighbouring runs are merged after two searches that leave out what is already
   in place: the first item of the later run is looked for in the earlier run, and
   the last item of the earlier run in the later run, each by doubling steps and then
   halving. The rest is merged from the side of the shorter remainder. In every
   comparison of a merge the item of the later run is on the left, and an item of the
   later run goes first only when it is below.

The least run length is the number of items up to sixteen; above that it is the number
halved until at most sixteen, plus one when a halving dropped a set bit.

With a comparison that never fails and orders consistently, the result is the stable
sort of the list.
-/

namespace Conveyor.Table

set_option autoImplicit false

variable {α ε : Type}

def runLengthParts (n : Nat) : Nat × Bool :=
  if 16 < n then
    let (base, dropped) := runLengthParts (n / 2)
    (base, dropped || n % 2 == 1)
  else (n, false)
termination_by n
decreasing_by omega

def minRun (n : Nat) : Nat :=
  let (base, dropped) := runLengthParts n
  base + if dropped then 1 else 0

example : minRun 16 = 16 ∧ minRun 17 = 9 ∧ minRun 40 = 10 ∧ minRun 65 = 17 := by decide +kernel

/-! ## Runs -/

def ascendingFrom (cmp : α → α → Except ε Ordering) (last : α) :
    List α → Except ε (List α × List α)
  | [] => pure ([], [])
  | x :: rest => do
    if (← cmp last x) != .gt then
      let (more, tail) ← ascendingFrom cmp x rest
      pure (x :: more, tail)
    else pure ([], x :: rest)

/-- Extends a run that strictly goes down, from its last item; the items taken and the
rest. -/
def descendingFrom (cmp : α → α → Except ε Ordering) (last : α) :
    List α → Except ε (List α × List α)
  | [] => pure ([], [])
  | x :: rest => do
    if (← cmp x last) == .lt then
      let (more, tail) ← descendingFrom cmp x rest
      pure (x :: more, tail)
    else pure ([], x :: rest)

def takeRun (cmp : α → α → Except ε Ordering) : List α → Except ε (List α × List α)
  | [] => pure ([], [])
  | [x] => pure ([x], [])
  | x :: y :: rest => do
    if (← cmp x y) != .gt then
      let (more, tail) ← ascendingFrom cmp y rest
      pure (x :: y :: more, tail)
    else
      let (more, tail) ← descendingFrom cmp y rest
      pure ((x :: y :: more).reverse, tail)

/-- Inserts an item into a sorted run written last item first: the item moves left past
every item it is below. -/
def insertFromRight (cmp : α → α → Except ε Ordering) (item : α) :
    List α → Except ε (List α)
  | [] => pure [item]
  | x :: xs => do
    if (← cmp item x) == .lt then
      let placed ← insertFromRight cmp item xs
      pure (x :: placed)
    else pure (item :: x :: xs)

def extendReversed (cmp : α → α → Except ε Ordering) (run : List α) :
    List α → Except ε (List α)
  | [] => pure run
  | item :: rest => do extendReversed cmp (← insertFromRight cmp item run) rest

def extendRun (cmp : α → α → Except ε Ordering) (run extra : List α) : Except ε (List α) :=
  (extendReversed cmp run.reverse extra).map List.reverse

def nextRun (cmp : α → α → Except ε Ordering) (least : Nat) (xs : List α) :
    Except ε (List α × List α) := do
  let (run, tail) ← takeRun cmp xs
  let missing := least - run.length
  let run ← extendRun cmp run (tail.take missing)
  pure (run, tail.drop missing)

/-! ## Searches before a merge -/

/-- Doubling steps of the search for where `key` goes after its equals in `run`: `last`
is an offset whose item is not above the key, `ofs` the next to try. -/
def reachRight (cmp : α → α → Except ε Ordering) (run : Array α) (key : α) (last ofs : Nat) :
    Except ε (Nat × Nat) := do
  if h : ofs < run.size then
    if (← cmp key run[ofs]) == .lt then pure (last, ofs)
    else reachRight cmp run key ofs (2 * ofs + 1)
  else pure (last, run.size)
termination_by run.size - ofs

/-- Halving steps of the search for where `key` goes after its equals in `run`, between
an offset whose item is not above the key and one whose item is. -/
def narrowRight (cmp : α → α → Except ε Ordering) (run : Array α) (key : α) (last ofs : Nat) :
    Except ε Nat := do
  if h : last + 1 < ofs then
    let m := last + (ofs - last) / 2
    if (← cmp key (run.getD m key)) == .lt then narrowRight cmp run key last m
    else narrowRight cmp run key m ofs
  else pure ofs
termination_by ofs - last

/-- How many items of a sorted run are not above `key`: the place of `key` after its
equals. -/
def gallopRight (cmp : α → α → Except ε Ordering) (run : Array α) (key : α) :
    Except ε Nat := do
  if h : 0 < run.size then
    if (← cmp key run[0]) == .lt then pure 0
    else
      let (last, ofs) ← reachRight cmp run key 0 1
      narrowRight cmp run key last ofs
  else pure 0

/-- Doubling steps of the search, from the end of `run`, for where `key` goes before its
equals: `last` counts items from the end known not to be below the key, `ofs` the next
count to try. -/
def reachLeft (cmp : α → α → Except ε Ordering) (run : Array α) (key : α) (last ofs : Nat) :
    Except ε (Nat × Nat) := do
  if h : ofs < run.size then
    if (← cmp (run.getD (run.size - ofs - 1) key) key) == .lt then pure (last, ofs)
    else reachLeft cmp run key ofs (2 * ofs + 1)
  else pure (last, run.size)
termination_by run.size - ofs

/-- Halving steps of the search for where `key` goes before its equals; `lo` and `hi` are
one past the offsets of an item below the key (or the start) and of one not below it. -/
def narrowLeft (cmp : α → α → Except ε Ordering) (run : Array α) (key : α) (lo hi : Nat) :
    Except ε Nat := do
  if h : lo + 1 < hi then
    let m := lo + (hi - lo) / 2
    if (← cmp (run.getD (m - 1) key) key) == .lt then narrowLeft cmp run key m hi
    else narrowLeft cmp run key lo m
  else pure (hi - 1)
termination_by hi - lo

/-- How many items of a sorted run are below `key`: the place of `key` before its equals,
searched from the end. -/
def gallopLeft (cmp : α → α → Except ε Ordering) (run : Array α) (key : α) :
    Except ε Nat := do
  if h : 0 < run.size then
    if (← cmp run[run.size - 1] key) == .lt then pure run.size
    else
      let (last, ofs) ← reachLeft cmp run key 0 1
      narrowLeft cmp run key (run.size - ofs) (run.size - last)
  else pure 0

/-! ## Merging -/

/-- Merges from the front: an item of the later run goes first only when it is below the
item of the earlier run. -/
def mergeFront (cmp : α → α → Except ε Ordering) : List α → List α → Except ε (List α)
  | [], ys => pure ys
  | xs, [] => pure xs
  | x :: xs, y :: ys => do
    if (← cmp y x) == .lt then
      let merged ← mergeFront cmp (x :: xs) ys
      pure (y :: merged)
    else
      let merged ← mergeFront cmp xs (y :: ys)
      pure (x :: merged)
termination_by xs ys => xs.length + ys.length

/-- Merges from the back, both runs written last item first: the item of the earlier
run goes last only when the item of the later run is below it. The result is written
last item first. -/
def mergeBack (cmp : α → α → Except ε Ordering) : List α → List α → Except ε (List α)
  | [], ys => pure ys
  | xs, [] => pure xs
  | x :: xs, y :: ys => do
    if (← cmp y x) == .lt then
      let merged ← mergeBack cmp xs (y :: ys)
      pure (x :: merged)
    else
      let merged ← mergeBack cmp (x :: xs) ys
      pure (y :: merged)
termination_by xs ys => xs.length + ys.length

/-- Merges what is left of two runs after the searches: from the back when the later
part is shorter, its last item known to come from the earlier part; else from the front,
its first item known to come from the later part. -/
def mergeMiddle (cmp : α → α → Except ε Ordering) (front back : List α) :
    Except ε (List α) :=
  if back.length < front.length then
    match front.reverse with
    | x :: xs => do pure (x :: (← mergeBack cmp xs back.reverse)).reverse
    | [] => pure back
  else
    match back with
    | y :: ys => do pure (y :: (← mergeFront cmp front ys))
    | [] => pure front

/-- Merges two neighbouring sorted runs, the earlier first. The items of the earlier run
not above the first of the later run stay in front, and the items of the later run not
below the last of the earlier run stay behind; the rest is merged by `mergeMiddle`. -/
def mergeAt (cmp : α → α → Except ε Ordering) (earlier later : List α) :
    Except ε (List α) :=
  match later, earlier.getLast? with
  | first :: _, some lastEarlier => do
    let k ← gallopRight cmp earlier.toArray first
    if k == earlier.length then pure (earlier ++ later)
    else
      let n ← gallopLeft cmp later.toArray lastEarlier
      let merged ← mergeMiddle cmp (earlier.drop k) (later.take n)
      pure (earlier.take k ++ merged ++ later.drop n)
  | _, _ => pure (earlier ++ later)

/-! ## The stack of runs -/

/-- Merges neighbours on a stack of runs, newest first, until each run is longer than the
one above it and than the two above it together. -/
def settle (cmp : α → α → Except ε Ordering) :
    List (List α) → Except ε (List (List α))
  | c :: b :: a :: rest => do
    let deep := match rest with
      | d :: _ => decide (d.length ≤ a.length + b.length)
      | [] => false
    if decide (a.length ≤ b.length + c.length) || deep then
      if a.length ≤ c.length then settle cmp (c :: (← mergeAt cmp a b) :: rest)
      else settle cmp ((← mergeAt cmp b c) :: a :: rest)
    else if b.length ≤ c.length then settle cmp ((← mergeAt cmp b c) :: a :: rest)
    else pure (c :: b :: a :: rest)
  | [c, b] => do
    if b.length ≤ c.length then pure [← mergeAt cmp b c] else pure [c, b]
  | stack => pure stack
termination_by stack => stack.length

def settleAll (cmp : α → α → Except ε Ordering) : List (List α) → Except ε (List α)
  | [] => pure []
  | [r] => pure r
  | [c, b] => mergeAt cmp b c
  | c :: b :: a :: rest => do
    if a.length ≤ c.length then settleAll cmp (c :: (← mergeAt cmp a b) :: rest)
    else settleAll cmp ((← mergeAt cmp b c) :: a :: rest)
termination_by stack => stack.length

/-- Pushes the runs of a list onto a stack, settling it after each. The fuel is the
length of the list: every run takes at least one item. -/
def pushRuns (cmp : α → α → Except ε Ordering) (least : Nat) :
    Nat → List (List α) → List α → Except ε (List (List α))
  | 0, stack, _ => pure stack
  | _ + 1, stack, [] => pure stack
  | fuel + 1, stack, x :: rest => do
    let (run, tail) ← nextRun cmp least (x :: rest)
    pushRuns cmp least fuel (← settle cmp (run :: stack)) tail

def sortBy (cmp : α → α → Except ε Ordering) (xs : List α) : Except ε (List α) := do
  settleAll cmp (← pushRuns cmp (minRun xs.length) xs.length [] xs)

end Conveyor.Table

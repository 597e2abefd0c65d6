/-!
# Hashed sets of names

## The hash of a text

A text is hashed as the little-endian code units of its narrowest fixed width (one
byte per character when every character is below 256, two bytes when every one is
below 65536, else four), by SipHash-1-3 with both key words zero: one compression
round per eight-byte block, three finishing rounds, and the four state words joined
by exclusive or. The empty text hashes to zero, and the word whose signed reading
is -1 is never a hash: it becomes the one below it.
-/

namespace Conveyor.Hash

set_option autoImplicit false

/-- The four state words of SipHash. -/
structure SipState where
  v0 : UInt64
  v1 : UInt64
  v2 : UInt64
  v3 : UInt64

def rotl (x : UInt64) (b : UInt64) : UInt64 :=
  (x <<< b) ||| (x >>> (64 - b))

def SipState.round (s : SipState) : SipState :=
  let v0 := s.v0 + s.v1
  let v2 := s.v2 + s.v3
  let v1 := rotl s.v1 13 ^^^ v0
  let v3 := rotl s.v3 16 ^^^ v2
  let v0 := rotl v0 32
  let v2 := v2 + v1
  let v0 := v0 + v3
  let v1 := rotl v1 17 ^^^ v2
  let v3 := rotl v3 21 ^^^ v0
  ⟨v0, v1, rotl v2 32, v3⟩

def SipState.initial : SipState :=
  ⟨0x736f6d6570736575, 0x646f72616e646f6d, 0x6c7967656e657261, 0x7465646279746573⟩

def SipState.absorb (s : SipState) (m : UInt64) : SipState :=
  let t := { s with v3 := s.v3 ^^^ m }.round
  { t with v0 := t.v0 ^^^ m }

def wordOf (bytes : List UInt8) : UInt64 :=
  bytes.foldr (fun b acc => (acc <<< 8) ||| b.toUInt64) 0

def SipState.absorbBlocks (s : SipState) : List UInt8 → SipState × List UInt8
  | b0 :: b1 :: b2 :: b3 :: b4 :: b5 :: b6 :: b7 :: rest =>
    (s.absorb (wordOf [b0, b1, b2, b3, b4, b5, b6, b7])).absorbBlocks rest
  | tail => (s, tail)

def sip13 (data : List UInt8) : UInt64 :=
  let (s, tail) := SipState.initial.absorbBlocks data
  let last := (data.length.toUInt64 <<< 56) ||| wordOf tail
  let s := s.absorb last
  let s := { s with v2 := s.v2 ^^^ 0xff }.round.round.round
  s.v0 ^^^ s.v1 ^^^ s.v2 ^^^ s.v3

def unitBytes (width : Nat) (c : Char) : List UInt8 :=
  (List.range width).map fun i => (c.toNat >>> (8 * i)).toUInt8

def textBytes (s : String) : List UInt8 :=
  let top := s.toList.foldl (fun m c => max m c.toNat) 0
  let width := if top < 256 then 1 else if top < 65536 then 2 else 4
  s.toList.flatMap (unitBytes width)

def textHash (s : String) : UInt64 :=
  if s.isEmpty then 0
  else
    let h := sip13 (textBytes s)
    if h == 0xffffffffffffffff then h - 1 else h

example : textBytes "aé" = [97, 233] ∧ textBytes "aĀ" = [97, 0, 0, 1] := by decide

end Conveyor.Hash

/-!
## The order of a set of names

A set of names keeps them in an open-addressing table and is visited slot by slot,
so its order is fixed by the hashes of the names (`textHash`) and the order they
came in. The table starts with eight slots. A name goes to the first free slot of its
probe sequence: the slot its hash picks under the mask, and the nine slots after it
when they all lie in the table; then the hash's unused high bits, five more at each
step, stir the next start, `5 · start + 1 + perturb` under the mask. A name already
present is not added again. Once the filled slots reach three fifths of the mask, the
table grows to the least power of two above four times the names held (twice, above
fifty thousand names), and the names move over in slot order.
-/

namespace Conveyor.Hash

set_option autoImplicit false

abbrev Slots := Array (Option (String × UInt64))

/-- The slots one jump of a probe sequence looks at: the start, and the nine after it
when they lie within the mask. -/
def probeRun (mask start : Nat) : List Nat :=
  if start + 9 ≤ mask then List.range' start 10 else [start]

def probeSlots (mask start perturb : Nat) : Nat → List Nat
  | 0 => []
  | jumps + 1 =>
    let perturb := perturb >>> 5
    probeRun mask start ++ probeSlots mask ((start * 5 + 1 + perturb) &&& mask) perturb jumps

/-- Where a name goes in a table: the first slot of its probe sequence that is free,
or `none` when the name is already there first. Enough jumps are taken to reach every
slot once the stirring bits are spent. -/
def slotFor (table : Slots) (name : String) (h : UInt64) : Option Nat :=
  let mask := table.size - 1
  let seen := (probeSlots mask (h.toNat &&& mask) h.toNat (table.size + 16)).find? fun i =>
    match table[i]? with
    | some (some (k, _)) => k == name
    | _ => true
  match seen with
  | some i =>
    match table[i]? with
    | some (some _) => none
    | _ => some i
  | none => none

/-- Puts a name into a table when it is not there; a full probe sequence, which a
table with free slots never has, leaves the table as it is. -/
def place (table : Slots) (name : String) (h : UInt64) : Slots :=
  match slotFor table name h with
  | some i => table.setIfInBounds i (some (name, h))
  | none => table

def tableSize (above : Nat) : Nat :=
  go 8 above
where
  go (size : Nat) : Nat → Nat
    | 0 => size
    | fuel + 1 => if size ≤ above then go (2 * size) fuel else size

def grow (table : Slots) (held : Nat) : Slots :=
  let size := tableSize (if held > 50000 then 2 * held else 4 * held)
  table.foldl (fun t slot =>
    match slot with
    | some (k, h) => place t k h
    | none => t) (Array.replicate size none)

def addName (acc : Slots × Nat) (name : String) : Slots × Nat :=
  let (table, held) := acc
  let h := textHash name
  match slotFor table name h with
  | none => (table, held)
  | some i =>
    let table := table.setIfInBounds i (some (name, h))
    let held := held + 1
    if held * 5 ≥ (table.size - 1) * 3 then (grow table held, held) else (table, held)

def setOrder (names : List String) : List String :=
  let (table, _) := names.foldl addName (Array.replicate 8 none, 0)
  table.toList.filterMap fun slot => slot.map (·.1)

example : tableSize 4 = 8 ∧ tableSize 20 = 32 ∧ tableSize 32 = 64 := by decide

end Conveyor.Hash

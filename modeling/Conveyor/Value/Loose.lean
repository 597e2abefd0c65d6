import Conveyor.Value.Json
import Conveyor.Decimal.Approx

/-!
# Loose JSON reading

The run index is read by a quick JSON reader whose rules differ from the standard
in ways the program shows:

* Numbers: an integer is accumulated in 64 unsigned bits, and a step that visibly
  wraps fails (`Value is too big!`, or `Value is too small` below `-2^63`); other
  wraps go unnoticed. A number with a point or an exponent joins its parts in
  binary64 steps (see `Decimal.joinParts`), keeping at most fifteen fraction
  digits. A lone `-` reads as `0`; `Infinity` and `-Infinity` are numbers, and
  `NaN` reads as nothing.
* A mapping may end with a comma; a sequence may not.
* Texts take the escapes `\\`, `\"`, `\/`, `\b`, `\f`, `\n`, `\r`, `\t` and
  `\uXXXX`, where a high surrogate waits for the next `\u` escape to pair with.
* Blanks are space, tab, carriage return and line feed.

A failure names a problem and a byte offset into the UTF-8 text: for most
problems the byte before where the failing value starts, for a bad separator the
separator itself, and for a text the position of its opening quote.
-/

namespace Conveyor.Value.Loose

set_option autoImplicit false

open Conveyor.Decimal

/-- Why loose reading stopped, and the byte offset it names. -/
structure ReadError where
  problem : String
  offset : Int

def ReadError.message (e : ReadError) : String :=
  e.problem ++ " at position " ++ toString e.offset

/-- The characters still to read and the byte offset of the first of them. -/
structure Cursor where
  rest : List Char
  offset : Nat

def Cursor.next (c : Cursor) : Cursor :=
  match c.rest with
  | [] => c
  | ch :: r => ⟨r, c.offset + ch.utf8Size⟩

def Cursor.skip (c : Cursor) (n : Nat) : Cursor :=
  ⟨c.rest.drop n, c.offset + n⟩

def Cursor.failBefore {β : Type} (c : Cursor) (problem : String) : Except ReadError β :=
  .error ⟨problem, (c.offset : Int) - 1⟩

def Cursor.failHere {β : Type} (c : Cursor) (problem : String) : Except ReadError β :=
  .error ⟨problem, c.offset⟩

def isBlank (c : Char) : Bool :=
  c == ' ' || c == '\t' || c == '\r' || c == '\n'

def Cursor.skipBlanks (c : Cursor) : Cursor :=
  let blanks := c.rest.takeWhile isBlank
  c.skip blanks.length

def Cursor.peek (c : Cursor) : Option Char :=
  c.rest.head?

def maxDepth : Nat := 1024

def readWord (c : Cursor) (word : String) (v : Value) (problem : String) :
    Except ReadError (Value × Cursor) :=
  if word.toList.isPrefixOf c.rest then pure (v, c.skip word.length) else c.failBefore problem

def digitValue (c : Char) : Nat :=
  c.toNat - '0'.toNat

def accumulate (negative : Bool) (digits : List Char) : Option Nat :=
  digits.foldlM (fun v d =>
    let next := (v * 10 + digitValue d) % Nat.pow 2 64
    if (!negative && v > next) || (negative && next > Nat.pow 2 63) then none else some next) 0

def exponentPart (cs : List Char) : Bool × Nat × Nat :=
  let (negative, signWidth, body) := match cs with
    | '-' :: r => (true, 1, r)
    | '+' :: r => (false, 1, r)
    | r => (false, 0, r)
  let ds := body.takeWhile Char.isDigit
  (negative, digitsNat ds, signWidth + ds.length)

def readNumber (c : Cursor) : Except ReadError (Value × Cursor) :=
  match c.rest with
  | 'I' :: _ => readWord c "Infinity" (.float infinity)
      "Unexpected character found when decoding 'Infinity'"
  | 'N' :: _ => readWord c "NaN" .null "Unexpected character found when decoding 'NaN'"
  | '-' :: 'I' :: _ => readWord c "-Infinity" (.float (-infinity))
      "Unexpected character found when decoding '-Infinity'"
  | cs =>
    let (negative, signWidth) := match cs with
      | '-' :: _ => (true, 1)
      | _ => (false, 0)
    let body := cs.drop signWidth
    let whole := body.takeWhile Char.isDigit
    match accumulate negative whole with
    | none => c.failBefore (if negative then "Value is too small" else "Value is too big!")
    | some value =>
      let afterWhole := body.drop whole.length
      let used := signWidth + whole.length
      let (fraction, count, fracWidth, afterFraction) := match afterWhole with
        | '.' :: r =>
          let ds := r.takeWhile Char.isDigit
          (digitsNat (ds.take 15), min ds.length 15, 1 + ds.length, r.drop ds.length)
        | r => (0, 0, 0, r)
      let parts := joinParts negative value (ofNatNearest fraction) count
      match afterFraction with
      | m :: r =>
        if m == 'e' || m == 'E' then
          let (expNegative, power, expWidth) := exponentPart r
          pure (.float (scaleByTen parts expNegative power), c.skip (used + fracWidth + 1 + expWidth))
        else if fracWidth > 0 then pure (.float parts, c.skip (used + fracWidth))
        else pure (.int (if negative then -(value : Int) else value), c.skip used)
      | [] =>
        if fracWidth > 0 then pure (.float parts, c.skip (used + fracWidth))
        else pure (.int (if negative then -(value : Int) else value), c.skip used)

def isHighSurrogate (n : Nat) : Bool :=
  n / 1024 == 0xd800 / 1024

def isLowSurrogate (n : Nat) : Bool :=
  n / 1024 == 0xdc00 / 1024

def hexCode : Nat → Nat → List Char → Except String Nat
  | 0, acc, _ => pure acc
  | n + 1, acc, c :: cs =>
    if c == '\x00' then .error "Unterminated unicode escape sequence when decoding 'string'"
    else match hexValue? c with
      | some d => hexCode n (acc * 16 + d) cs
      | none => .error "Unexpected character in unicode escape sequence when decoding 'string'"
  | _ + 1, _, [] => .error "Unterminated unicode escape sequence when decoding 'string'"

def escapeOf? : Char → Option Char
  | '\\' => some '\\'
  | '"' => some '"'
  | '/' => some '/'
  | 'b' => some '\x08'
  | 'f' => some '\x0c'
  | 'n' => some '\n'
  | 'r' => some '\r'
  | 't' => some '\t'
  | _ => none

def textBody (pending : Option Nat) (acc : List Char) : List Char →
    Except String (String × List Char)
  | [] => .error "Unmatched ''\"' when when decoding 'string'"
  | '"' :: rest => pure (String.ofList acc.reverse, rest)
  | '\\' :: rest =>
    match rest with
    | [] => .error "Unterminated escape sequence when decoding 'string'"
    | 'u' :: more => do
      let code ← hexCode 4 0 more
      let after := more.drop 4
      match pending with
      | none =>
        if isHighSurrogate code then textBody (some code) acc after
        else textBody none (charOfCode code :: acc) after
      | some high =>
        if isLowSurrogate code then
          textBody none (charOfCode (0x10000 + (high - 0xd800) * 1024 + (code - 0xdc00)) :: acc) after
        else .error "Unpaired high surrogate when decoding 'string'"
    | e :: more =>
      if e == '\x00' then .error "Unterminated escape sequence when decoding 'string'"
      else match escapeOf? e with
        | some ch => textBody pending (ch :: acc) more
        | none => .error "Unrecognized escape sequence when decoding 'string'"
  | ch :: rest =>
    if ch == '\x00' then .error "Unmatched ''\"' when when decoding 'string'"
    else textBody pending (ch :: acc) rest
termination_by cs => cs.length
decreasing_by all_goals simp_all <;> omega

def readText (c : Cursor) : Except ReadError (String × Cursor) :=
  match textBody none [] (c.rest.drop 1) with
  | .ok (s, rest) =>
    let used := c.rest.length - rest.length
    let width := ((c.rest.take used).map Char.utf8Size).foldl (· + ·) 0
    pure (s, ⟨rest, c.offset + width⟩)
  | .error problem => c.failHere problem

mutual
def readAny : Nat → Nat → Cursor → Except ReadError (Value × Cursor)
  | 0, _, c => c.failBefore "Expected object or value"
  | fuel + 1, depth, c =>
    let c := c.skipBlanks
    match c.peek with
    | some '"' => do
      let (s, after) ← readText c
      pure (.str s, after)
    | some '[' => readSequence fuel (depth + 1) c
    | some '{' => readMapping fuel (depth + 1) c
    | some 't' => readWord c "true" (.bool true) "Unexpected character found when decoding 'true'"
    | some 'f' => readWord c "false" (.bool false) "Unexpected character found when decoding 'false'"
    | some 'n' => readWord c "null" .null "Unexpected character found when decoding 'null'"
    | some ch =>
      if ch.isDigit || ch == 'I' || ch == 'N' || ch == '-' then readNumber c
      else c.failBefore "Expected object or value"
    | none => c.failBefore "Expected object or value"

def readSequence : Nat → Nat → Cursor → Except ReadError (Value × Cursor)
  | 0, _, c => c.failBefore "Expected object or value"
  | fuel + 1, depth, c =>
    if depth > maxDepth then c.failBefore "Reached object decoding depth limit"
    else readItems fuel depth [] c.next

def readItems : Nat → Nat → List Value → Cursor → Except ReadError (Value × Cursor)
  | 0, _, _, c => c.failBefore "Expected object or value"
  | fuel + 1, depth, acc, c => do
    let c := c.skipBlanks
    if c.peek == some ']' then
      if acc.isEmpty then pure (.list [], c.next)
      else c.failBefore "Unexpected character found when decoding array value (1)"
    else
      let (item, after) ← readAny fuel depth c
      let after := after.skipBlanks
      match after.peek with
      | some ']' => pure (.list (item :: acc).reverse, after.next)
      | some ',' => readItems fuel depth (item :: acc) after.next
      | _ => after.failHere "Unexpected character found when decoding array value (2)"

def readMapping : Nat → Nat → Cursor → Except ReadError (Value × Cursor)
  | 0, _, c => c.failBefore "Expected object or value"
  | fuel + 1, depth, c =>
    if depth > maxDepth then c.failBefore "Reached object decoding depth limit"
    else readFields fuel depth [] c.next

/-- Reads the fields of a mapping after its opening brace or a comma; a later value of a
key replaces the earlier one in its place. -/
def readFields : Nat → Nat → List (String × Value) → Cursor → Except ReadError (Value × Cursor)
  | 0, _, _, c => c.failBefore "Expected object or value"
  | fuel + 1, depth, acc, c => do
    let c := c.skipBlanks
    if c.peek == some '\x7d' then pure (.object acc, c.next)
    else
      let (key, afterKey) ← readAny fuel depth c
      match key with
      | .str name =>
        let afterKey := afterKey.skipBlanks
        if afterKey.peek != some ':' then
          afterKey.failHere "No ':' found when decoding object value"
        else
          let (item, after) ← readAny fuel depth afterKey.next.skipBlanks
          let after := after.skipBlanks
          let fields := Fields.set acc name item
          match after.peek with
          | some '\x7d' => pure (.object fields, after.next)
          | some ',' => readFields fuel depth fields after.next
          | _ => after.failHere "Unexpected character in found when decoding object value"
      | _ => afterKey.failBefore "Key name of object must be 'string' when decoding 'object'"
end

def read (text : String) : Except ReadError Value := do
  let cs := text.toList
  let (v, after) ← readAny (3 * cs.length + 8) 0 ⟨cs, 0⟩
  let after := after.skipBlanks
  if after.rest.isEmpty then pure v else after.failBefore "Trailing data"

end Conveyor.Value.Loose

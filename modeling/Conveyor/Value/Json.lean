import Conveyor.Value.Show
import Conveyor.Decimal.Text

/-!
# JSON text of configuration values

Reading keeps the difference between whole numbers and binary64 numbers: a number
with a fraction or an exponent is a binary64 number, rounded once from its exact
decimal value; any other number is an integer of any size. `NaN`, `Infinity` and
`-Infinity` are read as the binary64 values they name. A key written twice keeps
its first place and its last value.

Writing puts text as it is, escaping only the quote, the backslash and control
characters; numbers are written with the standard number layout, and a binary64
value that is not finite is written as `null`. What JSON has no place for is written
in a shape it has: bytes, dates and moments as an object `{"$repr": literal}`, a tuple
as a list, a set as a sorted list, and a key that is not text as JSON writes a key
(`true`, `false`, `null`, a number, `NaN` or `Infinity`).
-/

namespace Conveyor.Value

set_option autoImplicit false

open Conveyor.Decimal

def skipSpace : List Char → List Char
  | c :: rest => if c == ' ' || c == '\t' || c == '\n' || c == '\r' then skipSpace rest else c :: rest
  | [] => []

def hexValue? (c : Char) : Option Nat :=
  if '0' ≤ c && c ≤ '9' then some (c.toNat - '0'.toNat)
  else if 'a' ≤ c && c ≤ 'f' then some (c.toNat - 'a'.toNat + 10)
  else if 'A' ≤ c && c ≤ 'F' then some (c.toNat - 'A'.toNat + 10)
  else none

def readHex4 : List Char → Option (Nat × List Char)
  | a :: b :: c :: d :: rest => do
    let a ← hexValue? a
    let b ← hexValue? b
    let c ← hexValue? c
    let d ← hexValue? d
    pure (((a * 16 + b) * 16 + c) * 16 + d, rest)
  | _ => none

def charOfCode (n : Nat) : Char :=
  if 0xD800 ≤ n && n < 0xE000 then Char.ofNat 0xFFFD else Char.ofNat n

def readStringBody : Nat → List Char → List Char → Option (String × List Char)
  | 0, _, _ => none
  | _ + 1, [], _ => none
  | _ + 1, '"' :: rest, acc => some (String.ofList acc.reverse, rest)
  | fuel + 1, '\\' :: c :: rest, acc =>
    match c with
    | '"' => readStringBody fuel rest ('"' :: acc)
    | '\\' => readStringBody fuel rest ('\\' :: acc)
    | '/' => readStringBody fuel rest ('/' :: acc)
    | 'b' => readStringBody fuel rest (Char.ofNat 8 :: acc)
    | 'f' => readStringBody fuel rest (Char.ofNat 12 :: acc)
    | 'n' => readStringBody fuel rest ('\n' :: acc)
    | 'r' => readStringBody fuel rest ('\r' :: acc)
    | 't' => readStringBody fuel rest ('\t' :: acc)
    | 'u' =>
      match readHex4 rest with
      | none => none
      | some (high, after) =>
        if 0xD800 ≤ high && high < 0xDC00 then
          match after with
          | '\\' :: 'u' :: more =>
            match readHex4 more with
            | some (low, after2) =>
              if 0xDC00 ≤ low && low < 0xE000 then
                readStringBody fuel after2
                  (Char.ofNat (0x10000 + (high - 0xD800) * 0x400 + (low - 0xDC00)) :: acc)
              else readStringBody fuel after (charOfCode high :: acc)
            | none => readStringBody fuel after (charOfCode high :: acc)
          | _ => readStringBody fuel after (charOfCode high :: acc)
        else readStringBody fuel after (charOfCode high :: acc)
    | _ => none
  | fuel + 1, c :: rest, acc => readStringBody fuel rest (c :: acc)

def readDigitRun : List Char → Nat → Nat → Nat × Nat × List Char
  | c :: rest, acc, count =>
    if '0' ≤ c && c ≤ '9' then readDigitRun rest (acc * 10 + (c.toNat - '0'.toNat)) (count + 1)
    else (acc, count, c :: rest)
  | [], acc, count => (acc, count, [])

def readNumber (cs : List Char) : Option (Value × List Char) :=
  let (negative, cs) := match cs with
    | '-' :: rest => (true, rest)
    | _ => (false, cs)
  let (whole, wholeCount, cs) := readDigitRun cs 0 0
  if wholeCount == 0 then none
  else
    let (frac, fracCount, cs, hasFrac) := match cs with
      | '.' :: rest =>
        let (f, n, r) := readDigitRun rest 0 0
        (f, n, r, true)
      | _ => (0, 0, cs, false)
    if hasFrac && fracCount == 0 then none
    else
      let (exp, cs, hasExp, expOk) : Int × List Char × Bool × Bool := match cs with
        | c :: rest =>
          if c == 'e' || c == 'E' then
            let (expNegative, rest) := match rest with
              | '-' :: r => (true, r)
              | '+' :: r => (false, r)
              | r => (false, r)
            let (e, n, r) := readDigitRun rest 0 0
            ((if expNegative then -(e : Int) else e), r, true, n > 0)
          else (0, c :: rest, false, true)
        | [] => (0, [], false, true)
      if !expOk then none
      else if hasFrac || hasExp then
        some (.float (ofDecimal negative (whole * Nat.pow 10 fracCount + frac) (exp - fracCount)), cs)
      else
        some (.int (if negative then -(whole : Int) else whole), cs)

def startsWithWord (cs : List Char) (word : String) : Bool :=
  cs.take word.length == word.toList

mutual
def readValue : Nat → List Char → Option (Value × List Char)
  | 0, _ => none
  | fuel + 1, cs =>
    match skipSpace cs with
    | '{' :: rest => readFields fuel (skipSpace rest) [] true
    | '[' :: rest => readItems fuel (skipSpace rest) [] true
    | '"' :: rest => (readStringBody (cs.length + 1) rest []).map fun (s, r) => (.str s, r)
    | cs =>
      if startsWithWord cs "null" then some (.null, cs.drop 4)
      else if startsWithWord cs "true" then some (.bool true, cs.drop 4)
      else if startsWithWord cs "false" then some (.bool false, cs.drop 5)
      else if startsWithWord cs "NaN" then some (.float notANumber, cs.drop 3)
      else if startsWithWord cs "Infinity" then some (.float infinity, cs.drop 8)
      else if startsWithWord cs "-Infinity" then some (.float (-infinity), cs.drop 9)
      else readNumber cs

def readItems : Nat → List Char → List Value → Bool → Option (Value × List Char)
  | 0, _, _, _ => none
  | fuel + 1, cs, acc, first =>
    match cs with
    | ']' :: rest => if first then some (.list acc.reverse, rest) else none
    | _ =>
      match readValue fuel cs with
      | none => none
      | some (v, rest) =>
        match skipSpace rest with
        | ',' :: more => readItems fuel (skipSpace more) (v :: acc) false
        | ']' :: more => some (.list (v :: acc).reverse, more)
        | _ => none

def readFields : Nat → List Char → List (String × Value) → Bool → Option (Value × List Char)
  | 0, _, _, _ => none
  | fuel + 1, cs, acc, first =>
    match cs with
    | '}' :: rest => if first then some (.object acc, rest) else none
    | '"' :: rest =>
      match readStringBody (rest.length + 1) rest [] with
      | none => none
      | some (key, after) =>
        match skipSpace after with
        | ':' :: afterColon =>
          match readValue fuel afterColon with
          | none => none
          | some (v, rest) =>
            let acc := Fields.set acc key v
            match skipSpace rest with
            | ',' :: more => readFields fuel (skipSpace more) acc false
            | '}' :: more => some (.object acc, more)
            | _ => none
        | _ => none
    | _ => none
end

def ofJson? (s : String) : Option Value :=
  let cs := s.toList
  match readValue (cs.length + 1) cs with
  | some (v, rest) => if (skipSpace rest).isEmpty then some v else none
  | none => none

def jsonString (s : String) : String :=
  let escape (c : Char) : String :=
    if c == '"' then "\\\""
    else if c == '\\' then "\\\\"
    else if c == '\n' then "\\n"
    else if c == '\r' then "\\r"
    else if c == '\t' then "\\t"
    else if c.toNat < 0x20 then
      let ds := Nat.toDigits 16 c.toNat
      "\\u" ++ String.ofList (List.replicate (4 - ds.length) '0' ++ ds)
    else String.ofList [c]
  "\"" ++ String.join (s.toList.map escape) ++ "\""

def jsonFloat (x : Float) : String :=
  match shapeOf x with
  | .finite _ => Float.text x
  | _ => "null"

def number? : Value → Option Float
  | .bool b => some (if b then 1.0 else 0.0)
  | .int n => some (Float.ofInt n)
  | .float x => some x
  | _ => none

def writtenBefore (a b : Value) : Bool :=
  match a, b with
  | .str x, .str y => x < y
  | .int x, .int y => x < y
  | _, _ =>
    match a.number?, b.number? with
    | some x, some y => x < y
    | _, _ => a.literal < b.literal

def jsonKey : Value → String
  | .str s => s
  | .int n => toString n
  | .bool b => if b then "true" else "false"
  | .null => "null"
  | .float x => render { Layout.standard with nanText := "NaN", infinityText := "Infinity" } x
  | v => v.text

mutual
/-- Whether a value holds a collection met again inside itself, so that writing it whole
never ends. -/
def holdsCycle : Value → Bool
  | .cycle _ => true
  | .list items | .set items | .tuple items => itemsHoldCycle items
  | .object fields => fieldsHoldCycle fields
  | .keyed pairs => pairsHoldCycle pairs
  | _ => false

def itemsHoldCycle : List Value → Bool
  | [] => false
  | v :: rest => holdsCycle v || itemsHoldCycle rest

def fieldsHoldCycle : List (String × Value) → Bool
  | [] => false
  | (_, v) :: rest => holdsCycle v || fieldsHoldCycle rest

def pairsHoldCycle : List (Value × Value) → Bool
  | [] => false
  | (k, v) :: rest => holdsCycle k || holdsCycle v || pairsHoldCycle rest
end

mutual
/-- The JSON text of a value; a cycle, which an answer never holds (see `holdsCycle`),
is written as null. -/
def toJson : Value → String
  | .null => "null"
  | .bool b => if b then "true" else "false"
  | .int n => toString n
  | .float x => jsonFloat x
  | .str s => jsonString s
  | .list items => "[" ++ listJson items ++ "]"
  | .object fields => "\x7b" ++ fieldsJson fields ++ "\x7d"
  | .bytes data => "\x7b\"$repr\":" ++ jsonString (bytesLiteral data) ++ "\x7d"
  | .date d => "\x7b\"$repr\":" ++ jsonString d.literal ++ "\x7d"
  | .moment m => "\x7b\"$repr\":" ++ jsonString m.literal ++ "\x7d"
  | .set items =>
    let written := (items.zip (itemJsons items)).mergeSort fun a b => !writtenBefore b.1 a.1
    "[" ++ ",".intercalate (written.map (·.2)) ++ "]"
  | .tuple items => "[" ++ listJson items ++ "]"
  | .keyed pairs => "\x7b" ++ pairsJson pairs ++ "\x7d"
  | .cycle _ => "null"

def listJson : List Value → String
  | [] => ""
  | [v] => toJson v
  | v :: rest => toJson v ++ "," ++ listJson rest

def itemJsons : List Value → List String
  | [] => []
  | v :: rest => toJson v :: itemJsons rest

def fieldsJson : List (String × Value) → String
  | [] => ""
  | [(k, v)] => jsonString k ++ ":" ++ toJson v
  | (k, v) :: rest => jsonString k ++ ":" ++ toJson v ++ "," ++ fieldsJson rest

def pairsJson : List (Value × Value) → String
  | [] => ""
  | [(k, v)] => jsonString (jsonKey k) ++ ":" ++ toJson v
  | (k, v) :: rest => jsonString (jsonKey k) ++ ":" ++ toJson v ++ "," ++ pairsJson rest
end

end Conveyor.Value

import Conveyor.Value.Basic
import Conveyor.Decimal.Text
import Conveyor.Text.Basic

/-!
# Values in messages

Messages show values in two ways. The *literal* of a value is how it would be
written back as source: `None`, `True`, `False`, integers in decimal, binary64
numbers in the standard layout, text quoted, sequences as `[a, b]`, mappings as
`{'k': v}`, sets as `{a, b}` (`set()` when empty), tuples as `(a, b)` (`(a,)` with one
item), bytes as `b'…'`, and dates and moments as their constructors. The *text* of a
value is the same except that text stands as itself and dates and moments are
written plainly.
-/

namespace Conveyor.Value

set_option autoImplicit false

def byteHex (b : UInt8) : String :=
  let digit (n : Nat) : Char := if n < 10 then Char.ofNat (48 + n) else Char.ofNat (87 + n)
  String.ofList [digit (b.toNat / 16), digit (b.toNat % 16)]

/-- Bytes as source: in single quotes, or double quotes when they hold a single quote
and no double one; the quote and the backslash escaped, tab, line feed and carriage
return by name, and other bytes outside printable ASCII in hexadecimal. -/
def bytesLiteral (data : List UInt8) : String :=
  let quote : UInt8 := if data.contains 39 && !data.contains 34 then 34 else 39
  let one (b : UInt8) : String :=
    if b == quote || b == 92 then String.ofList ['\\', Char.ofNat b.toNat]
    else if b == 9 then "\\t"
    else if b == 10 then "\\n"
    else if b == 13 then "\\r"
    else if b < 32 || b ≥ 127 then "\\x" ++ byteHex b
    else String.ofList [Char.ofNat b.toNat]
  let q := String.ofList [Char.ofNat quote.toNat]
  "b" ++ q ++ String.join (data.map one) ++ q

mutual
def literal : Value → String
  | .null => "None"
  | .bool b => if b then "True" else "False"
  | .int n => toString n
  | .float x => Decimal.Float.text x
  | .str s => Text.quote s
  | .list items => "[" ++ literalItems items ++ "]"
  | .object fields => "\x7b" ++ literalFields fields ++ "\x7d"
  | .bytes data => bytesLiteral data
  | .date d => d.literal
  | .moment m => m.literal
  | .set [] => "set()"
  | .set items => "\x7b" ++ literalItems items ++ "\x7d"
  | .tuple [v] => "(" ++ literal v ++ ",)"
  | .tuple items => "(" ++ literalItems items ++ ")"
  | .keyed pairs => "\x7b" ++ literalPairs pairs ++ "\x7d"
  | .cycle mapping => if mapping then "\x7b...\x7d" else "[...]"

def literalItems : List Value → String
  | [] => ""
  | [v] => literal v
  | v :: rest => literal v ++ ", " ++ literalItems rest

def literalFields : List (String × Value) → String
  | [] => ""
  | [(k, v)] => Text.quote k ++ ": " ++ literal v
  | (k, v) :: rest => Text.quote k ++ ": " ++ literal v ++ ", " ++ literalFields rest

def literalPairs : List (Value × Value) → String
  | [] => ""
  | [(k, v)] => literal k ++ ": " ++ literal v
  | (k, v) :: rest => literal k ++ ": " ++ literal v ++ ", " ++ literalPairs rest
end

/-- The text of a value: text as itself, dates and moments plainly, anything else as its
literal. -/
def text : Value → String
  | .str s => s
  | .date d => d.text
  | .moment m => m.text
  | v => literal v

example : bytesLiteral [104, 39, 10] = "b\"h'\\n\"" := by decide

end Conveyor.Value

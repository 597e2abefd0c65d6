import Conveyor.Table.Column
import Conveyor.Decimal.Text
import Conveyor.Value.Show

/-!
# Tables as text

A table is written column by column, without row labels. Each column is its name
above its cells, all right-aligned to the widest of them; columns are joined by
one space and lines by a line break. The name of a column of numbers or truth
values stands one place further right, as if signed.

Cells are written by the kind of their column:

* whole numbers in decimal; truth values as `True` and `False`;
* binary64 numbers all with the same decimals: six, then trailing zeros removed
  while every number with a point ends in one, keeping one digit after the
  point. When a nonzero magnitude is below `10^-6`, or the texts grow past twelve
  characters and a magnitude passes `10^6`, they are written in scientific layout
  instead. A value that is not a number is `NaN`;
* mixed cells each by itself: text as it is with tab, carriage return and line
  feed shown escaped, nothing as `None`, a missing number as `NaN`, numbers with a
  point with six decimals less trailing zeros and a space for the sign;
* a sequence in a mixed cell as `[a, b]` and a mapping as `{k: v}`, at most a
  hundred items each (then `, ...`). Inside them numbers with a point have six
  decimals less trailing zeros and no sign place. Text in a sequence is written
  like a cell's; text in a mapping, keys and values and all below, is quoted in
  single quotes and not escaped. Three levels down, a sequence or mapping is
  written as its literal, never quoted.

Cells are never cut: a column is as wide as its widest cell.
-/

namespace Conveyor.Table

set_option autoImplicit false

open Conveyor.Decimal

def maxCellItems : Nat := 100

def maxCellDepth : Nat := 3

def isPointNumber (s : String) : Bool :=
  let cs := s.toList.dropWhile (· == ' ')
  let cs := match cs with
    | '+' :: r => r
    | '-' :: r => r
    | r => r
  let whole := cs.takeWhile Char.isDigit
  match cs.drop whole.length with
  | '.' :: frac => !whole.isEmpty && frac.all Char.isDigit
  | _ => false

def trimCommonZeros (texts : List String) : List String :=
  let trimmed := go ((texts.map String.length).foldl max 0) texts
  trimmed.map fun s => if isPointNumber s && s.endsWith "." then s ++ "0" else s
where
  /-- The fuel is the length of the longest text; each step shortens every number by one. -/
  go : Nat → List String → List String
    | 0, ts => ts
    | fuel + 1, ts =>
      let numbers := ts.filter isPointNumber
      if !numbers.isEmpty && numbers.all (·.endsWith "0") then
        go fuel (ts.map fun s => if isPointNumber s then (s.dropEnd 1).toString else s)
      else ts

def binaryCells (xs : List Float) : List String :=
  let write (layout : Float → String) : List String :=
    trimCommonZeros (xs.map fun x => if x != x then "NaN" else layout x)
  let fixed := write (fixedText 6)
  let longest := (fixed.map String.length).foldl max 0
  let magnitudes := (xs.filter fun x => x == x).map Float.abs
  let large := magnitudes.any (· > 1000000.0)
  let small := magnitudes.any fun a => a < 0.000001 && a > 0.0
  if small || (longest > 12 && large) then write (scientificText 6) else fixed

def loneBinary (x : Float) : String :=
  let text := fixedText 6 x
  let signed := if text.startsWith "-" then text else " " ++ text
  let stripped := String.ofList ((signed.toList.reverse.dropWhile (· == '0')).reverse)
  if stripped.endsWith "." then stripped ++ "0" else stripped

def escapeControls (s : String) : String :=
  String.join (s.toList.map fun c =>
    if c == '\t' then "\\t" else if c == '\r' then "\\r" else if c == '\n' then "\\n"
    else String.ofList [c])

def trimZeros (text : String) : String :=
  let stripped := String.ofList ((text.toList.reverse.dropWhile (· == '0')).reverse)
  if stripped.endsWith "." then stripped ++ "0" else stripped

def nestedBinary (x : Float) : String :=
  trimZeros (fixedText 6 x)

/-- How text in a cell is written: in single quotes or not, with tab, carriage return
and line feed escaped or not. -/
structure TextStyle where
  quoted : Bool
  escaped : Bool

def TextStyle.plain (style : TextStyle) (s : String) : String :=
  if style.escaped then escapeControls s else s

def TextStyle.write (style : TextStyle) (s : String) : String :=
  if style.quoted then "'" ++ style.plain s ++ "'" else style.plain s

def joinShown (shown : List String) (total : Nat) : String :=
  ", ".intercalate shown ++ (if total > maxCellItems then ", ..." else "")

mutual
def nestedCell (depth : Nat) (style : TextStyle) : Value → String
  | .str s => style.write s
  | .null => "None"
  | .bool b => if b then "True" else "False"
  | .int n => toString n
  | .float x => nestedBinary x
  | .list items =>
    if depth < maxCellDepth then
      "[" ++ joinShown (nestedItems (depth + 1) style maxCellItems items) items.length ++ "]"
    else style.plain (Value.literal (.list items))
  | .object fields =>
    if depth < maxCellDepth then
      "\x7b" ++ joinShown (nestedFields (depth + 1) ⟨true, false⟩ maxCellItems fields) fields.length ++
        "\x7d"
    else style.plain (Value.literal (.object fields))
  | v => style.plain v.literal

def nestedItems (depth : Nat) (style : TextStyle) (left : Nat) : List Value → List String
  | [] => []
  | v :: rest =>
    if left == 0 then [] else nestedCell depth style v :: nestedItems depth style (left - 1) rest

def nestedFields (depth : Nat) (style : TextStyle) (left : Nat) : List (String × Value) → List String
  | [] => []
  | (k, v) :: rest =>
    if left == 0 then []
    else (style.write k ++ ": " ++ nestedCell depth style v) :: nestedFields depth style (left - 1) rest
end

def mixedCell : Value → String
  | .float x => if x != x then "NaN" else loneBinary x
  | v => nestedCell 0 ⟨false, true⟩ v

def cellTexts (kind : ColumnKind) (cells : List Value) : List String :=
  match kind with
  | .whole => cells.map fun
    | .int n => toString n
    | v => mixedCell v
  | .truth => cells.map mixedCell
  | .binary => binaryCells (cells.map fun
    | .float x => x
    | .int n => (ofInt? n).getD infinity
    | _ => notANumber)
  | .mixed => cells.map mixedCell

/-- A column of a text table. -/
structure TextColumn where
  name : String
  kind : ColumnKind
  cells : List Value

def alignRight (width : Nat) (s : String) : String :=
  String.ofList (List.replicate (width - s.length) ' ') ++ s

def TextColumn.lines (c : TextColumn) : List String :=
  let header := if c.kind == .mixed then c.name else " " ++ c.name
  let texts := cellTexts c.kind c.cells
  let widest := (texts.map String.length).foldl max 0
  let width := max widest header.length
  (alignRight width header) :: texts.map (alignRight width)

def renderTable (columns : List TextColumn) : String :=
  let blocks := columns.map TextColumn.lines
  let height := (blocks.map List.length).foldl max 0
  "\n".intercalate ((List.range height).map fun i =>
    " ".intercalate (blocks.map fun b => b.getD i ""))

end Conveyor.Table

import Conveyor.Fault

/-!
# YAML text and its problems

## The characters of a YAML text

A YAML text is read one character at a time from a position that carries its
*mark*: the character index, the line and the column, each counted from zero.
Moving past a line break (line feed, next line, line separator, paragraph
separator, or a carriage return not followed by a line feed) starts a new line; a
byte order mark takes no column; every other character takes one. Past the end
every character reads as the end marker `\x00`, which no accepted text holds.

A text may hold only the characters YAML allows: tab, line feed, carriage return,
printable ASCII, next line, and everything from U+00A0 up except the surrogates
and U+FFFE, U+FFFF. The characters are checked as they are read in: the first
8192 before anything else, then 4096 at a time whenever reading looks past those
checked so far. So a problem met before reading reaches a refused character is
reported instead of it.
-/

namespace Conveyor.Yaml

set_option autoImplicit false

/-- A place in a YAML text: character index, line and column, each from zero. -/
structure Mark where
  index : Nat := 0
  line : Nat := 0
  column : Nat := 0
  deriving Inhabited, BEq, Repr

/-- Whether a character breaks a line: line feed, carriage return, next line, line
separator or paragraph separator. -/
def isBreak (c : Char) : Bool :=
  c == '\n' || c == '\r' || c == '\x85' || c == '\u2028' || c == '\u2029'

def isBreakOrEnd (c : Char) : Bool :=
  c == '\x00' || isBreak c

def isBlankOrEnd (c : Char) : Bool :=
  c == ' ' || c == '\t' || isBreakOrEnd c

def isSpaceOrEnd (c : Char) : Bool :=
  c == ' ' || isBreakOrEnd c

/-- Whether a character is an ASCII letter, a digit, `-` or `_`: the characters of
anchor names, directive names and tag handles. -/
def isWordChar (c : Char) : Bool :=
  ('0' ≤ c && c ≤ '9') || ('A' ≤ c && c ≤ 'Z') || ('a' ≤ c && c ≤ 'z') || c == '-' || c == '_'

def isHexDigit (c : Char) : Bool :=
  ('0' ≤ c && c ≤ '9') || ('A' ≤ c && c ≤ 'F') || ('a' ≤ c && c ≤ 'f')

def isAllowed (c : Char) : Bool :=
  let n := c.toNat
  n == 0x9 || n == 0xA || n == 0xD || (0x20 ≤ n && n ≤ 0x7E) || n == 0x85 ||
    (0xA0 ≤ n && n ≤ 0xD7FF) || (0xE000 ≤ n && n ≤ 0xFFFD) || (0x10000 ≤ n && n ≤ 0x10FFFF)

/-- The characters of a YAML text and a position in them. -/
structure Stream where
  chars : Array Char
  mark : Mark := {}
  deriving Inhabited

namespace Stream

def ofString (text : String) : Stream :=
  { chars := text.toList.toArray }

def peekAt (s : Stream) (k : Nat) : Char :=
  s.chars.getD (s.mark.index + k) '\x00'

def peek (s : Stream) : Char :=
  s.peekAt 0

def ahead (s : Stream) (n : Nat) : String :=
  String.ofList ((List.range n).map s.peekAt)

def step (s : Stream) : Stream :=
  let c := s.peek
  let m := s.mark
  let next : Mark :=
    if c == '\n' || c == '\x85' || c == '\u2028' || c == '\u2029' || (c == '\r' && s.peekAt 1 != '\n') then
      { index := m.index + 1, line := m.line + 1, column := 0 }
    else if c == '\uFEFF' then { m with index := m.index + 1 }
    else { m with index := m.index + 1, column := m.column + 1 }
  { s with mark := next }

def forward (s : Stream) : Nat → Stream
  | 0 => s
  | n + 1 => s.step.forward n

def left (s : Stream) : Nat :=
  s.chars.size - s.mark.index

end Stream

def firstChunk : Nat := 8192

def laterChunk : Nat := 4096

/-- How far the characters of a text of `size` characters are checked, once `checked` of
them are and reading looks at the characters before `extent`: whole chunks are taken
in until the extent is covered or the text ends. -/
def checkedTo (size checked extent : Nat) : Nat :=
  if extent ≤ checked || size ≤ checked then checked
  else min size (checked + (extent - checked + laterChunk - 1) / laterChunk * laterChunk)

def firstRefused (text : String) : Option (Nat × Nat) :=
  go 0 text.toList
where
  go (i : Nat) : List Char → Option (Nat × Nat)
    | [] => none
    | c :: rest => if isAllowed c then go (i + 1) rest else some (i, c.toNat)

example : ((Stream.ofString "a\nb").forward 2).mark.line = 1 := by
  decide

end Conveyor.Yaml

/-!
## Why a YAML text cannot be loaded

A text is refused for a character it may not hold, for a problem found at a mark
(with what the loader was doing and where that began), or for a value that a
conversion refuses, which is reported as that conversion reports it.

The text of a problem names the file: each mark reads
`  in "<file>", line L, column C`, counted from one. The lines are the context,
its mark when it differs from the problem's, the problem and the problem's mark.
-/

namespace Conveyor.Yaml

set_option autoImplicit false

/-- Why a YAML text cannot be loaded. -/
inductive LoadError where
  /-- A character the text may not hold: its code and index. -/
  | character (code : Nat) (position : Nat)
  /-- A problem found at a mark, with the context it was found in. -/
  | marked (context : Option String) (contextMark : Option Mark) (problem : String)
      (problemMark : Option Mark)
  /-- A value that a conversion refuses. -/
  | conversion (fault : Fault)
  deriving Inhabited

def Mark.place (name : String) (m : Mark) : String :=
  "  in \"" ++ name ++ "\", line " ++ toString (m.line + 1) ++ ", column " ++ toString (m.column + 1)

def hexCode (n : Nat) : String :=
  let digits := Nat.toDigits 16 n
  String.ofList (List.replicate (4 - digits.length) '0' ++ digits)

def showsContextMark : Option Mark → Option Mark → Bool
  | some c, some p => c.line != p.line || c.column != p.column
  | some _, none => true
  | none, _ => false

def LoadError.render (name : String) : LoadError → String
  | .character code position =>
    "unacceptable character #x" ++ hexCode code ++ ": special characters are not allowed\n" ++
      "  in \"" ++ name ++ "\", position " ++ toString position
  | .marked context contextMark problem problemMark =>
    let shownContext := if showsContextMark contextMark problemMark then contextMark.toList else []
    "\n".intercalate (context.toList ++ shownContext.map (Mark.place name) ++ [problem] ++
      problemMark.toList.map (Mark.place name))
  | .conversion fault => fault.message

def LoadError.conversionFault? : LoadError → Option Fault
  | .conversion fault => some fault
  | _ => none

example : hexCode 0x1b = "001b" := by decide

end Conveyor.Yaml

import Conveyor.Yaml.Token
import Conveyor.Text.Basic

/-!
# The state of the YAML lexer

The lexer keeps its place in the text and a queue of tokens made but not yet
taken. Block structure comes from indentation: the lexer keeps the column of the
innermost block and the columns of the blocks around it, and closes blocks (with a
block-end token) when a line starts left of them. Inside brackets (the *flow
level* counts how deep) indentation does not matter.

A key may stand without its `?` indicator: such a *simple key* is only known to
be one when its `:` comes. So every place a simple key could start is remembered
per flow level, with the number the key token would get; when `:` comes the key
token is put in the queue at that number. A possible simple key lapses at the end
of its line or after 1024 characters; one that had to be a key (it starts a block
at the block's own column) then fails the text. Tokens are not handed out while a
possible simple key could still precede them.
-/

namespace Conveyor.Yaml

set_option autoImplicit false

/-- A place where a simple key could start: the number of its key token, whether the
text fails if it is not a key, and its mark. -/
structure SimpleKey where
  tokenNumber : Nat
  required : Bool
  mark : Mark
  deriving Inhabited

/-- The lexer: its place in the text, how far the text's characters are checked and
the first one refused, the tokens waiting and the block structure. -/
structure Lexer where
  stream : Stream
  checked : Nat := 0
  refused : Option (Nat × Nat) := none
  done : Bool := false
  flowLevel : Int := 0
  tokens : List Token := []
  tokensTaken : Nat := 0
  indent : Int := -1
  indents : List Int := []
  allowSimpleKey : Bool := true
  simpleKeys : List (Int × SimpleKey) := []
  deriving Inhabited

abbrev Lex := StateT Lexer (Except LoadError)

namespace Lex

/-- Reading looks at the `n` characters from the position: they are checked first, and
a refused character among them fails the text. -/
def reach (n : Nat) : Lex Unit := do
  let s ← get
  let checked := checkedTo s.stream.chars.size s.checked (s.stream.mark.index + n)
  if checked != s.checked then
    if let some (place, code) := s.refused then
      if place < checked then throw (.character code place)
    set { s with checked }

def peekAt (k : Nat) : Lex Char := do
  reach (k + 1)
  return (← get).stream.peekAt k

def peek : Lex Char :=
  peekAt 0

def prefixOf (n : Nat) : Lex String := do
  reach n
  return (← get).stream.ahead n

def forward (n : Nat) : Lex Unit := do
  reach (n + 1)
  modify fun s => { s with stream := s.stream.forward n }

def here : Lex Mark := do
  return (← get).stream.mark

def column : Lex Int := do
  return ((← get).stream.mark.column : Int)

def fuel : Lex Nat := do
  return (← get).stream.left + 2

def inFlow : Lex Bool := do
  return (← get).flowLevel != 0

def refuse {α : Type} (context : Option String) (contextMark : Option Mark) (problem : String)
    (place : Mark) : Lex α :=
  throw (.marked context contextMark problem (some place))

def emit (t : Token) : Lex Unit :=
  modify fun s => { s with tokens := s.tokens ++ [t] }

def quoteChar (c : Char) : String :=
  Text.quote (String.singleton c)

/-- How many characters from the position on pass a test; the first that fails is
looked at too. -/
def lengthWhile (p : Char → Bool) : Lex Nat := do
  let st := (← get).stream
  let k := go st p 0 (st.left + 1)
  reach (k + 1)
  return k
where
  go (st : Stream) (p : Char → Bool) (k : Nat) : Nat → Nat
    | 0 => k
    | n + 1 => if p (st.peekAt k) then go st p (k + 1) n else k

def skipWhile (p : Char → Bool) : Lex Unit := do
  forward (← lengthWhile p)

/-- Moves past a line break, giving it as read: a line feed for a carriage return, a
line feed, both, or a next line; a line or paragraph separator as itself; nothing when
there is no break. -/
def lineBreak : Lex String := do
  let c ← peek
  if c == '\r' || c == '\n' || c == '\x85' then
    if (← prefixOf 2) == "\r\n" then forward 2 else forward 1
    return "\n"
  else if c == '\u2028' || c == '\u2029' then
    forward 1
    return String.singleton c
  else return ""

/-- Whether a document marker `---` or `...` stands at the position, followed by a
blank, a break or the end. -/
def atDocumentMarker : Lex Bool := do
  let p ← prefixOf 3
  return (p == "---" || p == "...") && isBlankOrEnd (← peekAt 3)

def nextTokenNumber : Lex Nat := do
  let s ← get
  return s.tokensTaken + s.tokens.length

def nextSimpleKey (s : Lexer) : Option Nat :=
  s.simpleKeys.foldl (fun acc entry =>
    match acc with
    | none => some entry.2.tokenNumber
    | some m => some (min m entry.2.tokenNumber)) none

/-- Whether a possible simple key has lapsed at a mark: another line, or more than 1024
characters back. -/
def lapsed (key : SimpleKey) (m : Mark) : Bool :=
  key.mark.line != m.line || m.index - key.mark.index > 1024

def dropLapsedKeys : Lex Unit := do
  let s ← get
  let m := s.stream.mark
  for entry in s.simpleKeys do
    if lapsed entry.2 m && entry.2.required then
      refuse (some "while scanning a simple key") (some entry.2.mark) "could not find expected ':'" m
  set { s with simpleKeys := s.simpleKeys.filter fun (entry : Int × SimpleKey) => !lapsed entry.2 m }

/-- Forgets the possible simple key of the current flow level; one that had to be a key
fails. -/
def removeSimpleKey : Lex Unit := do
  let s ← get
  match s.simpleKeys.lookup s.flowLevel with
  | some key =>
    if key.required then
      refuse (some "while scanning a simple key") (some key.mark) "could not find expected ':'"
        s.stream.mark
    set { s with simpleKeys := s.simpleKeys.filter fun (entry : Int × SimpleKey) => entry.1 != s.flowLevel }
  | none => pure ()

/-- Remembers that a simple key could start at the position, when one may. It has to be
a key when it stands outside brackets at the column of the current block. -/
def saveSimpleKey : Lex Unit := do
  let s ← get
  let required := s.flowLevel == 0 && s.indent == (s.stream.mark.column : Int)
  if s.allowSimpleKey then
    removeSimpleKey
    let s ← get
    let key : SimpleKey :=
      { tokenNumber := s.tokensTaken + s.tokens.length, required, mark := s.stream.mark }
    set { s with simpleKeys :=
      (s.simpleKeys.filter fun (entry : Int × SimpleKey) => entry.1 != s.flowLevel) ++ [(s.flowLevel, key)] }

/-- Closes the blocks indented deeper than a column, one block-end token each; inside
brackets nothing closes. -/
def unwindIndent (col : Int) : Lex Unit := do
  let s ← get
  if s.flowLevel == 0 then go col (s.indents.length + 1)
where
  go (col : Int) : Nat → Lex Unit
    | 0 => pure ()
    | n + 1 => do
      let s ← get
      if s.indent > col then
        match s.indents with
        | top :: rest =>
          let m := s.stream.mark
          set { s with indent := top, indents := rest, tokens := s.tokens ++ [Token.mk .blockEnd m m] }
          go col n
        | [] => pure ()
      else pure ()

def addIndent (col : Int) : Lex Bool := do
  let s ← get
  if s.indent < col then
    set { s with indents := s.indent :: s.indents, indent := col }
    return true
  else return false

def allowKey (b : Bool) : Lex Unit :=
  modify fun s => { s with allowSimpleKey := b }

end Lex

end Conveyor.Yaml

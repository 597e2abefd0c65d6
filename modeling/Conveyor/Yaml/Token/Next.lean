import Conveyor.Yaml.Token.Scalars

/-!
# Making tokens

Tokens are made on demand. Before each token the lexer skips blanks, comments
and line breaks (a break outside brackets lets a simple key start), drops lapsed
simple keys and closes the blocks the new position is left of; the character
there then decides the token:

* the end of the text ends the stream, closing every block;
* at column zero, `%` starts a directive and `---` or `...` marks a document;
* brackets open and close flow collections, and `,` separates their entries;
* `-`, `?` and `:` followed by a blank are entry, key and value indicators (in
  brackets `?` and `:` need no blank); outside brackets an entry or key indicator
  opens a block at its column, and a value indicator turns the remembered simple
  key into a key token, opening a mapping block at the key's column;
* `*`, `&` and `!` start aliases, anchors and tags; `|` and `>` block scalars
  (outside brackets); quotes quoted scalars; and anything else that may start a
  plain scalar starts one.

Tokens are handed out only when no remembered simple key could still come before
them.
-/

namespace Conveyor.Yaml

set_option autoImplicit false

namespace Lex

def skipToToken : Lex Unit := do
  let s ← get
  if s.stream.mark.index == 0 && s.stream.peek == '\uFEFF' then forward 1
  go (← fuel)
where
  go : Nat → Lex Unit
    | 0 => pure ()
    | n + 1 => do
      skipWhile (· == ' ')
      if (← peek) == '#' then skipWhile fun c => !isBreakOrEnd c
      let b ← lineBreak
      if b.isEmpty then pure ()
      else
        if !(← inFlow) then allowKey true
        go n

def single (kind : TokenKind) : Lex Unit := do
  let start ← here
  forward 1
  emit ⟨kind, start, ← here⟩

def fetchStreamEnd : Lex Unit := do
  unwindIndent (-1)
  removeSimpleKey
  modify fun s => { s with allowSimpleKey := false, simpleKeys := [] }
  let m ← here
  emit ⟨.streamEnd, m, m⟩
  modify fun s => { s with done := true }

def fetchDirective : Lex Unit := do
  unwindIndent (-1)
  removeSimpleKey
  allowKey false
  emit (← scanDirective)

def fetchDocumentMarker (kind : TokenKind) : Lex Unit := do
  unwindIndent (-1)
  removeSimpleKey
  allowKey false
  let start ← here
  forward 3
  emit ⟨kind, start, ← here⟩

def fetchFlowStart (kind : TokenKind) : Lex Unit := do
  saveSimpleKey
  modify fun s => { s with flowLevel := s.flowLevel + 1 }
  allowKey true
  single kind

def fetchFlowEnd (kind : TokenKind) : Lex Unit := do
  removeSimpleKey
  modify fun s => { s with flowLevel := s.flowLevel - 1 }
  allowKey false
  single kind

def fetchFlowEntry : Lex Unit := do
  allowKey true
  removeSimpleKey
  single .flowEntry

def fetchBlockEntry : Lex Unit := do
  if !(← inFlow) then
    if !(← get).allowSimpleKey then
      refuse none none "sequence entries are not allowed here" (← here)
    if (← addIndent (← column)) then
      let m ← here
      emit ⟨.blockSequenceStart, m, m⟩
  allowKey true
  removeSimpleKey
  single .blockEntry

def fetchKey : Lex Unit := do
  let flow ← inFlow
  if !flow then
    if !(← get).allowSimpleKey then
      refuse none none "mapping keys are not allowed here" (← here)
    if (← addIndent (← column)) then
      let m ← here
      emit ⟨.blockMappingStart, m, m⟩
  allowKey (!flow)
  removeSimpleKey
  single .key

def insertAt (tokens : List Token) (place : Nat) (t : Token) : List Token :=
  tokens.take place ++ t :: tokens.drop place

def fetchValue : Lex Unit := do
  let s ← get
  match s.simpleKeys.lookup s.flowLevel with
  | some key =>
    let place := key.tokenNumber - s.tokensTaken
    set { s with
      simpleKeys := s.simpleKeys.filter fun (entry : Int × SimpleKey) => entry.1 != s.flowLevel,
      tokens := insertAt s.tokens place ⟨.key, key.mark, key.mark⟩ }
    if s.flowLevel == 0 then
      if (← addIndent (key.mark.column : Int)) then
        modify fun s => { s with
          tokens := insertAt s.tokens place ⟨.blockMappingStart, key.mark, key.mark⟩ }
    allowKey false
  | none =>
    let flow ← inFlow
    if !flow then
      if !(← get).allowSimpleKey then
        refuse none none "mapping values are not allowed here" (← here)
      if (← addIndent (← column)) then
        let m ← here
        emit ⟨.blockMappingStart, m, m⟩
    allowKey (!flow)
    removeSimpleKey
  single .value

def fetchKeyStart (scan : Lex Token) : Lex Unit := do
  saveSimpleKey
  allowKey false
  emit (← scan)

def fetchBlockScalar (folded : Bool) : Lex Unit := do
  allowKey true
  removeSimpleKey
  emit (← scanBlock folded)

def startsPlain : Lex Bool := do
  let c ← peek
  let next ← peekAt 1
  let flow ← inFlow
  let indicator := isBlankOrEnd c || "-?:,[]#&*!|>'\"%@".contains c || c == '\x7b' ||
    c == '\x7d' || c.toNat == 96
  return !indicator || (!isBlankOrEnd next && (c == '-' || (!flow && (c == '?' || c == ':'))))

def atMarkerLine (marker : String) : Lex Bool := do
  return (← column) == 0 && (← prefixOf 3) == marker && isBlankOrEnd (← peekAt 3)

def fetchMoreTokens : Lex Unit := do
  skipToToken
  dropLapsedKeys
  unwindIndent (← column)
  let c ← peek
  let flow ← inFlow
  let blankNext := isBlankOrEnd (← peekAt 1)
  if c == '\x00' then fetchStreamEnd
  else if c == '%' && (← column) == 0 then fetchDirective
  else if c == '-' && (← atMarkerLine "---") then fetchDocumentMarker .documentStart
  else if c == '.' && (← atMarkerLine "...") then fetchDocumentMarker .documentEnd
  else if c == '[' then fetchFlowStart .flowSequenceStart
  else if c == '\x7b' then fetchFlowStart .flowMappingStart
  else if c == ']' then fetchFlowEnd .flowSequenceEnd
  else if c == '\x7d' then fetchFlowEnd .flowMappingEnd
  else if c == ',' then fetchFlowEntry
  else if c == '-' && blankNext then fetchBlockEntry
  else if c == '?' && (flow || blankNext) then fetchKey
  else if c == ':' && (flow || blankNext) then fetchValue
  else if c == '*' then fetchKeyStart (scanNamed true)
  else if c == '&' then fetchKeyStart (scanNamed false)
  else if c == '!' then fetchKeyStart scanTag
  else if c == '|' && !flow then fetchBlockScalar false
  else if c == '>' && !flow then fetchBlockScalar true
  else if c == '\'' then fetchKeyStart (scanQuoted false)
  else if c == '"' then fetchKeyStart (scanQuoted true)
  else if (← startsPlain) then fetchKeyStart scanPlain
  else
    refuse (some "while scanning for the next token") none
      ("found character " ++ quoteChar c ++ " that cannot start any token") (← here)

def needMoreTokens : Lex Bool := do
  let s ← get
  if s.done then return false
  if s.tokens.isEmpty then return true
  dropLapsedKeys
  let s ← get
  return nextSimpleKey s == some s.tokensTaken

def fillTokens : Lex Unit := do
  go (← fuel)
where
  go : Nat → Lex Unit
    | 0 => pure ()
    | n + 1 => do
      if (← needMoreTokens) then
        fetchMoreTokens
        go n
      else pure ()

def peekToken : Lex (Option Token) := do
  fillTokens
  return (← get).tokens.head?

def takeToken : Lex (Option Token) := do
  fillTokens
  let s ← get
  match s.tokens with
  | t :: rest =>
    set { s with tokens := rest, tokensTaken := s.tokensTaken + 1 }
    return some t
  | [] => return none

def checkToken (classes : List TokenClass) : Lex Bool := do
  match ← peekToken with
  | some t => return t.isOneOf classes
  | none => return false

end Lex

/-- A lexer at the start of a text, with the stream-start token made and the first chunk
of characters checked. -/
def Lexer.ofText (text : String) : Lexer :=
  let stream := Stream.ofString text
  { stream, tokens := [⟨.streamStart, stream.mark, stream.mark⟩],
    checked := min stream.chars.size firstChunk, refused := firstRefused text }

end Conveyor.Yaml

import Conveyor.Yaml.Token.Lexer
import Conveyor.Text.Encoding

/-!
# Scanning scalars, anchors, tags and directives

The parts of the lexer that read one token's text:

* a *plain* scalar is words separated by blanks; a line break between words reads
  as a space, and as the breaks themselves when blank lines follow; it ends before
  a comment, a `: ` or (in brackets) an indicator, and outside brackets at a line
  indented no deeper than its block;
* a *quoted* scalar runs to its closing quote; in single quotes `''` is a quote, in
  double quotes a backslash starts an escape; line breaks fold as in plain scalars;
* a *block* scalar (`|` literal, `>` folded) takes the lines indented at least as
  deep as its first line; chomping (`-`, `+`) decides what happens to the final line
  breaks, and folding joins lines that do not start with a blank by a space;
* anchors and aliases are names of letters, digits, `-` and `_`; tags are a handle
  and a suffix of URI characters, where `%` escapes bytes of UTF-8;
* directives are `%YAML major.minor`, `%TAG handle prefix`, or any other name.
-/

namespace Conveyor.Yaml

set_option autoImplicit false

namespace Lex

def isFlowIndicator (c : Char) : Bool :=
  c == ',' || c == '[' || c == ']' || c == '\x7b' || c == '\x7d'

def plainLength (flow : Bool) : Lex Nat := do
  let st := (← get).stream
  let k := go st flow 0 (st.left + 1)
  reach (if st.peekAt k == ':' then k + 2 else k + 1)
  return k
where
  go (st : Stream) (flow : Bool) (k : Nat) : Nat → Nat
    | 0 => k
    | n + 1 =>
      let c := st.peekAt k
      let next := st.peekAt (k + 1)
      let stops := isBlankOrEnd c ||
        (c == ':' && (isBlankOrEnd next || (flow && isFlowIndicator next))) ||
        (flow && (isFlowIndicator c || c == '?'))
      if stops then k else go st flow (k + 1) n

def foldBreaks (first : String) (breaks : List String) : List String :=
  (if first != "\n" then [first] else if breaks.isEmpty then [" "] else []) ++ breaks

def plainSpaces : Lex (Option (List String)) := do
  let n ← lengthWhile (· == ' ')
  let spaces ← prefixOf n
  forward n
  if isBreak (← peek) then
    let first ← lineBreak
    allowKey true
    if (← atDocumentMarker) then return none
    go first [] (← fuel)
  else if spaces.isEmpty then return some []
  else return some [spaces]
where
  go (first : String) (breaks : List String) : Nat → Lex (Option (List String))
    | 0 => pure (some (foldBreaks first breaks))
    | n + 1 => do
      let c ← peek
      if c == ' ' then
        forward 1
        go first breaks n
      else if isBreak c then
        let b ← lineBreak
        if (← atDocumentMarker) then return none
        go first (breaks ++ [b]) n
      else return some (foldBreaks first breaks)

def scanPlain : Lex Token := do
  let start ← here
  let indent := (← get).indent + 1
  let (chunks, stop) ← go indent [] [] start (← fuel)
  return ⟨.scalar (String.join chunks) .plain, start, stop⟩
where
  go (indent : Int) (chunks spaces : List String) (stop : Mark) :
      Nat → Lex (List String × Mark)
    | 0 => pure (chunks, stop)
    | n + 1 => do
      if (← peek) == '#' then return (chunks, stop)
      let flow ← inFlow
      let length ← plainLength flow
      if length == 0 then return (chunks, stop)
      allowKey false
      let word ← prefixOf length
      forward length
      let stop ← here
      let chunks := chunks ++ spaces ++ [word]
      match ← plainSpaces with
      | none => return (chunks, stop)
      | some more =>
        if more.isEmpty || (← peek) == '#' || (!flow && (← column) < indent) then
          return (chunks, stop)
        else go indent chunks more stop n

def escapeOf? (c : Char) : Option Char :=
  match c with
  | '0' => some '\x00'
  | 'a' => some '\x07'
  | 'b' => some '\x08'
  | 't' => some '\t'
  | '\t' => some '\t'
  | 'n' => some '\n'
  | 'v' => some '\x0b'
  | 'f' => some '\x0c'
  | 'r' => some '\r'
  | 'e' => some '\x1b'
  | ' ' => some ' '
  | '"' => some '"'
  | '\\' => some '\\'
  | '/' => some '/'
  | 'N' => some '\x85'
  | '_' => some '\u00A0'
  | 'L' => some '\u2028'
  | 'P' => some '\u2029'
  | _ => none

def escapeWidth? (c : Char) : Option Nat :=
  match c with
  | 'x' => some 2
  | 'u' => some 4
  | 'U' => some 8
  | _ => none

def hexValue (s : String) : Nat :=
  s.toList.foldl (fun acc c =>
    let d := if c.isDigit then c.toNat - 48
      else if 'a' ≤ c && c ≤ 'f' then c.toNat - 87 else c.toNat - 55
    acc * 16 + d) 0

def codeChar (code : Nat) : Lex String := do
  if code > 0x10FFFF then throw (.conversion (.value "chr() arg not in range(0x110000)"))
  else if 0xD800 ≤ code && code ≤ 0xDFFF then return "�"
  else return String.singleton (Char.ofNat code)

def expectHex (width : Nat) (context : String) (start : Mark) (problem : Char → String) :
    Lex Unit := do
  for k in List.range width do
    let d ← peekAt k
    if !isHexDigit d then refuse (some context) (some start) (problem d) (← here)

def quotedBreaks (start : Mark) : Lex (List String) := do
  go [] (← fuel)
where
  go (chunks : List String) : Nat → Lex (List String)
    | 0 => pure chunks
    | n + 1 => do
      if (← atDocumentMarker) then
        refuse (some "while scanning a quoted scalar") (some start)
          "found unexpected document separator" (← here)
      skipWhile fun c => c == ' ' || c == '\t'
      if isBreak (← peek) then
        let b ← lineBreak
        go (chunks ++ [b]) n
      else return chunks

def quotedNonSpaces (double : Bool) (start : Mark) : Lex (List String) := do
  go [] (← fuel)
where
  go (chunks : List String) : Nat → Lex (List String)
    | 0 => pure chunks
    | n + 1 => do
      let length ← lengthWhile fun c => !(c == '\'' || c == '"' || c == '\\' || isBlankOrEnd c)
      let chunks ← if length > 0 then do
          let text ← prefixOf length
          forward length
          pure (chunks ++ [text])
        else pure chunks
      let c ← peek
      if !double && c == '\'' && (← peekAt 1) == '\'' then
        forward 2
        go (chunks ++ ["'"]) n
      else if (double && c == '\'') || (!double && (c == '"' || c == '\\')) then
        forward 1
        go (chunks ++ [String.singleton c]) n
      else if double && c == '\\' then
        forward 1
        let e ← peek
        match escapeOf? e with
        | some r =>
          forward 1
          go (chunks ++ [String.singleton r]) n
        | none =>
          match escapeWidth? e with
          | some width =>
            forward 1
            expectHex width "while scanning a double-quoted scalar" start fun d =>
              "expected escape sequence of " ++ toString width ++
                " hexadecimal numbers, but found " ++ quoteChar d
            let code := hexValue (← prefixOf width)
            let ch ← codeChar code
            forward width
            go (chunks ++ [ch]) n
          | none =>
            if isBreak e then
              let _ ← lineBreak
              let breaks ← quotedBreaks start
              go (chunks ++ breaks) n
            else
              refuse (some "while scanning a double-quoted scalar") (some start)
                ("found unknown escape character " ++ quoteChar e) (← here)
      else return chunks

def quotedSpaces (start : Mark) : Lex (List String) := do
  let n ← lengthWhile fun c => c == ' ' || c == '\t'
  let spaces ← prefixOf n
  forward n
  let c ← peek
  if c == '\x00' then
    refuse (some "while scanning a quoted scalar") (some start) "found unexpected end of stream"
      (← here)
  else if isBreak c then
    let first ← lineBreak
    let breaks ← quotedBreaks start
    return foldBreaks first breaks
  else return [spaces]

def scanQuoted (double : Bool) : Lex Token := do
  let start ← here
  let quote ← peek
  forward 1
  let first ← quotedNonSpaces double start
  let chunks ← go quote start first (← fuel)
  forward 1
  let stop ← here
  return ⟨.scalar (String.join chunks) (if double then .double else .single), start, stop⟩
where
  go (quote : Char) (start : Mark) (chunks : List String) : Nat → Lex (List String)
    | 0 => pure chunks
    | n + 1 => do
      if (← peek) == quote then return chunks
      let spaces ← quotedSpaces start
      let more ← quotedNonSpaces double start
      go quote start (chunks ++ spaces ++ more) n

def blockRefusal {α : Type} (start : Mark) (problem : String) : Lex α := do
  refuse (some "while scanning a block scalar") (some start) problem (← here)

def blockIndicators (start : Mark) : Lex (Option Bool × Option Nat) := do
  let zero := "expected indentation indicator in the range 1-9, but found 0"
  let c ← peek
  let result ←
    if c == '+' || c == '-' then do
      forward 1
      let d ← peek
      if d.isDigit then
        if d == '0' then blockRefusal start zero
        forward 1
        pure (some (c == '+'), some (d.toNat - 48))
      else pure (some (c == '+'), none)
    else if c.isDigit then do
      if c == '0' then blockRefusal start zero
      forward 1
      let d ← peek
      if d == '+' || d == '-' then
        forward 1
        pure (some (d == '+'), some (c.toNat - 48))
      else pure (none, some (c.toNat - 48))
    else pure (none, none)
  let e ← peek
  if !isSpaceOrEnd e then
    blockRefusal start ("expected chomping or indentation indicators, but found " ++ quoteChar e)
  return result

def blockHeaderEnd (start : Mark) : Lex Unit := do
  skipWhile (· == ' ')
  if (← peek) == '#' then skipWhile fun c => !isBreakOrEnd c
  let c ← peek
  if !isBreakOrEnd c then
    blockRefusal start ("expected a comment or a line break, but found " ++ quoteChar c)
  let _ ← lineBreak

def blockIndentation : Lex (List String × Nat × Mark) := do
  go [] 0 (← here) (← fuel)
where
  go (chunks : List String) (deepest : Nat) (stop : Mark) : Nat → Lex (List String × Nat × Mark)
    | 0 => pure (chunks, deepest, stop)
    | n + 1 => do
      let c ← peek
      if c == ' ' then
        forward 1
        let col := (← here).column
        go chunks (max deepest col) stop n
      else if isBreak c then
        let b ← lineBreak
        go (chunks ++ [b]) deepest (← here) n
      else pure (chunks, deepest, stop)

def skipToColumn (indent : Int) : Lex Unit := do
  go (← fuel)
where
  go : Nat → Lex Unit
    | 0 => pure ()
    | n + 1 => do
      if (← column) < indent && (← peek) == ' ' then
        forward 1
        go n
      else pure ()

def blockBreaks (indent : Int) : Lex (List String × Mark) := do
  let stop ← here
  skipToColumn indent
  go [] stop (← fuel)
where
  go (chunks : List String) (stop : Mark) : Nat → Lex (List String × Mark)
    | 0 => pure (chunks, stop)
    | n + 1 => do
      if isBreak (← peek) then
        let b ← lineBreak
        let stop ← here
        skipToColumn indent
        go (chunks ++ [b]) stop n
      else pure (chunks, stop)

def scanBlock (folded : Bool) : Lex Token := do
  let start ← here
  forward 1
  let (chomping, increment) ← blockIndicators start
  blockHeaderEnd start
  let minIndent : Int := max ((← get).indent + 1) 1
  let (breaks, stop, indent) ← match increment with
    | none => do
      let (breaks, deepest, stop) ← blockIndentation
      pure (breaks, stop, max minIndent (deepest : Int))
    | some step => do
      let indent := minIndent + step - 1
      let (breaks, stop) ← blockBreaks indent
      pure (breaks, stop, indent)
  let (chunks, last, breaks, stop) ← lines indent [] "" breaks stop (← fuel)
  let tail := (if chomping != some false then [last] else []) ++
    (if chomping == some true then breaks else [])
  let style := if folded then ScalarStyle.folded else ScalarStyle.literal
  return ⟨.scalar (String.join (chunks ++ tail)) style, start, stop⟩
where
  lines (indent : Int) (chunks : List String) (last : String) (breaks : List String) (stop : Mark) :
      Nat → Lex (List String × String × List String × Mark)
    | 0 => pure (chunks, last, breaks, stop)
    | n + 1 => do
      if (← column) != indent || (← peek) == '\x00' then return (chunks, last, breaks, stop)
      let first ← peek
      let leadingNonSpace := first != ' ' && first != '\t'
      let length ← lengthWhile fun c => !isBreakOrEnd c
      let line ← prefixOf length
      forward length
      let lb ← lineBreak
      let (more, stop) ← blockBreaks indent
      let chunks := chunks ++ breaks ++ [line]
      if (← column) == indent && (← peek) != '\x00' then
        let c ← peek
        let joint :=
          if folded && lb == "\n" && leadingNonSpace && c != ' ' && c != '\t' then
            (if more.isEmpty then [" "] else [])
          else [lb]
        lines indent (chunks ++ joint) lb more stop n
      else return (chunks, lb, more, stop)

def endsName (c : Char) : Bool :=
  isBlankOrEnd c || c == '?' || c == ':' || c == ',' || c == ']' || c == '\x7d' || c == '%' ||
    c == '@' || c.toNat == 96

def scanNamed (isAlias : Bool) : Lex Token := do
  let start ← here
  let context := if isAlias then "while scanning an alias" else "while scanning an anchor"
  forward 1
  let length ← lengthWhile isWordChar
  if length == 0 then
    refuse (some context) (some start)
      ("expected alphabetic or numeric character, but found " ++ quoteChar (← peek)) (← here)
  let name ← prefixOf length
  forward length
  let c ← peek
  if !endsName c then
    refuse (some context) (some start)
      ("expected alphabetic or numeric character, but found " ++ quoteChar c) (← here)
  let stop ← here
  return ⟨if isAlias then .alias name else .anchor name, start, stop⟩

def scanTagHandle (what : String) (start : Mark) : Lex String := do
  let context := "while scanning a " ++ what
  let c ← peek
  if c != '!' then refuse (some context) (some start) ("expected '!', but found " ++ quoteChar c) (← here)
  let length ←
    if (← peekAt 1) != ' ' then do
      let st := (← get).stream
      let k := wordEnd st 1 (st.left + 1)
      reach (k + 1)
      let ch := st.peekAt k
      if ch != '!' then
        forward k
        refuse (some context) (some start) ("expected '!', but found " ++ quoteChar ch) (← here)
      pure (k + 1)
    else pure 1
  let handle ← prefixOf length
  forward length
  return handle
where
  wordEnd (st : Stream) (k : Nat) : Nat → Nat
    | 0 => k
    | n + 1 => if isWordChar (st.peekAt k) then wordEnd st (k + 1) n else k

def isUriChar (c : Char) : Bool :=
  isWordChar c || ";/?:@&=+$,.!~*'()[]%".contains c

def uriEscapes (what : String) (start : Mark) : Lex String := do
  let m ← here
  let bytes ← go [] (← fuel)
  match Text.decodeUtf8 bytes with
  | .ok s => return s
  | .error problem => throw (.marked (some ("while scanning a " ++ what)) (some start) problem (some m))
where
  go (bytes : List Nat) : Nat → Lex (List Nat)
    | 0 => pure bytes
    | n + 1 => do
      if (← peek) != '%' then return bytes
      forward 1
      expectHex 2 ("while scanning a " ++ what) start fun d =>
        "expected URI escape sequence of 2 hexadecimal numbers, but found " ++ quoteChar d
      let b := hexValue (← prefixOf 2)
      forward 2
      go (bytes ++ [b]) n

def scanTagUri (what : String) (start : Mark) : Lex String := do
  let chunks ← go [] (← fuel)
  if chunks.isEmpty then
    refuse (some ("while parsing a " ++ what)) (some start)
      ("expected URI, but found " ++ quoteChar (← peek)) (← here)
  return String.join chunks
where
  go (chunks : List String) : Nat → Lex (List String)
    | 0 => pure chunks
    | n + 1 => do
      let length ← lengthWhile fun c => isUriChar c && c != '%'
      let chunks ← if length > 0 then do
          let text ← prefixOf length
          forward length
          pure (chunks ++ [text])
        else pure chunks
      if (← peek) == '%' then
        let decoded ← uriEscapes what start
        go (chunks ++ [decoded]) n
      else return chunks

def handleEnd (st : Stream) : Nat → Nat → Nat
  | k, 0 => k
  | k, n + 1 =>
    let c := st.peekAt k
    if isSpaceOrEnd c || c == '!' then k else handleEnd st (k + 1) n

def scanTag : Lex Token := do
  let start ← here
  let c1 ← peekAt 1
  let (handle, suffix) ←
    if c1 == '<' then do
      forward 2
      let suffix ← scanTagUri "tag" start
      let c ← peek
      if c != '>' then
        refuse (some "while parsing a tag") (some start) ("expected '>', but found " ++ quoteChar c) (← here)
      forward 1
      pure (none, suffix)
    else if isBlankOrEnd c1 then do
      forward 1
      pure (none, "!")
    else do
      let st := (← get).stream
      let k := handleEnd st 1 (st.left + 1)
      reach (k + 1)
      let handle ← if st.peekAt k == '!' then scanTagHandle "tag" start else do
          forward 1
          pure "!"
      let suffix ← scanTagUri "tag" start
      pure (some handle, suffix)
  let c ← peek
  if !isSpaceOrEnd c then
    refuse (some "while scanning a tag") (some start) ("expected ' ', but found " ++ quoteChar c) (← here)
  let stop ← here
  return ⟨.tag handle suffix, start, stop⟩

def directiveRefusal {α : Type} (start : Mark) (problem : String) : Lex α := do
  refuse (some "while scanning a directive") (some start) problem (← here)

def directiveName (start : Mark) : Lex String := do
  let length ← lengthWhile isWordChar
  if length == 0 then
    directiveRefusal start ("expected alphabetic or numeric character, but found " ++ quoteChar (← peek))
  let name ← prefixOf length
  forward length
  let c ← peek
  if !isSpaceOrEnd c then
    directiveRefusal start ("expected alphabetic or numeric character, but found " ++ quoteChar c)
  return name

def versionNumber (start : Mark) : Lex Nat := do
  let c ← peek
  if !c.isDigit then directiveRefusal start ("expected a digit, but found " ++ quoteChar c)
  let length ← lengthWhile Char.isDigit
  let digits ← prefixOf length
  forward length
  return digits.toList.foldl (fun acc d => acc * 10 + (d.toNat - 48)) 0

def versionValue (start : Mark) : Lex DirectiveValue := do
  skipWhile (· == ' ')
  let major ← versionNumber start
  if (← peek) != '.' then
    directiveRefusal start ("expected a digit or '.', but found " ++ quoteChar (← peek))
  forward 1
  let minor ← versionNumber start
  if !isSpaceOrEnd (← peek) then
    directiveRefusal start ("expected a digit or ' ', but found " ++ quoteChar (← peek))
  return .version major minor

def tagPrefixValue (start : Mark) : Lex DirectiveValue := do
  skipWhile (· == ' ')
  let handle ← scanTagHandle "directive" start
  if (← peek) != ' ' then directiveRefusal start ("expected ' ', but found " ++ quoteChar (← peek))
  skipWhile (· == ' ')
  let pre ← scanTagUri "directive" start
  if !isSpaceOrEnd (← peek) then
    directiveRefusal start ("expected ' ', but found " ++ quoteChar (← peek))
  return .tagPrefix handle pre

def directiveLineEnd (start : Mark) : Lex Unit := do
  skipWhile (· == ' ')
  if (← peek) == '#' then skipWhile fun c => !isBreakOrEnd c
  let c ← peek
  if !isBreakOrEnd c then
    directiveRefusal start ("expected a comment or a line break, but found " ++ quoteChar c)
  let _ ← lineBreak

def scanDirective : Lex Token := do
  let start ← here
  forward 1
  let name ← directiveName start
  let (value, stop) ←
    if name == "YAML" then do
      let v ← versionValue start
      pure (v, ← here)
    else if name == "TAG" then do
      let v ← tagPrefixValue start
      pure (v, ← here)
    else do
      let stop ← here
      skipWhile fun c => !isBreakOrEnd c
      pure (DirectiveValue.other, stop)
  directiveLineEnd start
  return ⟨.directive name value, start, stop⟩

end Lex

end Conveyor.Yaml

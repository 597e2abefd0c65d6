import Conveyor.Yaml.Token.Next
import Conveyor.Yaml.Token

/-!
# From tokens to events

Events are made from tokens one at a time by a machine whose
*phase* says what it expects next; a stack of phases holds where to return after
a nested node, and a stack of marks where each open block or flow collection
began (for the context of a problem).

A stream is documents. A document without `---` starts implicitly at its first
node; one with `---` may follow directives (`%YAML 1.x`, at most once, and `%TAG`
handles, each once). A node is an alias, or an optional anchor and tag before a
scalar, a collection, or nothing (an empty scalar). A tag's handle must be known:
`!` and `!!` always are, others only by a `%TAG` directive. Missing keys and values
read as empty scalars; a sequence of `-` entries may stand at the indentation of
the mapping key that holds it.
-/

namespace Conveyor.Yaml

set_option autoImplicit false

/-- What the machine expects next. -/
inductive Phase where
  | streamStart
  | implicitDocumentStart
  | documentStart
  | documentEnd
  | documentContent
  | blockNode
  | blockSequenceFirstEntry
  | blockSequenceEntry
  | indentlessSequenceEntry
  | blockMappingFirstKey
  | blockMappingKey
  | blockMappingValue
  | flowSequenceFirstEntry
  | flowSequenceEntry
  | flowSequenceEntryMappingKey
  | flowSequenceEntryMappingValue
  | flowSequenceEntryMappingEnd
  | flowMappingFirstKey
  | flowMappingKey
  | flowMappingValue
  | flowMappingEmptyValue
  | finished
  deriving Inhabited, DecidableEq, Repr

def defaultTagHandles : List (String × String) :=
  [("!", "!"), ("!!", "tag:yaml.org,2002:")]

/-- The machine: the lexer, the phase, the phases and marks to return to, the known tag
handles, and the event made but not yet taken. -/
structure Machine where
  lexer : Lexer
  phase : Phase := .streamStart
  phases : List Phase := []
  marks : List Mark := []
  tagHandles : List (String × String) := []
  current : Option Event := none
  deriving Inhabited

abbrev Advance := StateT Machine (Except LoadError)

namespace Advance

def lex {α : Type} (m : Lex α) : Advance α := do
  let p ← get
  match m.run p.lexer with
  | .ok (a, lexer) =>
    set { p with lexer }
    pure a
  | .error e => throw e

def peekToken : Advance Token := do
  match ← lex Lex.peekToken with
  | some t => pure t
  | none => pure ⟨.streamEnd, {}, {}⟩

def takeToken : Advance Token := do
  match ← lex Lex.takeToken with
  | some t => pure t
  | none => pure ⟨.streamEnd, {}, {}⟩

def check (classes : List TokenClass) : Advance Bool :=
  lex (Lex.checkToken classes)

def nextName : Advance String := do
  return Text.quote (← peekToken).kind.tokenClass.name

def goTo (phase : Phase) : Advance Unit :=
  modify fun p => { p with phase }

def pushPhase (phase : Phase) : Advance Unit :=
  modify fun p => { p with phases := phase :: p.phases }

def popPhase : Advance Unit :=
  modify fun p => match p.phases with
    | top :: rest => { p with phase := top, phases := rest }
    | [] => { p with phase := .finished }

def pushMark (m : Mark) : Advance Unit :=
  modify fun p => { p with marks := m :: p.marks }

def popMark : Advance Unit :=
  modify fun p => { p with marks := p.marks.drop 1 }

def topMark : Advance Mark := do
  return (← get).marks.headD {}

def refuse {α : Type} (context : Option String) (contextMark : Option Mark) (problem : String)
    (place : Mark) : Advance α :=
  throw (.marked context contextMark problem (some place))

def processDirectives : Advance Unit := do
  let handles ← go false [] (← lex Lex.fuel)
  let missing := defaultTagHandles.filter fun entry => (handles.lookup entry.1).isNone
  modify fun p => { p with tagHandles := handles ++ missing }
where
  go (seenVersion : Bool) (handles : List (String × String)) : Nat → Advance (List (String × String))
    | 0 => pure handles
    | n + 1 => do
      if !(← check [.directive]) then return handles
      let t ← takeToken
      match t.kind with
      | .directive "YAML" (.version major _) =>
        if seenVersion then refuse none none "found duplicate YAML directive" t.start
        if major != 1 then
          refuse none none "found incompatible YAML document (version 1.* is required)" t.start
        go true handles n
      | .directive "TAG" (.tagPrefix handle pre) =>
        if (handles.lookup handle).isSome then
          refuse none none ("duplicate tag handle " ++ Text.quote handle) t.start
        go seenVersion (handles ++ [(handle, pre)]) n
      | _ => go seenVersion handles n

def streamStart : Advance Event := do
  let t ← takeToken
  goTo .implicitDocumentStart
  return ⟨.streamStart, t.start, t.stop⟩

def documentStart : Advance Event := do
  let n ← lex Lex.fuel
  skipEnds n
  if !(← check [.streamEnd]) then
    let start := (← peekToken).start
    processDirectives
    if !(← check [.documentStart]) then
      refuse none none ("expected '<document start>', but found " ++ (← nextName)) (← peekToken).start
    let t ← takeToken
    pushPhase .documentEnd
    goTo .documentContent
    return ⟨.documentStart true, start, t.stop⟩
  else
    let t ← takeToken
    goTo .finished
    return ⟨.streamEnd, t.start, t.stop⟩
where
  skipEnds : Nat → Advance Unit
    | 0 => pure ()
    | n + 1 => do
      if (← check [.documentEnd]) then
        let _ ← takeToken
        skipEnds n
      else pure ()

def implicitDocumentStart : Advance Event := do
  if !(← check [.directive, .documentStart, .streamEnd]) then
    modify fun p => { p with tagHandles := defaultTagHandles }
    let m := (← peekToken).start
    pushPhase .documentEnd
    goTo .blockNode
    return ⟨.documentStart false, m, m⟩
  else documentStart

def documentEnd : Advance Event := do
  let start := (← peekToken).start
  let (stop, explicit) ← if (← check [.documentEnd]) then do
      let t ← takeToken
      pure (t.stop, true)
    else pure (start, false)
  goTo .documentStart
  return ⟨.documentEnd explicit, start, stop⟩

def tagOf (handle : Option String) (suffix : String) (start tagMark : Mark) : Advance String := do
  match handle with
  | none => pure suffix
  | some h =>
    match (← get).tagHandles.lookup h with
    | some pre => pure (pre ++ suffix)
    | none => refuse (some "while parsing a node") (some start) ("found undefined tag handle " ++ Text.quote h) tagMark

/-- A node: an alias, or properties (anchor and tag, in either order) before its content.
Outside brackets a node may be a block collection, and where a mapping's key or value
stands, a sequence of `-` entries without its own indentation. -/
def node (block indentless : Bool) : Advance Event := do
  if (← check [.alias]) then
    let t ← takeToken
    let name := match t.kind with
      | .alias n => n
      | _ => ""
    popPhase
    return ⟨.alias name, t.start, t.stop⟩
  let first ← peekToken
  let (anchor, tagToken, start, stop, tagMark) ← match first.kind with
    | .anchor name => do
      let _ ← takeToken
      let next ← peekToken
      match next.kind with
      | .tag h s =>
        let _ ← takeToken
        pure (some name, some (h, s), some first.start, some next.stop, some next.start)
      | _ => pure (some name, none, some first.start, some first.stop, none)
    | .tag h s => do
      let _ ← takeToken
      let next ← peekToken
      match next.kind with
      | .anchor name =>
        let _ ← takeToken
        pure (some name, some (h, s), some first.start, some next.stop, some first.start)
      | _ => pure (none, some (h, s), some first.start, some first.stop, some first.start)
    | _ => pure (none, none, none, none, none)
  let tag ← match tagToken with
    | some (h, s) => some <$> tagOf h s (start.getD {}) (tagMark.getD {})
    | none => pure none
  let (start, stop) ← match start, stop with
    | some a, some b => pure (a, b)
    | _, _ => do
      let m := (← peekToken).start
      pure (m, m)
  let implicit := tag.isNone || tag == some "!"
  if indentless && (← check [.blockEntry]) then
    let stop := (← peekToken).stop
    goTo .indentlessSequenceEntry
    return ⟨.sequenceStart anchor tag implicit false, start, stop⟩
  let next ← peekToken
  match next.kind with
  | .scalar text style =>
    let t ← takeToken
    let plainImplicit := (style == .plain && tag.isNone) || tag == some "!"
    let quotedImplicit := !plainImplicit && tag.isNone
    popPhase
    return ⟨.scalar anchor tag plainImplicit quotedImplicit text style, start, t.stop⟩
  | .flowSequenceStart =>
    goTo .flowSequenceFirstEntry
    return ⟨.sequenceStart anchor tag implicit true, start, next.stop⟩
  | .flowMappingStart =>
    goTo .flowMappingFirstKey
    return ⟨.mappingStart anchor tag implicit true, start, next.stop⟩
  | .blockSequenceStart =>
    if block then
      goTo .blockSequenceFirstEntry
      return ⟨.sequenceStart anchor tag implicit false, start, next.start⟩
    else nodeless block anchor tag implicit start stop next
  | .blockMappingStart =>
    if block then
      goTo .blockMappingFirstKey
      return ⟨.mappingStart anchor tag implicit false, start, next.start⟩
    else nodeless block anchor tag implicit start stop next
  | _ => nodeless block anchor tag implicit start stop next
where
  nodeless (block : Bool) (anchor tag : Option String) (implicit : Bool) (start stop : Mark)
      (next : Token) :
      Advance Event := do
    if anchor.isSome || tag.isSome then
      popPhase
      return ⟨.scalar anchor tag implicit false "" .plain, start, stop⟩
    else
      let what := if block then "block" else "flow"
      refuse (some ("while parsing a " ++ what ++ " node")) (some start)
        ("expected the node content, but found " ++ Text.quote next.kind.tokenClass.name) next.start

def blockSequenceEntry : Advance Event := do
  if (← check [.blockEntry]) then
    let t ← takeToken
    if !(← check [.blockEntry, .blockEnd]) then
      pushPhase .blockSequenceEntry
      node true false
    else
      goTo .blockSequenceEntry
      return Event.empty t.stop
  else if !(← check [.blockEnd]) then
    refuse (some "while parsing a block collection") (some (← topMark))
      ("expected <block end>, but found " ++ (← nextName)) (← peekToken).start
  else
    let t ← takeToken
    popPhase
    popMark
    return ⟨.sequenceEnd, t.start, t.stop⟩

def indentlessSequenceEntry : Advance Event := do
  if (← check [.blockEntry]) then
    let t ← takeToken
    if !(← check [.blockEntry, .key, .value, .blockEnd]) then
      pushPhase .indentlessSequenceEntry
      node true false
    else
      goTo .indentlessSequenceEntry
      return Event.empty t.stop
  else
    let t ← peekToken
    popPhase
    return ⟨.sequenceEnd, t.start, t.start⟩

def blockMappingKey : Advance Event := do
  if (← check [.key]) then
    let t ← takeToken
    if !(← check [.key, .value, .blockEnd]) then
      pushPhase .blockMappingValue
      node true true
    else
      goTo .blockMappingValue
      return Event.empty t.stop
  else if !(← check [.blockEnd]) then
    refuse (some "while parsing a block mapping") (some (← topMark))
      ("expected <block end>, but found " ++ (← nextName)) (← peekToken).start
  else
    let t ← takeToken
    popPhase
    popMark
    return ⟨.mappingEnd, t.start, t.stop⟩

def blockMappingValue : Advance Event := do
  if (← check [.value]) then
    let t ← takeToken
    if !(← check [.key, .value, .blockEnd]) then
      pushPhase .blockMappingKey
      node true true
    else
      goTo .blockMappingKey
      return Event.empty t.stop
  else
    goTo .blockMappingKey
    return Event.empty (← peekToken).start

def flowSequenceEntry (first : Bool) : Advance Event := do
  if !(← check [.flowSequenceEnd]) then
    if !first then
      if (← check [.flowEntry]) then
        let _ ← takeToken
      else
        refuse (some "while parsing a flow sequence") (some (← topMark))
          ("expected ',' or ']', but got " ++ (← nextName)) (← peekToken).start
    if (← check [.key]) then
      let t ← peekToken
      goTo .flowSequenceEntryMappingKey
      return ⟨.mappingStart none none true true, t.start, t.stop⟩
    else if !(← check [.flowSequenceEnd]) then
      pushPhase .flowSequenceEntry
      return (← node false false)
  let t ← takeToken
  popPhase
  popMark
  return ⟨.sequenceEnd, t.start, t.stop⟩

def flowSequenceEntryMappingKey : Advance Event := do
  let t ← takeToken
  if !(← check [.value, .flowEntry, .flowSequenceEnd]) then
    pushPhase .flowSequenceEntryMappingValue
    node false false
  else
    goTo .flowSequenceEntryMappingValue
    return Event.empty t.stop

def flowSequenceEntryMappingValue : Advance Event := do
  if (← check [.value]) then
    let t ← takeToken
    if !(← check [.flowEntry, .flowSequenceEnd]) then
      pushPhase .flowSequenceEntryMappingEnd
      node false false
    else
      goTo .flowSequenceEntryMappingEnd
      return Event.empty t.stop
  else
    goTo .flowSequenceEntryMappingEnd
    return Event.empty (← peekToken).start

def flowSequenceEntryMappingEnd : Advance Event := do
  goTo .flowSequenceEntry
  let t ← peekToken
  return ⟨.mappingEnd, t.start, t.start⟩

def flowMappingKey (first : Bool) : Advance Event := do
  if !(← check [.flowMappingEnd]) then
    if !first then
      if (← check [.flowEntry]) then
        let _ ← takeToken
      else
        refuse (some "while parsing a flow mapping") (some (← topMark))
          ("expected ',' or '\x7d', but got " ++ (← nextName)) (← peekToken).start
    if (← check [.key]) then
      let t ← takeToken
      if !(← check [.value, .flowEntry, .flowMappingEnd]) then
        pushPhase .flowMappingValue
        return (← node false false)
      else
        goTo .flowMappingValue
        return Event.empty t.stop
    else if !(← check [.flowMappingEnd]) then
      pushPhase .flowMappingEmptyValue
      return (← node false false)
  let t ← takeToken
  popPhase
  popMark
  return ⟨.mappingEnd, t.start, t.stop⟩

def flowMappingValue : Advance Event := do
  if (← check [.value]) then
    let t ← takeToken
    if !(← check [.flowEntry, .flowMappingEnd]) then
      pushPhase .flowMappingKey
      node false false
    else
      goTo .flowMappingKey
      return Event.empty t.stop
  else
    goTo .flowMappingKey
    return Event.empty (← peekToken).start

def flowMappingEmptyValue : Advance Event := do
  goTo .flowMappingKey
  return Event.empty (← peekToken).start

def openCollection : Advance Unit := do
  let t ← takeToken
  pushMark t.start

def step : Advance (Option Event) := do
  match (← get).phase with
  | .streamStart => some <$> streamStart
  | .implicitDocumentStart => some <$> implicitDocumentStart
  | .documentStart => some <$> documentStart
  | .documentEnd => some <$> documentEnd
  | .documentContent =>
    if (← check [.directive, .documentStart, .documentEnd, .streamEnd]) then
      let m := (← peekToken).start
      popPhase
      return some (Event.empty m)
    else some <$> node true false
  | .blockNode => some <$> node true false
  | .blockSequenceFirstEntry =>
    openCollection
    some <$> blockSequenceEntry
  | .blockSequenceEntry => some <$> blockSequenceEntry
  | .indentlessSequenceEntry => some <$> indentlessSequenceEntry
  | .blockMappingFirstKey =>
    openCollection
    some <$> blockMappingKey
  | .blockMappingKey => some <$> blockMappingKey
  | .blockMappingValue => some <$> blockMappingValue
  | .flowSequenceFirstEntry =>
    openCollection
    some <$> flowSequenceEntry true
  | .flowSequenceEntry => some <$> flowSequenceEntry false
  | .flowSequenceEntryMappingKey => some <$> flowSequenceEntryMappingKey
  | .flowSequenceEntryMappingValue => some <$> flowSequenceEntryMappingValue
  | .flowSequenceEntryMappingEnd => some <$> flowSequenceEntryMappingEnd
  | .flowMappingFirstKey =>
    openCollection
    some <$> flowMappingKey true
  | .flowMappingKey => some <$> flowMappingKey false
  | .flowMappingValue => some <$> flowMappingValue
  | .flowMappingEmptyValue => some <$> flowMappingEmptyValue
  | .finished => return none

def peekEvent : Advance (Option Event) := do
  match (← get).current with
  | some e => return some e
  | none =>
    let e ← step
    modify fun p => { p with current := e }
    return e

def takeEvent : Advance (Option Event) := do
  let e ← peekEvent
  modify fun p => { p with current := none }
  return e

def checkEvent (classes : List EventClass) : Advance Bool := do
  match ← peekEvent with
  | some e => return classes.contains e.kind.eventClass
  | none => return false

end Advance

def Machine.ofText (text : String) : Machine :=
  { lexer := Lexer.ofText text }

end Conveyor.Yaml

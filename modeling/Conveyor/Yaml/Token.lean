import Conveyor.Yaml.Stream

/-!
# YAML tokens and events

## YAML tokens

The lexer cuts a YAML text into tokens: the stream's ends, directives, document
markers, the starts and ends of indented blocks and of bracketed collections, the
indicators of keys, values and entries, aliases, anchors, tags and scalars. Each
token spans two marks. A token's *name* is how problems quote it.
-/

namespace Conveyor.Yaml

set_option autoImplicit false

/-- The value of a directive: a YAML version, a tag handle with its prefix, or nothing
for a directive of another name. -/
inductive DirectiveValue where
  | version (major minor : Nat)
  | tagPrefix (handle pre : String)
  | other
  deriving Inhabited, Repr

/-- The style of a scalar: plain, single-quoted, double-quoted, literal or folded. -/
inductive ScalarStyle where
  | plain
  | single
  | double
  | literal
  | folded
  deriving Inhabited, DecidableEq, Repr

/-- What a token is. -/
inductive TokenKind where
  | streamStart
  | streamEnd
  | directive (name : String) (value : DirectiveValue)
  | documentStart
  | documentEnd
  | blockSequenceStart
  | blockMappingStart
  | blockEnd
  | flowSequenceStart
  | flowMappingStart
  | flowSequenceEnd
  | flowMappingEnd
  | key
  | value
  | blockEntry
  | flowEntry
  | alias (name : String)
  | anchor (name : String)
  | tag (handle : Option String) (suffix : String)
  | scalar (text : String) (style : ScalarStyle)
  deriving Inhabited, Repr

/-- A token with the marks where it starts and ends. -/
structure Token where
  kind : TokenKind
  start : Mark
  stop : Mark
  deriving Inhabited

/-- The kinds of token, without their contents, for asking which kind comes next. -/
inductive TokenClass where
  | streamStart
  | streamEnd
  | directive
  | documentStart
  | documentEnd
  | blockSequenceStart
  | blockMappingStart
  | blockEnd
  | flowSequenceStart
  | flowMappingStart
  | flowSequenceEnd
  | flowMappingEnd
  | key
  | value
  | blockEntry
  | flowEntry
  | alias
  | anchor
  | tag
  | scalar
  deriving DecidableEq, Repr

def TokenKind.tokenClass : TokenKind → TokenClass
  | .streamStart => .streamStart
  | .streamEnd => .streamEnd
  | .directive _ _ => .directive
  | .documentStart => .documentStart
  | .documentEnd => .documentEnd
  | .blockSequenceStart => .blockSequenceStart
  | .blockMappingStart => .blockMappingStart
  | .blockEnd => .blockEnd
  | .flowSequenceStart => .flowSequenceStart
  | .flowMappingStart => .flowMappingStart
  | .flowSequenceEnd => .flowSequenceEnd
  | .flowMappingEnd => .flowMappingEnd
  | .key => .key
  | .value => .value
  | .blockEntry => .blockEntry
  | .flowEntry => .flowEntry
  | .alias _ => .alias
  | .anchor _ => .anchor
  | .tag _ _ => .tag
  | .scalar _ _ => .scalar

def TokenClass.name : TokenClass → String
  | .streamStart => "<stream start>"
  | .streamEnd => "<stream end>"
  | .directive => "<directive>"
  | .documentStart => "<document start>"
  | .documentEnd => "<document end>"
  | .blockSequenceStart => "<block sequence start>"
  | .blockMappingStart => "<block mapping start>"
  | .blockEnd => "<block end>"
  | .flowSequenceStart => "["
  | .flowMappingStart => "\x7b"
  | .flowSequenceEnd => "]"
  | .flowMappingEnd => "\x7d"
  | .key => "?"
  | .value => ":"
  | .blockEntry => "-"
  | .flowEntry => ","
  | .alias => "<alias>"
  | .anchor => "<anchor>"
  | .tag => "<tag>"
  | .scalar => "<scalar>"

def Token.isOneOf (t : Token) (classes : List TokenClass) : Bool :=
  classes.contains t.kind.tokenClass

end Conveyor.Yaml

/-!
## YAML events

Tokens become events: the stream's and documents' starts and ends, aliases,
scalars, and the starts and ends of sequences and mappings. A node's event
carries its anchor and tag, and whether its tag may be found from its text: a
scalar is *plain-implicit* when it is plain without a tag (or tagged `!`), and
*quoted-implicit* when it is quoted without a tag.
-/

namespace Conveyor.Yaml

set_option autoImplicit false

/-- What an event is. -/
inductive EventKind where
  | streamStart
  | streamEnd
  | documentStart (explicit : Bool)
  | documentEnd (explicit : Bool)
  | alias (anchor : String)
  | scalar (anchor tag : Option String) (plainImplicit quotedImplicit : Bool) (text : String)
      (style : ScalarStyle)
  | sequenceStart (anchor tag : Option String) (implicit flow : Bool)
  | sequenceEnd
  | mappingStart (anchor tag : Option String) (implicit flow : Bool)
  | mappingEnd
  deriving Inhabited, Repr

/-- An event with the marks where it starts and ends. -/
structure Event where
  kind : EventKind
  start : Mark
  stop : Mark
  deriving Inhabited

/-- The kinds of event, without their contents. -/
inductive EventClass where
  | streamStart
  | streamEnd
  | documentStart
  | documentEnd
  | alias
  | scalar
  | sequenceStart
  | sequenceEnd
  | mappingStart
  | mappingEnd
  deriving DecidableEq, Repr

def EventKind.eventClass : EventKind → EventClass
  | .streamStart => .streamStart
  | .streamEnd => .streamEnd
  | .documentStart _ => .documentStart
  | .documentEnd _ => .documentEnd
  | .alias _ => .alias
  | .scalar .. => .scalar
  | .sequenceStart .. => .sequenceStart
  | .sequenceEnd => .sequenceEnd
  | .mappingStart .. => .mappingStart
  | .mappingEnd => .mappingEnd

def EventKind.anchor? : EventKind → Option String
  | .scalar anchor .. => anchor
  | .sequenceStart anchor .. => anchor
  | .mappingStart anchor .. => anchor
  | _ => none

def Event.empty (m : Mark) : Event :=
  ⟨.scalar none none true false "" .plain, m, m⟩

end Conveyor.Yaml

import Conveyor.Yaml.Token

/-!
# YAML nodes and implicit tags

## YAML nodes

A document is a graph of nodes: scalars, sequences and mappings, each with its
resolved tag and the mark where it starts. The nodes live in an array and a
collection names its items by their index there, so that an alias is simply the
index of the node its anchor marked; a node may then be reached more than once,
and even from inside itself.
-/

namespace Conveyor.Yaml

set_option autoImplicit false

/-- What a node holds: text, items, or pairs of a key and a value. -/
inductive NodeBody where
  | scalar (text : String) (style : ScalarStyle)
  | sequence (items : List Nat)
  | mapping (pairs : List (Nat × Nat))
  deriving Inhabited, Repr

/-- A node: its tag, what it holds, and where it starts. -/
structure Node where
  tag : String
  body : NodeBody
  start : Mark
  deriving Inhabited

def Node.kindName (n : Node) : String :=
  match n.body with
  | .scalar .. => "scalar"
  | .sequence _ => "sequence"
  | .mapping _ => "mapping"

/-- The nodes of a document and the index of its root. -/
structure Graph where
  nodes : Array Node
  root : Nat
  deriving Inhabited

def Graph.node (g : Graph) (id : Nat) : Node :=
  g.nodes.getD id default

def yamlTag (name : String) : String :=
  "tag:yaml.org,2002:" ++ name

end Conveyor.Yaml

/-!
## Resolving the tags of plain scalars

A plain scalar without a tag gets the first of these tags whose pattern it
matches whole (a final line feed may be left over), and `str` otherwise:

* `bool`: `yes`, `no`, `true`, `false`, `on`, `off`, each in lower case, with a
  capital, or in capitals;
* `float`: digits, a point and digits, with an exponent only when signed
  (`1.5e+3`); or a point first (`.5`); or base 60 (`1:30.5`); or `.inf` with an
  optional sign; or `.nan`; underscores may stand among the digits;
* `int`: `0b` binary, octal after a `0`, decimal without a leading zero, `0x`
  hexadecimal, or base 60 (`1:30`), with an optional sign and underscores;
* `merge`: `<<`; `null`: `~`, `null`, `Null`, `NULL` or nothing;
* `timestamp`: a date `2001-12-14`, or a date with a time, optional fraction and
  zone; `value`: `=`.

So `1e5` and `08` are text. Sequences and mappings get `seq` and `map`.

Patterns are matched by listing every way a prefix can be consumed, which is
plenty for scalars of configuration files.
-/

namespace Conveyor.Yaml

set_option autoImplicit false

abbrev Pattern := List Char → List (List Char)

namespace Pattern

def one (p : Char → Bool) : Pattern
  | c :: rest => if p c then [rest] else []
  | [] => []

def lit (s : String) : Pattern := fun cs =>
  let want := s.toList
  if cs.take want.length == want then [cs.drop want.length] else []

def seq : List Pattern → Pattern
  | [] => fun cs => [cs]
  | p :: ps => fun cs => (p cs).flatMap (seq ps)

def alt (ps : List Pattern) : Pattern := fun cs =>
  ps.flatMap fun p => p cs

def opt (p : Pattern) : Pattern := fun cs =>
  cs :: p cs

def upTo (p : Pattern) : Nat → Pattern
  | 0 => fun cs => [cs]
  | n + 1 => fun cs => cs :: ((p cs).filter (·.length < cs.length)).flatMap (upTo p n)

def many (p : Pattern) : Pattern := fun cs =>
  upTo p cs.length cs

def many1 (p : Pattern) : Pattern :=
  seq [p, many p]

def matchesAll (p : Pattern) (s : String) : Bool :=
  let cs := s.toList
  (p cs).any List.isEmpty || (cs.getLast? == some '\n' && (p cs.dropLast).any List.isEmpty)

def digit : Pattern := one Char.isDigit

def digitOrUnderscore : Pattern := one fun c => c.isDigit || c == '_'

def nonZero : Pattern := one fun c => '1' ≤ c && c ≤ '9'

def sign : Pattern := opt (one fun c => c == '-' || c == '+')

def exponent : Pattern :=
  seq [one (fun c => c == 'e' || c == 'E'), one (fun c => c == '-' || c == '+'), many1 digit]

def sixtieth : Pattern :=
  seq [lit ":", opt (one fun c => '0' ≤ c && c ≤ '5'), digit]

def blank : Pattern := one fun c => c == ' ' || c == '\t'

end Pattern

open Pattern

def isWord (words : List String) (s : String) : Bool :=
  words.contains s

def isBoolText (s : String) : Bool :=
  isWord ["yes", "Yes", "YES", "no", "No", "NO", "true", "True", "TRUE", "false", "False",
    "FALSE", "on", "On", "ON", "off", "Off", "OFF"] s ||
  isWord ["yes\n", "Yes\n", "YES\n", "no\n", "No\n", "NO\n", "true\n", "True\n", "TRUE\n",
    "false\n", "False\n", "FALSE\n", "on\n", "On\n", "ON\n", "off\n", "Off\n", "OFF\n"] s

def floatPattern : Pattern :=
  alt [
    seq [sign, digit, many digitOrUnderscore, lit ".", many digitOrUnderscore, opt exponent],
    seq [lit ".", digit, many digitOrUnderscore, opt exponent],
    seq [sign, digit, many digitOrUnderscore, many1 sixtieth, lit ".", many digitOrUnderscore],
    seq [sign, lit ".", alt [lit "inf", lit "Inf", lit "INF"]],
    seq [lit ".", alt [lit "nan", lit "NaN", lit "NAN"]]]

def intPattern : Pattern :=
  alt [
    seq [sign, lit "0b", many1 (one fun c => c == '0' || c == '1' || c == '_')],
    seq [sign, lit "0", many1 (one fun c => ('0' ≤ c && c ≤ '7') || c == '_')],
    seq [sign, alt [lit "0", seq [nonZero, many digitOrUnderscore]]],
    seq [sign, lit "0x", many1 (one fun c => isHexDigit c || c == '_')],
    seq [sign, nonZero, many digitOrUnderscore, many1 sixtieth]]

def timestampPattern : Pattern :=
  alt [
    seq [digit, digit, digit, digit, lit "-", digit, digit, lit "-", digit, digit],
    seq [digit, digit, digit, digit, lit "-", digit, opt digit, lit "-", digit, opt digit,
      alt [one (fun c => c == 'T' || c == 't'), many1 blank],
      digit, opt digit, lit ":", digit, digit, lit ":", digit, digit,
      opt (seq [lit ".", many digit]),
      opt (seq [many blank, alt [lit "Z",
        seq [one (fun c => c == '-' || c == '+'), digit, opt digit, opt (seq [lit ":", digit, digit])]]])]]

/-- A tag a plain scalar may resolve to: the characters its text may start with (an
empty text only where `empty` says so) and the test of its pattern. -/
structure ImplicitTag where
  tag : String
  firsts : List Char
  empty : Bool := false
  test : String → Bool

def implicitTags : List ImplicitTag :=
  [{ tag := yamlTag "bool", firsts := "yYnNtTfFoO".toList, test := isBoolText },
   { tag := yamlTag "float", firsts := "-+0123456789.".toList, test := matchesAll floatPattern },
   { tag := yamlTag "int", firsts := "-+0123456789".toList, test := matchesAll intPattern },
   { tag := yamlTag "merge", firsts := ['<'], test := fun s => s == "<<" || s == "<<\n" },
   { tag := yamlTag "null", firsts := ['~', 'n', 'N'], empty := true,
     test := isWord ["~", "null", "Null", "NULL", "", "~\n", "null\n", "Null\n", "NULL\n"] },
   { tag := yamlTag "timestamp", firsts := "0123456789".toList, test := matchesAll timestampPattern },
   { tag := yamlTag "value", firsts := ['='], test := fun s => s == "=" || s == "=\n" }]

def ImplicitTag.triedFor (r : ImplicitTag) (text : String) : Bool :=
  match text.toList with
  | [] => r.empty
  | c :: _ => r.firsts.contains c

def resolveScalar (text : String) (plainImplicit : Bool) : String :=
  if plainImplicit then
    ((implicitTags.find? fun r => r.triedFor text && r.test text).map (·.tag)).getD (yamlTag "str")
  else yamlTag "str"

example : resolveScalar "1_000" true = yamlTag "int" := by decide
example : resolveScalar "1e5" true = yamlTag "str" := by decide

end Conveyor.Yaml

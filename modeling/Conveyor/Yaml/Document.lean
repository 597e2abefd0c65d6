import Conveyor.Yaml.Graph
import Conveyor.Yaml.Timestamp
import Conveyor.Text.Encoding
import Conveyor.Text.Digits
import Conveyor.Text.Case
import Conveyor.Decimal.Binary
import Conveyor.Value.Convert

/-!
# The value of a document

Each node becomes a value by its tag: `null`, `bool`, `int`, `float`, `str`,
`binary` and `timestamp` read a scalar's text (a mapping with a `=` key stands
for that key's value); `seq` makes a sequence, `map` a mapping, `set` the keys of
a mapping, and `omap` and `pairs` the pairs of a sequence of one-pair mappings, as tuples.
Any other tag is refused.

Collections are checked level by level: a collection's items are looked at only
after every collection met before it, so of two faults the one nearer the root,
or earlier at the same depth, is reported. Before its pairs are read, a mapping
takes in the mappings under its `<<` keys (a mapping, or a sequence of them, the
last one first), ahead of its own pairs, and a `=` key becomes text. A key must be
a scalar value. A later key equal to an earlier one (`Value.sameKey`: as numbers,
`1`, `1.0` and `true` are equal) replaces its value in place.

Values are trees, so a collection that holds itself cannot become one.
-/

namespace Conveyor.Yaml

set_option autoImplicit false

open Conveyor.Decimal

/-- What a node's tag makes of it. -/
inductive Kind where
  | null
  | bool
  | int
  | float
  | binary
  | timestamp
  | str
  | seq
  | map
  | set
  | omap
  | pairs
  | unknown
  deriving DecidableEq, Repr

def Kind.ofTag (tag : String) : Kind :=
  let named : List (String × Kind) :=
    [("null", .null), ("bool", .bool), ("int", .int), ("float", .float), ("binary", .binary),
      ("timestamp", .timestamp), ("omap", .omap), ("pairs", .pairs), ("set", .set),
      ("str", .str), ("seq", .seq), ("map", .map)]
  ((named.find? fun entry => yamlTag entry.1 == tag).map (·.2)).getD .unknown

def Kind.isCollection : Kind → Bool
  | .seq | .map | .set | .omap | .pairs => true
  | _ => false

def problemAt (problem : String) (m : Mark) : LoadError :=
  .marked none none problem (some m)

def conversionFault (kind : FaultKind) (message : String) : LoadError :=
  .conversion ⟨kind, message⟩

def Graph.scalarText (g : Graph) : Nat → Nat → Except LoadError String
  | 0, id => throw (problemAt "expected a scalar node, but found mapping" (g.node id).start)
  | fuel + 1, id =>
    let n := g.node id
    match n.body with
    | .scalar text _ => pure text
    | .mapping pairs =>
      match pairs.find? fun p => (g.node p.1).tag == yamlTag "value" with
      | some (_, v) => g.scalarText fuel v
      | none => throw (problemAt "expected a scalar node, but found mapping" n.start)
    | .sequence _ => throw (problemAt "expected a scalar node, but found sequence" n.start)

def boolOf (text : String) : Except LoadError Bool :=
  let word := Text.lower text
  match word with
  | "yes" | "true" | "on" => pure true
  | "no" | "false" | "off" => pure false
  | _ => throw (conversionFault .keyError (Text.quote word))

def invalidInt (base : Nat) (cs : List Char) : LoadError :=
  conversionFault .valueError ("invalid literal for int() with base " ++ toString base ++ ": " ++
    String.ofList ((Text.quote (String.ofList cs)).toList.take 200))

def wholeIn (base : Nat) (cs : List Char) : Except LoadError Int :=
  if base == 10 then
    match Text.readWholeText (String.ofList cs) with
    | .value n => pure n
    | .tooManyDigits count => throw (conversionFault .valueError (Text.tooManyDigitsMessage count))
    | .invalid => throw (invalidInt base cs)
  else
    match Text.readIntIn? base (String.ofList cs) with
    | some n => pure n
    | none => throw (invalidInt base cs)

def emptyTextFault : LoadError :=
  conversionFault .indexError "string index out of range"

def splitAt (sep : Char) (cs : List Char) : List (List Char) :=
  (String.ofList cs).splitOn (String.ofList [sep]) |>.map String.toList

def intOf (text : String) : Except LoadError Int := do
  let cs := text.toList.filter (· != '_')
  if cs.isEmpty then throw emptyTextFault
  let (sign, cs) : Int × List Char := match cs with
    | '-' :: rest => (-1, rest)
    | '+' :: rest => (1, rest)
    | cs => (1, cs)
  match cs with
  | ['0'] => pure 0
  | '0' :: 'b' :: rest => (sign * ·) <$> wholeIn 2 rest
  | '0' :: 'x' :: rest => (sign * ·) <$> wholeIn 16 rest
  | '0' :: _ => (sign * ·) <$> wholeIn 8 cs
  | [] => throw emptyTextFault
  | _ =>
    if cs.contains ':' then
      let places ← (splitAt ':' cs).mapM (wholeIn 10)
      pure (sign * places.foldl (fun acc d => acc * 60 + d) 0)
    else (sign * ·) <$> wholeIn 10 cs

def floatText (cs : List Char) : Except LoadError Float :=
  match readFloat? (String.ofList cs) with
  | some x => pure x
  | none => throw (conversionFault .valueError
      ("could not convert string to float: " ++ Text.quote (String.ofList cs)))

def sixtiethsSum : List Float → Nat → Float → Except LoadError Float
  | [], _, acc => pure acc
  | d :: rest, power, acc =>
    match ofInt? power with
    | some p => sixtiethsSum rest (power * 60) (acc + d * p)
    | none => throw (conversionFault .overflow "int too large to convert to float")

def floatOf (text : String) : Except LoadError Float := do
  let cs := (Text.lower (String.ofList (text.toList.filter (· != '_')))).toList
  if cs.isEmpty then throw emptyTextFault
  let (negative, cs) := match cs with
    | '-' :: rest => (true, rest)
    | '+' :: rest => (false, rest)
    | cs => (false, cs)
  let signed := fun (x : Float) => if negative then -x else x
  if cs == ".inf".toList then pure (signed infinity)
  else if cs == ".nan".toList then pure notANumber
  else if cs.contains ':' then
    let places ← (splitAt ':' cs).mapM floatText
    signed <$> sixtiethsSum places.reverse 1 0.0
  else signed <$> floatText cs

def binaryOf (text : String) (start : Mark) : Except LoadError (List UInt8) := do
  if let some why := Text.asciiProblem? text then
    throw (problemAt ("failed to convert base64 data into ascii: " ++ why) start)
  match Text.base64Bytes text.toList with
  | .ok data => pure data
  | .error why => throw (problemAt ("failed to decode base64 data: " ++ why) start)

def timestampOf (text : String) : Except LoadError Value :=
  match TimestampText.read? text with
  | none => throw (conversionFault .attributeError "'NoneType' object has no attribute 'groupdict'")
  | some t => t.value.mapError LoadError.conversion

def Graph.scalarValue (g : Graph) (kind : Kind) (id : Nat) : Except LoadError Value := do
  let text ← g.scalarText (g.nodes.size + 1) id
  match kind with
  | .null => pure .null
  | .bool => Value.bool <$> boolOf text
  | .int => Value.int <$> intOf text
  | .float => Value.float <$> floatOf text
  | .binary => Value.bytes <$> binaryOf text (g.node id).start
  | .timestamp =>
    match (g.node id).body with
    | .scalar .. => timestampOf text
    | _ => throw (conversionFault .typeError "expected string or bytes-like object, got 'list'")
  | _ => pure (.str text)

/-- The state of checking a graph: the graph as merging leaves it, the nodes met, and
the collections whose items wait, in the order they were met. -/
structure Checking where
  graph : Graph
  met : Array Bool
  waiting : List Nat

abbrev Check := StateT Checking (Except LoadError)

namespace Check

def node (id : Nat) : Check Node := do
  return (← get).graph.node id

def change (id : Nat) (f : Node → Node) : Check Unit :=
  modify fun s => { s with graph := { s.graph with nodes := s.graph.nodes.modify id f } }

def pairsOf (id : Nat) : Check (List (Nat × Nat)) := do
  match (← node id).body with
  | .mapping pairs => pure pairs
  | _ => pure []

/-- Meets a node: a scalar is read at once, a collection waits for its turn, and a
node met before is not looked at again. -/
def meet (id : Nat) : Check Unit := do
  let s ← get
  if s.met.getD id false then return
  set { s with met := s.met.setIfInBounds id true }
  let n := s.graph.node id
  let kind := Kind.ofTag n.tag
  if kind.isCollection then modify fun s => { s with waiting := s.waiting ++ [id] }
  else if kind == .unknown then
    throw (problemAt ("could not determine a constructor for the tag " ++ Text.quote n.tag) n.start)
  else
    match s.graph.scalarValue kind id with
    | .ok _ => pure ()
    | .error e => throw e

def mergeProblem {α : Type} (owner : Node) (problem : String) (place : Mark) : Check α :=
  throw (.marked (some "while constructing a mapping") (some owner.start) problem (some place))

mutual

/-- Takes the mappings under the `<<` keys of a mapping into it, ahead of its own pairs,
and turns its `=` keys into text. -/
def merge : Nat → Nat → Check Unit
  | 0, _ => pure ()
  | fuel + 1, id => do
    let steps := (← pairsOf id).length + (← get).graph.nodes.size + 1
    let taken ← mergeFrom fuel id 0 [] steps
    if !taken.isEmpty then
      let own ← pairsOf id
      change id fun n => { n with body := .mapping (taken ++ own) }

def mergeFrom : Nat → Nat → Nat → List (Nat × Nat) → Nat → Check (List (Nat × Nat))
  | 0, _, _, taken, _ => pure taken
  | _, _, _, taken, 0 => pure taken
  | fuel + 1, id, index, taken, steps + 1 => do
    let pairs ← pairsOf id
    match pairs[index]? with
    | none => pure taken
    | some (k, v) =>
      let key ← node k
      if key.tag == yamlTag "merge" then
        change id fun n => { n with body := .mapping (pairs.eraseIdx index) }
        let value ← node v
        let owner ← node id
        match value.body with
        | .mapping _ =>
          merge fuel v
          let brought ← pairsOf v
          mergeFrom fuel id index (taken ++ brought) steps
        | .sequence subs =>
          let brought ← mergeEach fuel owner subs []
          mergeFrom fuel id index (taken ++ brought.reverse.flatten) steps
        | .scalar .. =>
          mergeProblem owner
            ("expected a mapping or list of mappings for merging, but found " ++ value.kindName) value.start
      else
        if key.tag == yamlTag "value" then change k fun n => { n with tag := yamlTag "str" }
        mergeFrom fuel id (index + 1) taken steps

def mergeEach : Nat → Node → List Nat → List (List (Nat × Nat)) → Check (List (List (Nat × Nat)))
  | 0, _, _, acc => pure acc.reverse
  | _, _, [], acc => pure acc.reverse
  | fuel + 1, owner, sub :: rest, acc => do
    let n ← node sub
    match n.body with
    | .mapping _ =>
      merge fuel sub
      let pairs ← pairsOf sub
      mergeEach fuel owner rest (pairs :: acc)
    | _ => mergeProblem owner ("expected a mapping for merging, but found " ++ n.kindName) n.start

end

def meetPairList (what : String) (owner : Node) (items : List Nat) : Check Unit :=
  items.forM fun sub => do
    let n ← node sub
    match n.body with
    | .mapping [(k, v)] =>
      meet k
      meet v
    | .mapping pairs =>
      throw (.marked (some what) (some owner.start)
        ("expected a single mapping item, but found " ++ toString pairs.length ++ " items") (some n.start))
    | _ =>
      throw (.marked (some what) (some owner.start)
        ("expected a mapping of length 1, but found " ++ n.kindName) (some n.start))

def visit (id : Nat) : Check Unit := do
  let n ← node id
  match Kind.ofTag n.tag with
  | .seq =>
    match n.body with
    | .sequence items => items.forM meet
    | _ => throw (problemAt ("expected a sequence node, but found " ++ n.kindName) n.start)
  | .map | .set =>
    if let .mapping _ := n.body then merge ((← get).graph.nodes.size + 2) id
    let n ← node id
    match n.body with
    | .mapping pairs =>
      pairs.forM fun (k, v) => do
        meet k
        let key ← node k
        if (Kind.ofTag key.tag).isCollection then
          throw (.marked (some "while constructing a mapping") (some n.start) "found unhashable key"
            (some key.start))
        meet v
    | _ => throw (problemAt ("expected a mapping node, but found " ++ n.kindName) n.start)
  | .omap => visitPairs "while constructing an ordered map" n
  | .pairs => visitPairs "while constructing pairs" n
  | _ => pure ()
where
  visitPairs (what : String) (n : Node) : Check Unit :=
    match n.body with
    | .sequence items => meetPairList what n items
    | _ => throw (.marked (some what) (some n.start) ("expected a sequence, but found " ++ n.kindName)
        (some n.start))

def drain : Nat → Check Unit
  | 0 => pure ()
  | fuel + 1 => do
    match (← get).waiting with
    | [] => pure ()
    | id :: rest =>
      modify fun s => { s with waiting := rest }
      visit id
      drain fuel

end Check

/-- Checks that every node of a document makes a value, level by level from the root;
gives the graph with its merges done. -/
def Graph.check (g : Graph) : Except LoadError Graph := do
  let start : Checking := { graph := g, met := Array.replicate g.nodes.size false, waiting := [] }
  let work : Check Unit := do
    Check.meet g.root
    Check.drain (g.nodes.size + 1)
  let (_, done) ← work.run start
  pure done.graph

def circularFault : LoadError :=
  conversionFault .recursionError "maximum recursion depth exceeded"

def cycleTurns : Nat := 3

def setNodeKey (pairs : List (Nat × Value × Value)) (id : Nat) (k v : Value) :
    List (Nat × Value × Value) :=
  let hit := fun (p : Nat × Value × Value) => p.1 == id || Value.sameKey p.2.1 k
  if pairs.any hit then pairs.map fun p => if hit p then (p.1, p.2.1, v) else p
  else pairs ++ [(id, k, v)]

/-- The value of a node of a checked graph; `building` lists the collections being
built, and one met there `cycleTurns` times already is left as a cycle. -/
def Graph.valueAt (g : Graph) : Nat → List Nat → Nat → Except LoadError Value
  | 0, _, _ => throw circularFault
  | fuel + 1, building, id => do
    let n := g.node id
    let kind := Kind.ofTag n.tag
    if !kind.isCollection then return ← g.scalarValue kind id
    if building.count id ≥ cycleTurns then
      return .cycle (kind matches .map)
    let building := id :: building
    match kind, n.body with
    | .seq, .sequence items => Value.list <$> items.mapM (g.valueAt fuel building)
    | .map, .mapping pairs =>
      let built ← pairs.mapM fun (k, v) => do
        pure (k, ← g.valueAt fuel building k, ← g.valueAt fuel building v)
      let entries := built.foldl (fun acc (p : Nat × Value × Value) => setNodeKey acc p.1 p.2.1 p.2.2) []
      pure (Value.ofEntries (entries.map (·.2)))
    | .set, .mapping pairs =>
      let keys ← pairs.mapM fun (k, _) => do pure (k, ← g.valueAt fuel building k)
      let entries := keys.foldl (fun acc (p : Nat × Value) => setNodeKey acc p.1 p.2 .null) []
      pure (.set (entries.map (·.2.1)))
    | _, .sequence items =>
      Value.list <$> items.mapM fun sub => do
        match (g.node sub).body with
        | .mapping [(k, v)] => pure (.tuple [← g.valueAt fuel building k, ← g.valueAt fuel building v])
        | _ => pure .null
    | _, _ => pure .null

/-- What the root of a document makes: nothing, a mapping, or something else. -/
inductive RootKind where
  | nothing
  | mapping
  | other

def Graph.rootKind (g : Graph) : RootKind :=
  match Kind.ofTag (g.node g.root).tag with
  | .null => .nothing
  | .map => .mapping
  | _ => .other

def Graph.value (g : Graph) : Except LoadError Value :=
  g.valueAt (cycleTurns * g.nodes.size + 1) [] g.root

/-- Reads the only document of a text into a checked graph, or `none` when the text holds
no document. A character the text may not hold is refused before anything else when it
is among the first chunk, and otherwise once reading reaches it. -/
def readDocument (text : String) : Except LoadError (Option Graph) := do
  if let some (position, code) := firstRefused text then
    if position < firstChunk then throw (.character code position)
  match ← Graph.ofText? text with
  | none => pure none
  | some g => some <$> g.check

end Conveyor.Yaml

import Conveyor.Yaml.Event.Machine
import Conveyor.Yaml.Implicit

/-!
# Building the node graph of a document

Events become nodes. A scalar's tag, when it has none or only `!`, is resolved
from its text; a collection without a tag is a `seq` or a `map`. A node with an
anchor is remembered under it as soon as the node starts, before its items, so
that an alias inside a collection may name the collection itself; an alias to a
name not remembered, or a second anchor of one name in a document, is refused.

A text holds at most one document here: a second one is refused with the first
document's root as the context.
-/

namespace Conveyor.Yaml

set_option autoImplicit false

/-- The state of building a graph: the machine, the nodes made so far and the anchors of
the current document. -/
structure Builder where
  machine : Machine
  nodes : Array Node := #[]
  anchors : List (String × Nat) := []
  deriving Inhabited

abbrev Build := StateT Builder (Except LoadError)

namespace Build

def advance {α : Type} (m : Advance α) : Build α := do
  let c ← get
  match m.run c.machine with
  | .ok (a, machine) =>
    set { c with machine }
    pure a
  | .error e => throw e

def peekEvent : Build Event := do
  match ← advance Advance.peekEvent with
  | some e => pure e
  | none => pure ⟨.streamEnd, {}, {}⟩

def takeEvent : Build Event := do
  match ← advance Advance.takeEvent with
  | some e => pure e
  | none => pure ⟨.streamEnd, {}, {}⟩

def checkEvent (classes : List EventClass) : Build Bool :=
  advance (Advance.checkEvent classes)

def addNode (anchor : Option String) (n : Node) : Build Nat := do
  let c ← get
  let id := c.nodes.size
  let anchors := match anchor with
    | some a => (a, id) :: c.anchors
    | none => c.anchors
  set { c with nodes := c.nodes.push n, anchors }
  return id

def setBody (id : Nat) (body : NodeBody) : Build Unit :=
  modify fun c => { c with nodes := c.nodes.modify id fun n => { n with body } }

def checkAnchor (anchor : Option String) (place : Mark) : Build Unit := do
  let some a := anchor | pure ()
  let c ← get
  match c.anchors.lookup a with
  | some first =>
    let firstMark := (c.nodes.getD first default).start
    throw (.marked (some ("found duplicate anchor " ++ Text.quote a ++ "; first occurrence"))
      (some firstMark) "second occurrence" (some place))
  | none => pure ()

def collectionTag (tag : Option String) (default : String) : String :=
  match tag with
  | none | some "!" => default
  | some t => t

mutual

def node : Nat → Build Nat
  | 0 => throw (.marked none none "the document nests too deeply" none)
  | fuel + 1 => do
    let e ← peekEvent
    match e.kind with
    | .alias name =>
      let _ ← takeEvent
      match (← get).anchors.lookup name with
      | some id => pure id
      | none => throw (.marked none none ("found undefined alias " ++ Text.quote name) (some e.start))
    | .scalar anchor tag plainImplicit _ text style =>
      checkAnchor anchor e.start
      let _ ← takeEvent
      let tag := match tag with
        | none | some "!" => resolveScalar text plainImplicit
        | some t => t
      addNode anchor ⟨tag, .scalar text style, e.start⟩
    | .sequenceStart anchor tag _ _ =>
      checkAnchor anchor e.start
      let _ ← takeEvent
      let id ← addNode anchor ⟨collectionTag tag (yamlTag "seq"), .sequence [], e.start⟩
      let items ← sequenceItems [] fuel
      setBody id (.sequence items)
      pure id
    | .mappingStart anchor tag _ _ =>
      checkAnchor anchor e.start
      let _ ← takeEvent
      let id ← addNode anchor ⟨collectionTag tag (yamlTag "map"), .mapping [], e.start⟩
      let pairs ← mappingPairs [] fuel
      setBody id (.mapping pairs)
      pure id
    | _ => addNode none ⟨yamlTag "null", .scalar "" .plain, e.start⟩

def sequenceItems (acc : List Nat) : Nat → Build (List Nat)
  | 0 => throw (.marked none none "the document nests too deeply" none)
  | fuel + 1 => do
    if (← checkEvent [.sequenceEnd]) then
      let _ ← takeEvent
      pure acc.reverse
    else
      let item ← node fuel
      sequenceItems (item :: acc) fuel

def mappingPairs (acc : List (Nat × Nat)) : Nat → Build (List (Nat × Nat))
  | 0 => throw (.marked none none "the document nests too deeply" none)
  | fuel + 1 => do
    if (← checkEvent [.mappingEnd]) then
      let _ ← takeEvent
      pure acc.reverse
    else
      let key ← node fuel
      let value ← node fuel
      mappingPairs ((key, value) :: acc) fuel

end

/-- Builds the graph of one document, from its start to its end; its anchors are then
forgotten. -/
def document (fuel : Nat) : Build Graph := do
  let _ ← takeEvent
  let root ← node fuel
  let _ ← takeEvent
  modify fun c => { c with anchors := [] }
  return ⟨(← get).nodes, root⟩

def single (fuel : Nat) : Build (Option Graph) := do
  let _ ← takeEvent
  let graph ← if (← checkEvent [.streamEnd]) then pure none else some <$> document fuel
  if !(← checkEvent [.streamEnd]) then
    let e ← takeEvent
    let context := graph.map fun g => (g.node g.root).start
    throw (.marked (some "expected a single document in the stream") context
      "but found another document" (some e.start))
  let _ ← takeEvent
  return graph

end Build

def Graph.ofText? (text : String) : Except LoadError (Option Graph) :=
  let fuel := 16 * (text.length + 16)
  (Build.single fuel).run' { machine := Machine.ofText text }

end Conveyor.Yaml

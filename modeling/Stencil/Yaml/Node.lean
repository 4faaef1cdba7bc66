import Stencil.Yaml.Event
import Stencil.Yaml.Resolve
/-!
# YAML nodes

The composer builds the node tree of the single document of a stream from its events. Every
node gets its tag here: an explicit tag, or one resolved from a plain scalar's text
(`resolveScalar`, by the version the document declares, else the one in force), or the standard
sequence and mapping tags. An anchor names the node it is
on; an alias stands for the last node with its name (an unknown name is an error). A stream
with a second document is an error at that document's start. Composing calls itself for each
level of nesting, so a node enclosed by more collections than the call stack has room for is a
recursion error.

* `Node` : scalars, sequences and mappings with their tags and start places.
* `composeSingle` : the node of the one document of a stream, if there is one.
-/

namespace Stencil.Yaml

open Stencil.Text

/-- A node of a document: a scalar with its text and style, a sequence of nodes, or a mapping
of key nodes to value nodes, each with its tag and the place where it starts. -/
inductive Node where
  | scalar (tag : String) (value : String) (style : ScalarStyle) (start : Mark)
  | sequence (tag : String) (items : List Node) (start : Mark)
  | mapping (tag : String) (pairs : List (Node × Node)) (start : Mark)
deriving Inhabited, Repr

namespace Node

def tag : Node → String
  | .scalar t .. | .sequence t .. | .mapping t .. => t

def start : Node → Mark
  | .scalar _ _ _ m | .sequence _ _ m | .mapping _ _ m => m

def id : Node → String
  | .scalar .. => "scalar"
  | .sequence .. => "sequence"
  | .mapping .. => "mapping"

end Node

/-- The composer's state: the events left, the error that stopped the events (if one did), the
anchored nodes, the latest first, and the version that scalars are resolved by. -/
structure Composer where
  events : List Event
  failure : Option YamlError
  anchors : List (String × Node)
  version : Version

abbrev ComposeM := StateT Composer (Except YamlError)

namespace Composer

def peek : ComposeM Event := do
  match (← get).events with
  | e :: _ => return e
  | [] =>
    match (← get).failure with
    | some err => throw err
    | none => return ⟨.streamEnd, default, default⟩

def next : ComposeM Event := do
  let e ← peek
  modify fun c => { c with events := c.events.drop 1 }
  return e

def remember (anchor : Option String) (n : Node) : ComposeM Unit :=
  match anchor with
  | some a => modify fun c => { c with anchors := (a, n) :: c.anchors }
  | none => pure ()

def atCollectionEnd : ComposeM Bool := do
  match (← peek).kind with
  | .sequenceEnd | .mappingEnd => return true
  | _ => return false

def tooDeep : YamlError := .unexpected "RecursionError" "maximum recursion depth exceeded"

/-- The node whose events come next, inside which at most `room` collections may enclose a
node; `fuel` bounds the nesting. -/
def node : Nat → Nat → ComposeM Node
  | 0, _ => throw tooDeep
  | fuel + 1, room => do
    let e ← next
    match e.kind with
    | .alias name =>
      match (← get).anchors.lookup name with
      | some n => return n
      | none => throw (.marked none none ("found undefined alias " ++ quoteText name) e.start none)
    | .scalar anchor tag plainImplicit _ value style =>
      let version := (← get).version
      let tag := match tag with
        | some t => if t == "!" then resolveScalar version value plainImplicit else t
        | none => resolveScalar version value plainImplicit
      let n := Node.scalar tag value style e.start
      remember anchor n
      return n
    | .sequenceStart anchor tag _ _ =>
      let mut items : Array Node := #[]
      for _ in [0:(← get).events.length + 1] do
        if ← atCollectionEnd then break
        if room = 0 then throw tooDeep
        items := items.push (← node fuel (room - 1))
      let _ ← next
      let tag := match tag with
        | some t => if t == "!" then yamlTag "seq" else t
        | none => yamlTag "seq"
      let n := Node.sequence tag items.toList e.start
      remember anchor n
      return n
    | .mappingStart anchor tag _ _ =>
      let mut pairs : Array (Node × Node) := #[]
      for _ in [0:(← get).events.length + 1] do
        if ← atCollectionEnd then break
        if room = 0 then throw tooDeep
        let k ← node fuel (room - 1)
        let v ← node fuel (room - 1)
        pairs := pairs.push (k, v)
      let _ ← next
      let tag := match tag with
        | some t => if t == "!" then yamlTag "map" else t
        | none => yamlTag "map"
      let n := Node.mapping tag pairs.toList e.start
      remember anchor n
      return n
    | _ => throw (.unexpected "ComposerError" "unexpected event")

/-- The node of one document, its scalars resolved by the version it declares (else the one in
force); anchors do not outlive it. -/
def document (room : Nat) : ComposeM Node := do
  let e ← next
  if let .documentStart _ (some v) _ := e.kind then modify fun c => { c with version := v }
  let n ← node ((← get).events.length + 1) room
  let _ ← next
  modify fun c => { c with anchors := [] }
  return n

def single (room : Nat) : ComposeM (Option Node) := do
  let _ ← next
  let doc ← match (← peek).kind with
    | .streamEnd => pure none
    | _ => some <$> document room
  let e ← peek
  match e.kind with
  | .streamEnd => pure ()
  | _ =>
    let e ← next
    throw (.marked (some "expected a single document in the stream") (doc.map Node.start)
      "but found another document" e.start none)
  let _ ← next
  return doc

end Composer

/-- The node of the single document of a stream of events (the error that stopped the events
is raised when they are needed); `version` is the version in force when the document declares
none, and at most `room` collections may enclose a node. -/
def composeSingle (events : List Event) (failure : Option YamlError) (version : Version) (room : Nat) :
    Except YamlError (Option Node) :=
  ((Composer.single room).run ⟨events, failure, [], version⟩).map (·.1)

end Stencil.Yaml

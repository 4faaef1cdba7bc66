import Stencil.Display.Repr
/-!
# Locations

A location remembers where a value was found: its key, its place among its siblings, how deep it
lies, and the locations above it. Sequences are transparent: the items of `{"items": [a, b]}`
are found under the key `items`, at places 0 and 1, with those places as their array index.

A key is any value a mapping can be keyed by; null stands for no key, which the top has and
which a step leaves out. The path of a location is the list of steps from the top of its chain
down to it (the top itself takes no step). Two data locations with equal paths (keys compared as
keys) and the same depth are the same place; a node of markup is itself wherever it is found.

* `Place`, `Location` : a value with its key, place and depth, and the places above it.
* `Location.child` : the location of a child value.
* `Location.path` : the steps from the top.
* `Location.identity` : what makes two locations the same.
* `Location.describe` : `$.result[0].name` for data, the element path for nodes.
-/

namespace Stencil.Select

open Stencil.Markup

/-- A value with its key, its place among `siblings` values, its depth, and its place in a
flattened sequence when it came from one. -/
structure Place where
  value : Value
  key : Value
  index : Nat
  siblings : Nat
  depth : Nat
  arrayIndex : Option Nat
deriving Inhabited

/-- A place and the places above it, nearest first; `isRoot` marks the root location of a
rendering, which every other location differs from even when it holds the same place. -/
structure Location where
  place : Place
  above : List Place
  isRoot : Bool
deriving Inhabited

/-- One step of a path: a key (null for none), with a place when the value came from a
sequence. -/
structure Step where
  key : Value
  arrayIndex : Option Nat

def Step.same (a b : Step) : Bool := a.key.sameKey b.key && a.arrayIndex == b.arrayIndex

/-- What makes two locations the same: the node itself, or the path and depth of data. -/
inductive Identity where
  | node (n : NodeId)
  | data (path : List Step) (depth : Nat)

def Identity.same : Identity → Identity → Bool
  | .node a, .node b => a == b
  | .data p d, .data q e =>
    d == e && p.length == q.length && (p.zip q).all fun (a, b) => a.same b
  | _, _ => false

instance : BEq Identity := ⟨Identity.same⟩

def Place.step (p : Place) : Step := ⟨p.key, p.arrayIndex⟩

def Step.text (s : Step) : String :=
  let k := match s.key with
    | .null => ""
    | k => "." ++ k.plainText Forest.empty
  match s.arrayIndex with
  | some i => k ++ "[" ++ toString i ++ "]"
  | none => k

namespace Location

def ofValue (v : Value) : Location := ⟨⟨v, .null, 0, 1, 0, none⟩, [], false⟩

def asRoot (l : Location) : Location := { l with isRoot := true }

def withValue (l : Location) (v : Value) : Location :=
  { l with place := { l.place with value := v }, isRoot := false }

def value (l : Location) : Value := l.place.value

def key (l : Location) : Value := l.place.key

def textKey? (l : Location) : Option String := l.key.textKey?

def index (l : Location) : Nat := l.place.index

def siblings (l : Location) : Nat := l.place.siblings

def depth (l : Location) : Nat := l.place.depth

def arrayIndex (l : Location) : Option Nat := l.place.arrayIndex

/-- The location of a child value, one level deeper. -/
def child (l : Location) (v : Value) (key : Value) (index siblings : Nat)
    (arrayIndex : Option Nat) : Location :=
  ⟨⟨v, key, index, siblings, l.depth + 1, arrayIndex⟩, l.place :: l.above, false⟩

def parent? (l : Location) : Option Location :=
  match l.above with
  | [] => none
  | p :: ps => some ⟨p, ps, false⟩

def isTop (l : Location) : Bool := l.above.isEmpty

def top (l : Location) : Location :=
  match l.above.reverse with
  | [] => l
  | t :: _ => ⟨t, [], false⟩

/-- The steps from the top of the chain down to the location. -/
def path (l : Location) : List Step := ((l.place :: l.above).dropLast.map Place.step).reverse

/-- What makes the location the same as another. -/
def identity (l : Location) : Identity :=
  match l.value with
  | .node n => .node n
  | _ => .data l.path l.depth

/-- The location written for people: the element path of a node (`#document` when it has none),
or `$` followed by the steps of data. -/
def describe (f : Forest) (l : Location) : String :=
  match l.value with
  | .node n =>
    let p := f.nodePath n
    if p.isEmpty then "#document" else p
  | _ => "$" ++ String.join (l.path.map Step.text)

/-- Whether the location can be written for people: every key on its path can be written as
plain text. -/
def describable (l : Location) : Bool :=
  match l.value with
  | .node _ => true
  | _ => l.path.all (·.key.literalWritable)

end Location

example : ((Location.ofValue .null).child (.int 1) (.str "items") 1 2 (some 1)).describe Forest.empty =
    "$.items[1]" := by
  decide

end Stencil.Select

import Stencil.Markup.Node
/-!
# The forest of documents

All documents and detached nodes live in one forest, an array of nodes addressed by handles.
Edits keep parent and child links in step: a node has a parent exactly when it is among that
parent's children, once.

Walks up and down the forest are bounded by the number of nodes, which bounds the depth of any
tree in it.

* `Forest.get`, `Forest.add` : reading and adding nodes.
* `Forest.detach`, `Forest.insertChild`, `Forest.appendChild` : moving nodes.
* `Forest.setAttr`, `Forest.removeAttr` : attributes, a new one going last.
* `Forest.descendants`, `Forest.ancestors`, `Forest.top` : walks.
* `Forest.copyTree` : a detached copy of a subtree.
* `Forest.setText` : the children of a node replaced by one text.
* `Forest.unwrap` : a node replaced by its children.
-/

namespace Stencil.Markup

/-- The nodes of all documents. -/
structure Forest where
  nodes : Array Node
deriving Inhabited

namespace Forest

def empty : Forest := ⟨#[]⟩

/-- The node with a handle (an empty text for a handle the forest does not have). -/
def get (f : Forest) (n : NodeId) : Node := f.nodes[n.index]?.getD default

/-- Add a node; its handle is the next free place. -/
def add (f : Forest) (node : Node) : NodeId × Forest := (⟨f.nodes.size⟩, ⟨f.nodes.push node⟩)

def modify (f : Forest) (n : NodeId) (g : Node → Node) : Forest := ⟨f.nodes.modify n.index g⟩

def kind (f : Forest) (n : NodeId) : NodeKind := (f.get n).kind

def parent? (f : Forest) (n : NodeId) : Option NodeId := (f.get n).parent

def children (f : Forest) (n : NodeId) : List NodeId := (f.get n).children.toList

def isElement (f : Forest) (n : NodeId) : Bool :=
  match f.kind n with
  | .element .. => true
  | _ => false

def isDocument (f : Forest) (n : NodeId) : Bool :=
  match f.kind n with
  | .document => true
  | _ => false

def isText (f : Forest) (n : NodeId) : Bool :=
  match f.kind n with
  | .string k _ => k.isText
  | _ => false

def isComment (f : Forest) (n : NodeId) : Bool :=
  match f.kind n with
  | .string .comment _ => true
  | _ => false

def isString (f : Forest) (n : NodeId) : Bool :=
  match f.kind n with
  | .string .. => true
  | _ => false

def stringContent? (f : Forest) (n : NodeId) : Option String :=
  match f.kind n with
  | .string _ s => some s
  | _ => none

def name? (f : Forest) (n : NodeId) : Option String :=
  match f.kind n with
  | .element name .. => some name
  | _ => none

def tagName (f : Forest) (n : NodeId) : String := (f.name? n).getD ""

def attrs (f : Forest) (n : NodeId) : List (String × String) :=
  match f.kind n with
  | .element _ attrs _ => attrs
  | _ => []

def attr? (f : Forest) (n : NodeId) (key : String) : Option String :=
  (f.attrs n).lookup key

/-- Set an attribute of an element: an existing one keeps its place, a new one goes last. -/
def setAttr (f : Forest) (n : NodeId) (key value : String) : Forest :=
  f.modify n fun node =>
    match node.kind with
    | .element name attrs built =>
      let attrs := if attrs.any (·.1 == key) then
          attrs.map fun (k, v) => if k == key then (k, value) else (k, v)
        else attrs ++ [(key, value)]
      { node with kind := .element name attrs built }
    | _ => node

/-- Remove an attribute of an element. -/
def removeAttr (f : Forest) (n : NodeId) (key : String) : Forest :=
  f.modify n fun node =>
    match node.kind with
    | .element name attrs built => { node with kind := .element name (attrs.filter (·.1 != key)) built }
    | _ => node

def setContent (f : Forest) (n : NodeId) (s : String) : Forest :=
  f.modify n fun node =>
    match node.kind with
    | .string k _ => { node with kind := .string k s }
    | _ => node

def indexOf? (f : Forest) (p c : NodeId) : Option Nat := (f.get p).children.toList.idxOf? c

/-- Take a node out of its parent; it keeps its own subtree. -/
def detach (f : Forest) (n : NodeId) : Forest :=
  match f.parent? n with
  | none => f
  | some p =>
    let f := f.modify p fun node => { node with children := node.children.filter (· != n) }
    f.modify n fun node => { node with parent := none }

/-- Insert a node among the children of `p` at `pos` (at most the number of children), first
taking it out of its old place; a node moved further down its own parent's list lands one place
earlier, where the list closes up. -/
def insertChild (f : Forest) (p : NodeId) (pos : Nat) (c : NodeId) : Forest :=
  let pos := min pos (f.get p).children.size
  let pos :=
    if f.parent? c = some p then
      match f.indexOf? p c with
      | some i => if i < pos then pos - 1 else pos
      | none => pos
    else pos
  let f := f.detach c
  let f := f.modify p fun node =>
    { node with children := (node.children.toList.take pos ++ [c] ++ node.children.toList.drop pos).toArray }
  f.modify c fun node => { node with parent := some p }

/-- Add a node as the last child of `p`. -/
def appendChild (f : Forest) (p c : NodeId) : Forest := f.insertChild p (f.get p).children.size c

def insertBefore (f : Forest) (n c : NodeId) : Forest :=
  match f.parent? n with
  | none => f
  | some p =>
    let f := f.detach c
    f.insertChild p ((f.indexOf? p n).getD 0) c

def insertAfter (f : Forest) (n c : NodeId) : Forest :=
  match f.parent? n with
  | none => f
  | some p =>
    let f := f.detach c
    f.insertChild p ((f.indexOf? p n).getD 0 + 1) c

def clear (f : Forest) (n : NodeId) : Forest := (f.children n).foldl detach f

def newString (f : Forest) (k : StringKind) (s : String) : NodeId × Forest :=
  f.add ⟨.string k s, none, #[]⟩

/-- Replace all children of a node by one new text. -/
def setText (f : Forest) (n : NodeId) (s : String) : Forest :=
  let (t, f) := (f.clear n).newString .text s
  f.appendChild n t

def replaceWith (f : Forest) (n r : NodeId) : Forest :=
  match f.parent? n with
  | none => f
  | some p =>
    if r = n then f
    else
      let i := (f.indexOf? p n).getD 0
      let f := f.detach n
      f.insertChild p i r

/-- Put the children of `n` in its place, in order, and take `n` out; nothing changes when `n`
has no parent. -/
def unwrap (f : Forest) (n : NodeId) : Forest :=
  match f.parent? n with
  | none => f
  | some _ => ((f.children n).foldl (fun g c => g.insertBefore n c) f).detach n

def depthBound (f : Forest) : Nat := f.nodes.size + 1

def descendantsWithin (f : Forest) : Nat → NodeId → List NodeId
  | 0, _ => []
  | fuel + 1, n => (f.children n).flatMap fun c => c :: f.descendantsWithin fuel c

/-- The nodes under `n` in document order (each before its own descendants). -/
def descendants (f : Forest) (n : NodeId) : List NodeId := f.descendantsWithin f.depthBound n

def ancestorsWithin (f : Forest) : Nat → NodeId → List NodeId
  | 0, _ => []
  | fuel + 1, n =>
    match f.parent? n with
    | some p => p :: f.ancestorsWithin fuel p
    | none => []

/-- The parents of `n`, nearest first. -/
def ancestors (f : Forest) (n : NodeId) : List NodeId := f.ancestorsWithin f.depthBound n

/-- The top of the tree that holds `n` (usually its document). -/
def top (f : Forest) (n : NodeId) : NodeId := (f.ancestors n).getLast?.getD n

/-- A copy of the subtree under `n` with at most `fuel` levels, added to the forest; the copy
has no parent. -/
def copyWithin (f : Forest) : Nat → NodeId → NodeId × Forest
  | 0, n => f.add ⟨f.kind n, none, #[]⟩
  | fuel + 1, n =>
    let (c, f') := f.add ⟨f.kind n, none, #[]⟩
    (f.children n).foldl (fun (acc : NodeId × Forest) child =>
      let (cc, g) := acc.2.copyWithin fuel child
      (acc.1, g.appendChild acc.1 cc)) (c, f')

/-- A detached copy of the subtree under `n`. -/
def copyTree (f : Forest) (n : NodeId) : NodeId × Forest := f.copyWithin f.depthBound n

/-- Add a new element made by the document of `anchor`, or made on its own when `anchor` is in
no document. -/
def newElement (f : Forest) (anchor : NodeId) (name : String) (attrs : List (String × String)) :
    NodeId × Forest :=
  f.add ⟨.element name attrs (f.isDocument (f.top anchor)), none, #[]⟩

end Forest

end Stencil.Markup

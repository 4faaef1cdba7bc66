import Stencil.Select.Data
import Stencil.Select.Tree
/-!
# Evaluating selector expressions

A selector expression is evaluated from a start location. A selector list goes to the markup
engine when the start value is a node, and to the data engine otherwise. `a and b` is empty
unless both sides have matches (the right side is not evaluated when the left has none), and
then holds the matches of both; `a or b` holds the matches of both; `not a` holds the start
itself when `a` has no matches and the start value is not null or false. Every result holds
each place once.

`:root` is the root location when one is given, a location holding the root value when a value
is given, and otherwise the top of the start's chain. The start is the root itself when it is
the top of its chain and no root is given, or when it is the marked root location. The markup
engine takes the root only when it is a node.

* `RootSpec` : what was given as the root.
* `Selection` : everything an evaluation needs besides the expression.
* `Selection.evaluate` : the result of an expression.
* `selectRoom`, `stackTooDeep` : the room for a selector's nesting, and the failure past it.
* `select` : the result of a selector text.
-/

namespace Stencil.Select

open Stencil.Selector Stencil.Markup Stencil.Text

/-- What was given as the root of a selection. -/
inductive RootSpec where
  /-- nothing: the top of the start's chain -/
  | unset
  /-- the root location of a rendering -/
  | location (l : Location)
  /-- a value, found at a location of its own -/
  | value (v : Value)

/-- A selection: the forest, the start location, the root, whether the start may match itself,
and the selector text as given. -/
structure Selection where
  forest : Forest
  start : Location
  root : RootSpec
  selfMatch : Bool
  selector : String

namespace Selection

def dataRoot (s : Selection) : Location × Bool :=
  match s.root with
  | .unset => if s.start.isTop then (s.start, true) else (s.start.top, false)
  | .location l => (l, s.start.isRoot)
  | .value v => (Location.ofValue v, false)

def treeRoot (s : Selection) : Option NodeId :=
  match s.root with
  | .unset => none
  | .location l => l.value.node?
  | .value v => v.node?

def selectList (s : Selection) (cs : List Selector.Complex) : Except SelectError ResultSet := do
  let found ← match s.start.value with
    | .node n => selectTree s.forest s.treeRoot n s.selfMatch cs
    | _ =>
      let (root, startIsRoot) := s.dataRoot
      selectData s.forest root s.start startIsRoot s.selfMatch cs
  return ResultSet.ofMatches s.selector found

/-- The result of an expression. -/
def evaluate (s : Selection) : Expr → Except SelectError ResultSet
  | .selectors cs => s.selectList cs
  | .group e => s.evaluate e
  | .not e => do
    let r ← s.evaluate e
    if r.size > 0 || s.start.value.neverMatches then return ResultSet.empty s.selector
    return ResultSet.ofMatches s.selector [s.start]
  | .and l r => do
    let a ← s.evaluate l
    if a.size = 0 then return ResultSet.empty s.selector
    let b ← s.evaluate r
    if b.size = 0 then return ResultSet.empty s.selector
    return a.union b
  | .or l r => do
    let a ← s.evaluate l
    let b ← s.evaluate r
    return a.union b

end Selection

/-- The room the stack has for a selector's nesting when a selection parses it. -/
def selectRoom : Nat := 981

/-- The failure of a selector that nests deeper than the stack has room for. -/
def stackTooDeep : SelectError := .engine "RecursionError" "maximum recursion depth exceeded"

/-- The result of a selector text from a start location: the text is read without its white
space around, and evaluated. -/
def select (f : Forest) (start : Location) (text : String) (root : RootSpec) (selfMatch : Bool) :
    Except SelectError ResultSet :=
  match parse selectRoom (trimBlank text) with
  | .error (.invalid e) => throw (.malformed e)
  | .error .tooDeep => throw stackTooDeep
  | .ok ast => (Selection.mk f start root selfMatch text).evaluate ast

end Stencil.Select

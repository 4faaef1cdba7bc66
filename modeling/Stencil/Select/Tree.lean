import Stencil.Css.Match
import Stencil.Select.Result
/-!
# Selecting in markup

Complex selectors are handed to the CSS engine as text. From a node, the elements under it are
selected, a selector starting with `>` standing for `:scope > …`. When the node may match
itself, an element that matches any of the selectors is taken first, and then the elements
under it matching the selectors not starting with `>`. Selectors anchored at `:root` are
selected from the root node, or from the top of the node's tree when there is none. Strings
have nothing under them; a selector list the CSS engine cannot read fails the selection, and
so does a failure of the engine while matching.

* `cssSelect`, `cssMatches` : the CSS engine on a selector list text.
* `selectTree` : the matches of a selector list from a node.
-/

namespace Stencil.Select

open Stencil.Selector Stencil.Markup

def readFailure : Css.ReadError → SelectError
  | .malformed => .markupSyntax
  | .beyondUnicode => .engine "ValueError" "chr() arg not in range(0x110000)"
  | .hexWithComment d => .engine "ValueError" ("invalid literal for int() with base 16: " ++ Text.quoteText d)

def matchFailure : Css.MatchFailure → SelectError
  | .missingParent => .engine "AttributeError" "'NoneType' object has no attribute 'name'"
  | .uncheckableWeek m => .engine "ValueError" m

/-- The elements under `start` that match a selector list text, in document order. -/
def cssSelect (f : Forest) (start : NodeId) (text : String) : Except SelectError (List NodeId) :=
  match Css.parseSelection text with
  | .ok sel => (Css.selectAll f start text sel).mapError matchFailure
  | .error e => throw (readFailure e)

/-- The element matches a selector list text, the element itself being the scope. -/
def cssMatches (f : Forest) (e : NodeId) (text : String) : Except SelectError Bool :=
  match Css.parseSelection text with
  | .ok sel => (Css.matchesSelection f e text sel).mapError matchFailure
  | .error err => throw (readFailure err)

def selectUnder (f : Forest) (n : NodeId) (selfMatch : Bool) (cs : List Selector.Complex) :
    Except SelectError (List NodeId) := do
  if !(f.isElement n || f.isDocument n) then return []
  if !selfMatch then
    return ← cssSelect f n (", ".intercalate (cs.map fun c => if c.relative then ":scope > " ++ c.css else c.css))
  let own ← if f.isElement n then cssMatches f n (", ".intercalate (cs.map Selector.Complex.css)) else pure false
  let under := (cs.filter (!·.relative)).map Selector.Complex.css
  let more ← if under.isEmpty then pure [] else cssSelect f n (", ".intercalate under)
  return (if own then [n] else []) ++ more

/-- The matches of a selector list from a node: those not anchored at the root from the node,
then those anchored at the root from `root`, or from the top of the node's tree. -/
def selectTree (f : Forest) (root : Option NodeId) (n : NodeId) (selfMatch : Bool)
    (cs : List Selector.Complex) : Except SelectError (List Location) := do
  let fromStart := cs.filter (!·.anchoredAtRoot)
  let fromRoot := cs.filter (·.anchoredAtRoot)
  let a ← if fromStart.isEmpty then pure [] else selectUnder f n selfMatch fromStart
  let b ← if fromRoot.isEmpty then pure []
    else cssSelect f (root.getD (f.top n)) (", ".intercalate (fromRoot.map Selector.Complex.css))
  return (a ++ b).map fun m => Location.ofValue (.node m)

end Stencil.Select

import Stencil.Select.Location
import Stencil.Selector.Parser
import Stencil.Text.Quote
/-!
# Results of a selection

A selection gives its matches in order, each place once: a later match of a place already found
is dropped (`Location.identity` says when two matches are the same place). A selection that
cannot be made fails with a syntax error of the selector, a refusal of the markup selector
engine, an error of evaluation that names what does not apply to the data, or the refusal to
write a compared integer too long for decimal text.

* `SelectError` : why a selection fails, with the name and message of each kind.
* `distinctLocations` : locations without repeated places, first ones kept.
* `ResultSet` : the matches of a selection and the selector that made them.
-/

namespace Stencil.Select

open Stencil.Text

/-- Why a selection fails. -/
inductive SelectError where
  /-- the selector text is not a selector expression -/
  | malformed (e : Selector.SyntaxError)
  /-- the markup selector engine refuses a selector list -/
  | markupSyntax
  /-- the selector does not apply to the data -/
  | evaluation (message : String)
  /-- the markup selector engine fails on its own, with the kind and message of the failure -/
  | engine (kind message : String)
  /-- a value compared as text holds an integer too long to write in decimal -/
  | unwritable
deriving Repr

def SelectError.kind : SelectError → String
  | .malformed _ | .markupSyntax => "SelectorSyntaxError"
  | .evaluation _ => "SelectorEvaluationError"
  | .engine kind _ => kind
  | .unwritable => "ValueError"

def SelectError.message : SelectError → String
  | .malformed e => e.message
  | .markupSyntax => "Selector syntax error (css engine)"
  | .evaluation m => m
  | .engine _ m => m
  | .unwritable => decimalLimitMessage

def SelectError.isSelectorError : SelectError → Bool
  | .engine .. | .unwritable => false
  | _ => true

/-- Locations in order, without a place that an earlier one already has. -/
def distinctLocations (ls : List Location) : List Location :=
  let step := fun (acc : List Identity × Array Location) (l : Location) =>
    if acc.1.contains l.identity then acc else (l.identity :: acc.1, acc.2.push l)
  (ls.foldl step ([], #[])).2.toList

/-- The matches of a selection, each place once, and the selector text as given. -/
structure ResultSet where
  selector : String
  found : List Location
deriving Inhabited

namespace ResultSet

def ofMatches (selector : String) (ls : List Location) : ResultSet := ⟨selector, distinctLocations ls⟩

def empty (selector : String) : ResultSet := ⟨selector, []⟩

def union (a b : ResultSet) : ResultSet := ofMatches a.selector (a.found ++ b.found)

def size (r : ResultSet) : Nat := r.found.length

def values (r : ResultSet) : List Value := r.found.map Location.value

def first? (r : ResultSet) : Option Value := r.found.head?.map Location.value

def describe (r : ResultSet) : String :=
  "ResultSet(" ++ quoteText r.selector ++ ", " ++ toString r.size ++ " match(es))"

end ResultSet

end Stencil.Select

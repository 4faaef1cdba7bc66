import Stencil.Select.Evaluate
import Stencil.Template.Problem
/-!
# Scopes

A scope binds a data value, found at a location, to a part of the template. A new scope is made
only for each value an element repeats over, so the chain of parents follows the nesting of the
output. All scopes of a rendering share one root location, which `:root` selects.

A directive's expression is a selector, `$name` (a variable), or `$name=selector` (an
assignment). Variables are looked up in the scope and then outwards through its parents, never
in children or siblings. Selectors are remembered per scope by their exact text and whether the
scope value may match itself: the same expression gives the very same result again, and its
problems are recorded once. Results are kept in a table and named by their place there, so that
"the same result" can be told apart from an equal one.

* `Frame`, `Scopes` : the scopes of a rendering, their results and their problems.
* `Scopes.child` : a scope for a value found in another.
* `Scopes.resolve` : the result of an expression in a scope.
* `Scopes.lookup` : the result a variable holds.
-/

namespace Stencil.Template

open Stencil.Markup Stencil.Select Stencil.Text

/-- One scope: the location of its value, its parent, its variables and the selectors it has
evaluated (each with the result it gave). -/
structure Frame where
  context : Location
  parent : Option Nat
  bindings : List (String × Nat)
  memo : List ((String × Bool) × Nat)
deriving Inhabited

/-- The scopes of a rendering, the results they gave, and the problems found. -/
structure Scopes where
  root : Location
  frames : Array Frame
  results : Array ResultSet
  problems : Array Problem
deriving Inhabited

/-- An expression as read: a selector, a variable, or an assignment of a selector. -/
inductive Expression where
  | selector (text : String)
  | reference (name : String)
  | assignment (name : String) (selector : String)

/-- An expression read from the text of a directive: `$name` names a variable (with white space
around the name dropped), `$name=selector` assigns one, anything else is a selector. -/
def Expression.read (text : String) : Expression :=
  match text.toList with
  | '$' :: rest =>
    let name := "$" ++ trimBlank (String.ofList (rest.takeWhile (· ≠ '=')))
    match rest.dropWhile (· ≠ '=') with
    | _ :: sel => .assignment name (trimBlank (String.ofList sel))
    | [] => .reference name
  | _ => .selector text

namespace Scopes

def start (context root : Location) : Scopes := ⟨root, #[⟨context, none, [], []⟩], #[], #[]⟩

def frame (S : Scopes) (i : Nat) : Frame := S.frames.getD i default

def value (S : Scopes) (i : Nat) : Value := (S.frame i).context.value

def path (S : Scopes) (f : Forest) (i : Nat) : String := (S.frame i).context.describe f

/-- A new scope under scope `i`, at `context`; its number. -/
def child (S : Scopes) (i : Nat) (context : Location) : Nat × Scopes :=
  (S.frames.size, { S with frames := S.frames.push ⟨context, some i, [], []⟩ })

def keep (S : Scopes) (r : ResultSet) : Nat × Scopes :=
  (S.results.size, { S with results := S.results.push r })

def result (S : Scopes) (n : Nat) : ResultSet := S.results.getD n default

def report (S : Scopes) (f : Forest) (i : Nat) (kind : ProblemKind) (message : String) : Scopes :=
  { S with problems := S.problems.push ⟨kind, message, some (S.path f i)⟩ }

def modifyFrame (S : Scopes) (i : Nat) (g : Frame → Frame) : Scopes :=
  { S with frames := S.frames.modify i g }

/-- The result of a selector in scope `i`: empty for the empty text; a selector that cannot be
evaluated is recorded as a problem (its own fault or a failure of the engine) and gives an
empty result. -/
def evaluate (S : Scopes) (f : Forest) (i : Nat) (text : String) (selfMatch : Bool) : Nat × Scopes :=
  if text.isEmpty then S.keep (ResultSet.empty text)
  else
    match select f (S.frame i).context text (.location S.root) selfMatch with
    | .ok r => S.keep r
    | .error e =>
      let message := if e.isSelectorError then "Invalid selector '" ++ text ++ "': " ++ e.message
        else "Selector '" ++ text ++ "' failed: " ++ e.message
      let S := S.report f i .selector message
      S.keep (ResultSet.empty text)

/-- The variable's result in scope `i` or the nearest scope above that has it, with at most
`fuel` steps. -/
def lookupWithin (S : Scopes) (name : String) : Nat → Nat → Option Nat
  | 0, _ => none
  | fuel + 1, i =>
    let fr := S.frame i
    match fr.bindings.lookup name with
    | some r => some r
    | none =>
      match fr.parent with
      | some p => S.lookupWithin name fuel p
      | none => none

/-- The result a variable holds in scope `i`, found outwards. -/
def lookup (S : Scopes) (i : Nat) (name : String) : Option Nat :=
  S.lookupWithin name (S.frames.size + 1) i

/-- The result of a directive's expression in scope `i` (the text is read without the white space
around it; a missing text is empty). A selector is evaluated once per scope, text and
self-match; an assignment evaluates its selector and sets the variable in this scope, with a
warning when it was set there before; a variable is looked up outwards, and a missing one is a
problem and gives a new empty result. -/
def resolve (S : Scopes) (f : Forest) (i : Nat) (text : Option String) (selfMatch : Bool) :
    Nat × Scopes :=
  let expr := trimBlank (text.getD "")
  match Expression.read expr with
  | .selector sel =>
    match (S.frame i).memo.lookup (sel, selfMatch) with
    | some r => (r, S)
    | none =>
      let (r, S) := S.evaluate f i sel selfMatch
      (r, S.modifyFrame i fun fr => { fr with memo := ((sel, selfMatch), r) :: fr.memo })
  | .assignment name sel =>
    let S := if ((S.frame i).bindings.lookup name).isSome then
        S.report f i .binding
          ("Variable '" ++ name ++ "' assigned twice in the same scope, last assignment wins")
      else S
    let (r, S) := S.evaluate f i sel selfMatch
    (r, S.modifyFrame i fun fr =>
      { fr with bindings := (name, r) :: fr.bindings.filter (·.1 != name) })
  | .reference name =>
    match S.lookup i name with
    | some r => (r, S)
    | none =>
      let S := S.report f i .binding ("No value found for variable '" ++ name ++ "'")
      S.keep (ResultSet.empty expr)

end Scopes

end Stencil.Template

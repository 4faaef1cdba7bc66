/-!
# Selector syntax

A selector expression combines selector lists with `and`, `or`, `not` and parentheses. A
selector list is a comma-separated list of complex selectors; a complex selector is a chain of
compound selectors joined by combinators (descendant, child `>`, adjacent `+`, sibling `~`), and
may start with `>` to be relative to the current scope. A compound selector is an optional type
name or `*` followed by keys, ids, attribute tests and pseudo-classes; it keeps its source text,
which is what the markup engine is given.

* `Pseudo`, `Compound`, `Combinator`, `Complex`, `Expr` : the syntax.
* `Complex.css`, `Expr.text` : the printed forms.
* `Expr.printDepth`, `Expr.print?` : how deeply printing nests, and the printed form when the
  stack has room for it.
-/

namespace Stencil.Selector

/-- A pseudo-class `:name` or `:name(argument)`; the name is lower-cased and the argument is
the stripped text between the parentheses. -/
structure Pseudo where
  name : String
  argument : Option String
deriving DecidableEq, Repr, Inhabited

/-- The printed form of a pseudo-class. -/
def Pseudo.text (p : Pseudo) : String :=
  match p.argument with
  | none => ":" ++ p.name
  | some a => ":" ++ p.name ++ "(" ++ a ++ ")"

/-- A compound selector: its source text, type name, unquoted keys, ids, attribute tests (the
text between the brackets) and pseudo-classes. -/
structure Compound where
  source : String
  typeName : Option String
  keys : List String
  ids : List String
  attributes : List String
  pseudos : List Pseudo
deriving DecidableEq, Repr, Inhabited

def Compound.hasPseudo (c : Compound) (name : String) : Bool := c.pseudos.any (·.name == name)

/-- How a compound selector relates to the one before it. -/
inductive Combinator where
  | descendant
  | child
  | adjacent
  | sibling
deriving DecidableEq, Repr, Inhabited

def Combinator.symbol : Combinator → String
  | .descendant => " "
  | .child => ">"
  | .adjacent => "+"
  | .sibling => "~"

/-- A complex selector: a first compound, then combinators and compounds; `relative` when it
starts with `>`. -/
structure Complex where
  first : Compound
  rest : List (Combinator × Compound)
  relative : Bool
deriving DecidableEq, Repr, Inhabited

def Complex.compounds (c : Complex) : List Compound := c.first :: c.rest.map (·.2)

def Complex.anchoredAtRoot (c : Complex) : Bool := c.first.hasPseudo "root"

/-- The source texts joined by spaces, with `>`, `+` and `~` as words of their own. -/
def Complex.css (c : Complex) : String :=
  let chunks := c.rest.foldl
    (fun acc (k, cp) => if k = .descendant then acc ++ [cp.source] else acc ++ [k.symbol, cp.source])
    [c.first.source]
  " ".intercalate chunks

/-- The printed form of a complex selector: `> ` in front when it is relative. -/
def Complex.text (c : Complex) : String := if c.relative then "> " ++ c.css else c.css

/-- A selector expression. -/
inductive Expr where
  | selectors (items : List Complex)
  | group (e : Expr)
  | not (e : Expr)
  | and (l r : Expr)
  | or (l r : Expr)
deriving DecidableEq, Repr, Inhabited

/-- The printed form of an expression. -/
def Expr.text : Expr → String
  | .selectors cs => ", ".intercalate (cs.map Complex.text)
  | .group e => "(" ++ e.text ++ ")"
  | .not e => "not " ++ e.text
  | .and l r => l.text ++ " and " ++ r.text
  | .or l r => l.text ++ " or " ++ r.text

/-- How deeply printing an expression nests: a group, a negation and each operand of `and` or
`or` are printed one level below the expression that holds them. -/
def Expr.printDepth : Expr → Nat
  | .selectors _ => 0
  | .group e | .not e => e.printDepth + 1
  | .and l r | .or l r => max l.printDepth r.printDepth + 1

/-- The printed form, when printing fits in `room` levels of the stack. -/
def Expr.print? (room : Nat) (e : Expr) : Option String :=
  if e.printDepth ≤ room then some e.text else none

def printRoom : Nat := 196

/-- The message of the error printing raises past its room: each level formats the next through
a call, so the limit is always met inside a call. -/
def printTooDeep : String := "maximum recursion depth exceeded while calling a Python object"

def Expr.complexes : Expr → List Complex
  | .selectors cs => cs
  | .group e | .not e => e.complexes
  | .and l r | .or l r => l.complexes ++ r.complexes

end Stencil.Selector

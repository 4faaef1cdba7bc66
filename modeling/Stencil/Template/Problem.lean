/-!
# Problems

A rendering does not stop at what it cannot do: a bad selector, a missing variable, a failing
renderer or a broken structure is recorded as a problem, with the path of the place where it
happened, and the affected fragment is left as it is. Problems are reported sorted by kind, path
and message, since the order they are found in depends on scheduling.

* `ProblemKind`, `Problem` : what went wrong, and where.
* `sortProblems` : the order problems are reported in.
-/

namespace Stencil.Template

/-- The kinds of problems. -/
inductive ProblemKind where
  | selector
  | binding
  | renderer
  | structural
  | task
deriving DecidableEq, Repr, Inhabited

def ProblemKind.name : ProblemKind → String
  | .selector => "selector"
  | .binding => "variable"
  | .renderer => "renderer"
  | .structural => "structure"
  | .task => "task"

/-- A problem: its kind, its message, and the path of the place it happened at. -/
structure Problem where
  kind : ProblemKind
  message : String
  path : Option String
deriving DecidableEq, Repr, Inhabited

def textBefore (a b : String) : Bool := decide (a.toList < b.toList)

def Problem.before (p q : Problem) : Bool :=
  let a := (p.kind.name, p.path.getD "", p.message)
  let b := (q.kind.name, q.path.getD "", q.message)
  if a.1 != b.1 then textBefore a.1 b.1
  else if a.2.1 != b.2.1 then textBefore a.2.1 b.2.1
  else textBefore a.2.2 b.2.2 || a.2.2 == b.2.2

/-- Problems in the order they are reported. -/
def sortProblems (ps : List Problem) : List Problem := ps.mergeSort Problem.before

end Stencil.Template

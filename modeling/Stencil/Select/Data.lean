import Stencil.Display.Value
import Stencil.Select.Result
import Stencil.Selector.Literal
import Stencil.Text.Case
import Stencil.Text.Integer
import Stencil.Text.Search
/-!
# Selecting in data

Selectors are matched against data values in document order: a value, then the values under it,
depth first. The children of a mapping are its entries, keyed by their keys; a sequence is
transparent, its items (nested sequences flattened) standing in its place under its own key, at
places counted in the flattened sequence. Null and false are never selected.

A complex selector is matched from its last compound leftwards. `>` needs the parent to match,
and a space any ancestor, but only while they lie below the start of the selection (or are the
start itself, when it may match). A selector that starts with `>` must begin at the start, or
just under it. `+` and `~` have no meaning for data and fail once the compound after them
matches.

A compound is checked in a fixed order, and the first check that cannot be made fails the
selection: ids and attribute tests, then the type (`string`, `number`, `boolean`, `object`,
`array`, `null`, or `*`), the keys, and the pseudo-classes from left to right.

* `childLocations` : the locations of the children of a value.
* `descendantsWithin` : the locations under a location, in document order.
* `DataRun` : one pass over the data.
* `matchCompound`, `matchFrom` : the checks.
* `selectData` : the matches of a selector list in data.
-/

namespace Stencil.Select

open Stencil.Selector Stencil.Text Stencil.Markup

/-! ## Children -/

def leaves : List Value → List Value
  | [] => []
  | .list ys :: r => leaves ys ++ leaves r
  | .tuple ys :: r => leaves ys ++ leaves r
  | v :: r => v :: leaves r

def flattenedChildren (l : Location) (key : Value) (xs : List Value) : List Location :=
  let items := leaves xs
  items.zipIdx.map fun (v, i) => l.child v key i items.length (some i)

/-- The locations of the children of a value: the entries of a mapping (a sequence entry
flattened into its items), or the flattened items of a sequence under its own key. -/
def childLocations (l : Location) : List Location :=
  match l.value with
  | .dict entries =>
    entries.zipIdx.flatMap fun ((k, v), i) =>
      match v.items? with
      | some xs => flattenedChildren l k xs
      | none => [l.child v k i entries.length none]
  | .list xs | .tuple xs => flattenedChildren l l.key xs
  | _ => []

def nesting : Value → Nat
  | .list xs | .tuple xs => 1 + (xs.attach.map fun ⟨v, _⟩ => nesting v).foldl max 0
  | .dict kvs => 1 + (kvs.attach.map fun ⟨kv, _⟩ => nesting kv.2).foldl max 0
  | _ => 0
termination_by v => sizeOf v
decreasing_by
  all_goals simp_wf
  all_goals
    first
    | (rename_i h; have hlt := List.sizeOf_lt_of_mem h; simp_all; omega)
    | (rename_i h; have hlt := List.sizeOf_lt_of_mem h; cases kv; simp_all; omega)

/-- The locations under `l` in document order, each with its distance below the start, with at
most `fuel` levels. -/
def descendantsWithin : Nat → Location → Nat → List (Location × Nat)
  | 0, _, _ => []
  | fuel + 1, l, d => (childLocations l).flatMap fun c => (c, d + 1) :: descendantsWithin fuel c (d + 1)

def descendantsOf (l : Location) : List (Location × Nat) := descendantsWithin (nesting l.value + 1) l 0

/-! ## Values -/

/-- The text a pseudo-class compares: nothing for containers, else the value as text, which
fails for an integer too long to write. -/
def comparedText (f : Forest) (v : Value) : Except SelectError String :=
  match v with
  | .dict _ | .list _ | .tuple _ => pure ""
  | v => match v.tryDisplay f with
    | .ok t => pure t
    | .error _ => throw .unwritable

def isEmptyValue (f : Forest) : Value → Bool
  | .dict [] | .list [] | .tuple [] => true
  | v => (v.stringIn? f).any String.isEmpty

def typeCheck? (f : Forest) (name : String) : Option (Value → Bool) :=
  match name with
  | "string" => some fun v => (v.stringIn? f).isSome
  | "number" => some fun v => match v with
    | .int _ | .float _ => true
    | _ => false
  | "boolean" => some fun v => match v with
    | .bool _ => true
    | _ => false
  | "object" => some Value.isMapping
  | "array" => some Value.isSequence
  | "null" => some fun v => match v with
    | .null => true
    | _ => false
  | _ => none

/-! ## Matching -/

/-- One pass over the data: the selection starts at `start`, which may match itself when
`includeStart`; `startIsRoot` when the start is the root location itself. -/
structure DataRun where
  forest : Forest
  root : Location
  start : Location
  includeStart : Bool
  startIsRoot : Bool

namespace DataRun

/-- The location `d` levels below the start is the root: the root location itself, or a value
with no parent that is the root's own value. -/
def atRoot (run : DataRun) (l : Location) (d : Nat) : Bool :=
  (d == 0 && run.startIsRoot) || (l.isTop && Value.same l.value run.root.value)

def within (run : DataRun) (d : Nat) : Bool := if d = 0 then run.includeStart else true

/-- The first compound of a complex selector may stand at a location `d` levels below the
start. -/
def anchored (run : DataRun) (relative : Bool) (d : Nat) : Bool :=
  if !relative then true
  else if run.includeStart then d == 0
  else d == 1

end DataRun

def pseudoArgument (p : Pseudo) : Except SelectError String :=
  match p.argument with
  | some a => pure (unquote a)
  | none => throw (.evaluation ("':" ++ p.name ++ "' requires an argument"))

def matchNth (p : Pseudo) (position : Nat) : Except SelectError Bool := do
  let a := lowerText (trimBlank (← pseudoArgument p))
  if a == "odd" then return position % 2 == 1
  if a == "even" then return position % 2 == 0
  match readInteger? a with
  | some n => return (position : Int) == n
  | none => throw (.evaluation ("Invalid :nth-child argument '" ++ (p.argument.getD "") ++ "'"))

def matchPseudo (run : DataRun) (p : Pseudo) (l : Location) (d : Nat) : Except SelectError Bool :=
  match p.name with
  | "root" => pure (run.atRoot l d)
  | "first-child" => pure (l.index == 0)
  | "last-child" => pure (l.index + 1 == l.siblings)
  | "only-child" => pure (l.siblings == 1)
  | "nth-child" => matchNth p (l.index + 1)
  | "contains" => do
    let a ← pseudoArgument p
    return occursIn (codePoints a.toList) (codePoints (← comparedText run.forest l.value).toList)
  | "val" => do
    let a ← pseudoArgument p
    return (← comparedText run.forest l.value) == a
  | "empty" => pure (isEmptyValue run.forest l.value)
  | name => throw (.evaluation ("Unknown pseudo-class ':" ++ name ++ "'"))

/-- A compound at a location `d` levels below the start. -/
def matchCompound (run : DataRun) (c : Compound) (l : Location) (d : Nat) :
    Except SelectError Bool := do
  if !c.ids.isEmpty || !c.attributes.isEmpty then
    throw (.evaluation ("'" ++ c.source ++ "': id and attribute selectors are not supported for JSON data"))
  match c.typeName with
  | some t =>
    if t != "*" then
      match typeCheck? run.forest (lowerText t) with
      | none => throw (.evaluation ("Unknown JSON type '" ++ t ++ "'"))
      | some check => if !check l.value then return false
  | none => pure ()
  if !c.keys.all (fun k => l.key.sameKey (.str k)) then return false
  c.pseudos.allM fun p => matchPseudo run p l d

/-- The ancestors of a location that lie within the selection, nearest first, each with its
distance below the start. -/
def ancestorsWithin (run : DataRun) (l : Location) (d : Nat) : List (Location × Nat) :=
  let rec go : Nat → Option Location → List (Location × Nat)
    | 0, some a => if run.includeStart then [(a, 0)] else []
    | e + 1, some a => (a, e + 1) :: go e a.parent?
    | _, none => []
  match d with
  | 0 => []
  | e + 1 => go e l.parent?

/-- A complex selector matched leftwards: `c` at the location `d` levels below the start, then
`left` (each compound with the combinator after it), nearest first. -/
def matchFrom (run : DataRun) (relative : Bool) :
    List (Combinator × Compound) → Compound → Location → Nat → Except SelectError Bool
  | left, c, l, d => do
    if !(← matchCompound run c l d) then return false
    match left with
    | [] => return run.anchored relative d
    | (k, prev) :: rest =>
      match k with
      | .child =>
        match l.parent?, d with
        | some p, e + 1 => if run.within e then matchFrom run relative rest prev p e else return false
        | _, _ => return false
      | .descendant =>
        (ancestorsWithin run l d).anyM fun (a, e) => matchFrom run relative rest prev a e
      | k => throw (.evaluation ("Combinator '" ++ k.symbol ++ "' is not supported for JSON data"))
termination_by left => left.length

/-- The last compound of a complex selector, and the others nearest first, each with the
combinator that follows it. -/
def leftward (cx : Selector.Complex) : Compound × List (Combinator × Compound) :=
  cx.rest.foldl (fun acc (k, c) => (c, (k, acc.1) :: acc.2)) (cx.first, [])

def matchComplex (run : DataRun) (cx : Selector.Complex) (l : Location) (d : Nat) : Except SelectError Bool :=
  let (last, left) := leftward cx
  matchFrom run cx.relative left last l d

/-- The matches of one pass: every location from the start on (the start itself when it may
match) whose value is not null or false and that some complex selector matches. -/
def runData (run : DataRun) (cs : List Selector.Complex) : Except SelectError (List Location) := do
  let candidates := (if run.includeStart then [(run.start, 0)] else []) ++ descendantsOf run.start
  let found ← candidates.filterM fun (l, d) =>
    if l.value.neverMatches then pure false else cs.anyM fun cx => matchComplex run cx l d
  return found.map (·.1)

/-- The matches of a selector list in data: the complex selectors not anchored at the root from
`start`, then those anchored at the root from the root. -/
def selectData (f : Forest) (root start : Location) (startIsRoot selfMatch : Bool)
    (cs : List Selector.Complex) : Except SelectError (List Location) := do
  let fromStart := cs.filter (!·.anchoredAtRoot)
  let fromRoot := cs.filter (·.anchoredAtRoot)
  let a ← if fromStart.isEmpty then pure [] else runData ⟨f, root, start, selfMatch, startIsRoot⟩ fromStart
  let b ← if fromRoot.isEmpty then pure [] else runData ⟨f, root, root, true, true⟩ fromRoot
  return a ++ b

end Stencil.Select

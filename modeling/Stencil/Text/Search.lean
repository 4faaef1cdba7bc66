/-!
# Searching character lists

Positions are counted in characters from the head of the list.

* `firstIndex?` : the position of the first character with a property.
* `indexFrom?` : the same, looking only from a position on.
* `findMatch?` : the first position where a matcher succeeds, with the length it matched.
* `slice` : the characters between two positions.
* `occursIn` : one list occurs inside another.
-/

namespace Stencil.Text

/-- The position of the first character with the property. -/
def firstIndex? (p : Char → Bool) : List Char → Option Nat
  | [] => none
  | c :: r => if p c then some 0 else (firstIndex? p r).map (· + 1)

/-- The position of the first character with the property at or after `start`. -/
def indexFrom? (p : Char → Bool) (start : Nat) (cs : List Char) : Option Nat :=
  (firstIndex? p (cs.drop start)).map (· + start)

def findMatchFrom (m : List Char → Option Nat) (pos : Nat) : List Char → Option (Nat × Nat)
  | [] => (m []).map fun k => (pos, k)
  | c :: r =>
    match m (c :: r) with
    | some k => some (pos, k)
    | none => findMatchFrom m (pos + 1) r

/-- The first position at or after `start` where `m` matches, with the length of the match. -/
def findMatch? (m : List Char → Option Nat) (start : Nat) (cs : List Char) : Option (Nat × Nat) :=
  findMatchFrom m start (cs.drop start)

/-- The characters from position `i` up to position `j`. -/
def slice (cs : List Char) (i j : Nat) : List Char := (cs.drop i).take (j - i)

def countWhile (p : Char → Bool) (cs : List Char) : Nat := (cs.takeWhile p).length

/-- `v` occurs in `s` as a contiguous part (the empty list occurs everywhere). -/
def occursIn {α : Type} [BEq α] (v : List α) : List α → Bool
  | [] => v.isEmpty
  | c :: r => v.isPrefixOf (c :: r) || occursIn v r

end Stencil.Text

import Stencil.Number.Binary
/-!
# Shortest decimal digits

The text of a double is the decimal with the fewest significant digits that reads back as the same
double; of two such decimals of that length the nearer one is taken, and an exact tie goes to the
even last digit.

The reals that round to a finite double form an interval from halfway to the neighbour below to
halfway to the neighbour above, both ends included exactly when the mantissa is even
(`Binary.readsBack`). For `n = 1, 2, …` digits the search looks at the grid `10^(k - n)`, where
`10^k` is the least power of ten above the value, and tests the value's two neighbours on it
(`Binary.tryGrid`); the first grid with a hit wins.

* `Decimal` : `digits * 10^exp`.
* `Binary.readsBack` : a decimal lies among the reals that round to the value.
* `Binary.shortest` : the selected decimal, without trailing zeros.
-/

namespace Stencil.Number

/-- The decimal `digits * 10^exp`. -/
structure Decimal where
  digits : Nat
  exp : Int
deriving Repr, DecidableEq

def cmpScaled (a : Nat) (i : Int) (n : Nat) (j : Int) : Ordering :=
  compare (a * Nat.pow 10 i.toNat * Nat.pow 2 (-j).toNat) (n * Nat.pow 2 j.toNat * Nat.pow 10 (-i).toNat)

/-- The decimal lies among the reals that round to `x` (to nearest, ties to even). -/
def Binary.readsBack (x : Binary) (d : Decimal) : Bool :=
  let lo := if x.narrowBelow then 4 * x.m - 1 else 4 * x.m - 2
  let hi := 4 * x.m + 2
  let incl := x.m % 2 == 0
  let cl := cmpScaled d.digits d.exp lo (x.q - 2)
  let ch := cmpScaled d.digits d.exp hi (x.q - 2)
  (cl == .gt || (incl && cl == .eq)) && (ch == .lt || (incl && ch == .eq))

def Binary.floorOnGrid (x : Binary) (g : Int) : Nat :=
  (x.m * Nat.pow 2 x.q.toNat * Nat.pow 10 (-g).toNat) / (Nat.pow 2 (-x.q).toNat * Nat.pow 10 g.toNat)

def Binary.cmpMid (x : Binary) (a : Nat) (g : Int) : Ordering :=
  compare (2 * x.m * Nat.pow 2 x.q.toNat * Nat.pow 10 (-g).toNat)
    ((2 * a + 1) * Nat.pow 10 g.toNat * Nat.pow 2 (-x.q).toNat)

def Binary.raiseScale (x : Binary) : Nat → Int → Int
  | 0, k => k
  | fuel + 1, k => if x.ltPow10 k then k else x.raiseScale fuel (k + 1)

def Binary.lowerScale (x : Binary) : Nat → Int → Int
  | 0, k => k
  | fuel + 1, k => if x.ltPow10 (k - 1) then x.lowerScale fuel (k - 1) else k

/-- The least `k` with `m * 2^q < 10^k`, for a non-zero value: an estimate from the binary
logarithm, corrected by exact comparisons. -/
def Binary.scale (x : Binary) : Int :=
  let est : Int := ((x.m.log2 : Int) + x.q) * 30103 / 100000 + 1
  x.lowerScale 4 (x.raiseScale 4 est)

/-- The neighbour on the grid `10^g` that reads back; of two, the nearer, and on a tie the even. -/
def Binary.tryGrid (x : Binary) (g : Int) : Option Decimal :=
  let a := x.floorOnGrid g
  let lo : Decimal := ⟨a, g⟩
  let hi : Decimal := ⟨a + 1, g⟩
  match x.readsBack lo, x.readsBack hi with
  | true, true =>
    match x.cmpMid a g with
    | .lt => some lo
    | .gt => some hi
    | .eq => if a % 2 == 0 then some lo else some hi
  | true, false => some lo
  | false, true => some hi
  | false, false => none

def Decimal.normalize (d : Decimal) : Decimal :=
  if h : d.digits ≠ 0 ∧ d.digits % 10 = 0 then
    Decimal.normalize ⟨d.digits / 10, d.exp + 1⟩
  else d
termination_by d.digits
decreasing_by exact Nat.div_lt_self (Nat.pos_of_ne_zero h.1) (by decide)

def Binary.exact (x : Binary) : Decimal :=
  if x.q ≥ 0 then ⟨x.m * Nat.pow 2 x.q.toNat, 0⟩ else ⟨x.m * Nat.pow 5 (-x.q).toNat, x.q⟩

/-- The shortest decimal that reads back as `x` (for a non-zero magnitude). -/
def Binary.shortest (x : Binary) : Decimal :=
  let k := x.scale
  match (List.range 17).findSome? (fun n => x.tryGrid (k - (n + 1 : Nat))) with
  | some d => d.normalize
  | none => x.exact.normalize

end Stencil.Number

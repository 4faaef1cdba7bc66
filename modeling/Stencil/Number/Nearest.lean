import Stencil.Number.Binary
/-!
# The nearest double

The double nearest to a non-negative rational `num / den`, with an exact tie going to the even
mantissa, computed in exact integer arithmetic and assembled from its bits. Values too large for
a double give infinity; values too small give zero or a subnormal.

* `roundDivEven` : `num / den` rounded to the nearest integer, a tie to the even one.
* `nearestBits` : the bits of the double nearest to `num / den`.
* `decimalToFloat` : the double nearest to `m * 10^e`, with a sign.
* `intToFloat?` : the double nearest to an integer, unless it is too large.
-/

namespace Stencil.Number

/-- `num / den` rounded to the nearest integer; an exact half goes to the even neighbour. -/
def roundDivEven (num den : Nat) : Nat :=
  let q := num / den
  let r := num % den
  if 2 * r > den then q + 1
  else if 2 * r = den then (if q % 2 = 0 then q else q + 1)
  else q

def binaryLog (num den : Nat) : Int :=
  let k : Int := (num.log2 : Int) - den.log2
  let below : Bool :=
    if k ≥ 0 then num < den * Nat.pow 2 k.toNat else num * Nat.pow 2 (-k).toNat < den
  if below then k - 1 else k

/-- The bits of the double nearest to `num / den` (non-negative; `den > 0`). -/
def nearestBits (num den : Nat) : UInt64 :=
  if num = 0 then 0
  else
    let k := binaryLog num den
    -- the exponent of the last mantissa bit: 52 places below the leading bit, or the
    -- subnormal scale
    let q : Int := if k ≥ -1022 then k - 52 else -1074
    let m : Nat :=
      if q ≥ 0 then roundDivEven num (den * Nat.pow 2 q.toNat)
      else roundDivEven (num * Nat.pow 2 (-q).toNat) den
    let (m, q) := if m = Nat.pow 2 53 then (Nat.pow 2 52, q + 1) else (m, q)
    if q = -1074 ∧ m < Nat.pow 2 52 then m.toUInt64
    else if q + 52 > 1023 then 0x7FF0000000000000
    else ((q + 1075).toNat.toUInt64 <<< 52) ||| (m - Nat.pow 2 52).toUInt64

/-- The double nearest to `m * 10^e`, negated when `negative`. Exponents far outside the range of
doubles give zero or infinity at once. -/
def decimalToFloat (negative : Bool) (m : Nat) (e : Int) : Float :=
  let x : Float :=
    if m = 0 then 0.0
    else
      let d : Int := (toString m).length
      if e + d > 310 then Float.ofBits 0x7FF0000000000000
      else if e + d < -330 then 0.0
      else if e ≥ 0 then Float.ofBits (nearestBits (m * Nat.pow 10 e.toNat) 1)
      else Float.ofBits (nearestBits m (Nat.pow 10 (-e).toNat))
  if negative then -x else x

/-- The double nearest to an integer, or `none` when it is too large for a double. -/
def intToFloat? (n : Int) : Option Float :=
  let b := nearestBits n.natAbs 1
  if b = 0x7FF0000000000000 then none
  else
    let x := Float.ofBits b
    some (if n < 0 then -x else x)

example : roundDivEven 5 2 = 2 ∧ roundDivEven 7 2 = 4 := by decide

end Stencil.Number

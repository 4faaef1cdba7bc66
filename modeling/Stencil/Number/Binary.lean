/-!
# Binary floating-point values

A double is read from its bits into a kind (NaN, an infinity, or a finite value with a sign) and,
for a finite value, the exact magnitude `m * 2^q`. Everything that prints, compares or converts
numbers works on this exact form.

* `Binary` : a finite non-negative magnitude `m * 2^q`.
* `FloatKind` / `classify` : what a double is.
* `Binary.isIntegral`, `Binary.toNat` : integral magnitudes and their value.
* `Binary.ltPow10` : exact comparison with a power of ten.
-/

namespace Stencil.Number

/-- A finite non-negative binary64 magnitude, `m * 2^q`. -/
structure Binary where
  m : Nat
  q : Int
  /-- the gap to the value below is half the gap to the value above -/
  narrowBelow : Bool
deriving Repr, DecidableEq

def Binary.ofBits (b : UInt64) : Binary :=
  let e := ((b >>> 52) &&& 0x7FF).toNat
  let f := (b &&& 0xFFFFFFFFFFFFF).toNat
  if e == 0 then ⟨f, -1074, false⟩ else ⟨Nat.pow 2 52 + f, (e : Int) - 1075, f == 0 && e > 1⟩

/-- The kinds of double: not a number, an infinity, or a finite value with a sign. -/
inductive FloatKind where
  | nan
  | infinite (negative : Bool)
  | finite (negative : Bool) (x : Binary)
deriving Repr

/-- What a double is, read off its bits. -/
def classify (x : Float) : FloatKind :=
  let b := x.toBits
  let neg := (b >>> 63) == 1
  let e := (b >>> 52) &&& 0x7FF
  if e == 0x7FF then
    if (b &&& 0xFFFFFFFFFFFFF) == 0 then .infinite neg else .nan
  else .finite neg (Binary.ofBits b)

def Binary.isZero (x : Binary) : Bool := x.m == 0

/-- The magnitude is a whole number. -/
def Binary.isIntegral (x : Binary) : Bool :=
  x.q ≥ 0 || x.m % Nat.pow 2 (-x.q).toNat == 0

/-- The whole part of the magnitude (its value when it is integral). -/
def Binary.toNat (x : Binary) : Nat :=
  if x.q ≥ 0 then x.m * Nat.pow 2 x.q.toNat else x.m / Nat.pow 2 (-x.q).toNat

/-- `m * 2^q < 10^k`, decided exactly. -/
def Binary.ltPow10 (x : Binary) (k : Int) : Bool :=
  x.m * Nat.pow 2 x.q.toNat * Nat.pow 10 (-k).toNat < Nat.pow 10 k.toNat * Nat.pow 2 (-x.q).toNat

end Stencil.Number

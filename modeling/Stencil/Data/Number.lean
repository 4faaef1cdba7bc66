import Stencil.Number.Layout
/-!
# Numbers in data

The text of a double in data, in messages and in JSON: the fewest digits that read back, written
positionally when the point position lies in `-3 … 16` (so from `0.0001` up to below `10^16`),
with `.0` after a whole number, and otherwise with an exponent of at least two digits and a sign,
as in `1e-07` and `1e+16`.

* `floatStyle` : those decisions.
* `floatText` : the text of a double.
* `integralOf?` : the exact integer of a whole double below `10^21` in magnitude.
* `wholeOf?` : the exact integer of any whole double.
-/

namespace Stencil

open Stencil.Number

/-- Doubles of data: shortest digits, positional for point positions `-3 … 16`, `.0` on whole
numbers, exponents as `e-07` and `e+16`, NaN and infinities as `nan` and `inf`. -/
def floatStyle : FloatStyle where
  positionalAbove := -4
  positionalUpTo := 16
  pointZero := true
  exponentMark := "e"
  exponentPlus := true
  exponentDigits := 2
  nanText := "nan"
  infinityText := "inf"

/-- The text of a double in data. -/
def floatText (x : Float) : String := floatStyle.render x

/-- The exact integer of a whole double whose magnitude is below `10^21`. -/
def integralOf? (x : Float) : Option Int :=
  match classify x with
  | .finite neg b =>
    if b.isIntegral && b.ltPow10 21 then
      some (if neg then -(b.toNat : Int) else b.toNat)
    else none
  | _ => none

/-- The exact integer of a whole double, however large. -/
def wholeOf? (x : Float) : Option Int :=
  match classify x with
  | .finite neg b => if b.isIntegral then some (if neg then -(b.toNat : Int) else b.toNat) else none
  | _ => none

end Stencil

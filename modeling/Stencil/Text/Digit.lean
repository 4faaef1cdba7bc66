import Stencil.Text.Word
/-!
# Decimal digits

The decimal digits of Unicode (category `Nd`) come in runs of ten, each run starting with its
zero. `digitValue?` finds the run of a character and its place in it.

* `digitZeros` : the first code point of every run of ten decimal digits, sorted.
* `digitValue?` : the value of a decimal digit of any script.
-/

namespace Stencil.Text

/-- The zero of every run of ten decimal digits (Unicode 14), sorted. -/
def digitZeros : Array Nat := #[
0x30, 0x660, 0x6F0, 0x7C0, 0x966, 0x9E6, 0xA66, 0xAE6, 0xB66, 0xBE6, 0xC66, 0xCE6, 0xD66, 0xDE6, 0xE50, 0xED0, 0xF20, 0x1040, 0x1090, 0x17E0, 0x1810, 0x1946, 0x19D0, 0x1A80, 0x1A90, 0x1B50, 0x1BB0, 0x1C40, 0x1C50, 0xA620, 0xA8D0, 0xA900, 0xA9D0, 0xA9F0, 0xAA50, 0xABF0, 0xFF10, 0x104A0, 0x10D30, 0x11066, 0x110F0, 0x11136, 0x111D0, 0x112F0, 0x11450, 0x114D0, 0x11650, 0x116C0, 0x11730, 0x118E0, 0x11950, 0x11C50, 0x11D50, 0x11DA0, 0x16A60, 0x16AC0, 0x16B50, 0x1D7CE, 0x1D7D8, 0x1D7E2, 0x1D7EC, 0x1D7F6, 0x1E140, 0x1E2F0, 0x1E950, 0x1FBF0]

/-- The value of a decimal digit of any script, or `none` for another character. -/
def digitValue? (c : Char) : Option Nat :=
  let k := countAtMost digitZeros c.toNat
  if k = 0 then none
  else
    let z := digitZeros.getD (k - 1) 0
    if c.toNat - z < 10 then some (c.toNat - z) else none

def isDigit (c : Char) : Bool := (digitValue? c).isSome

example : digitValue? '7' = some 7 ∧
    digitValue? '٣' = some 3 ∧
    digitValue? 'a' = none := by
  decide +kernel

end Stencil.Text

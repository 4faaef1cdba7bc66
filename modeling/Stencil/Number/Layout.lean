import Stencil.Number.Shortest
/-!
# Laying out a decimal

A decimal with digits `d₁ … dₙ` and point position `p` (the value is `0.d₁…dₙ * 10^p`) is written
either positionally or with an exponent. A `FloatStyle` holds the decisions of one output format:
which point positions are written positionally, whether a whole number keeps a `.0`, and how the
exponent is marked.

* `FloatStyle` : the decisions.
* `digitText` : the decimal digits of a natural number.
* `FloatStyle.layout` : a decimal in that style.
* `FloatStyle.render` : a double in that style, NaN and the infinities included.
-/

namespace Stencil.Number

/-- How one output format writes doubles. -/
structure FloatStyle where
  /-- point positions `p` with `positionalAbove < p ≤ positionalUpTo` are written positionally -/
  positionalAbove : Int
  positionalUpTo : Int
  /-- a positional whole number gets a trailing `.0` -/
  pointZero : Bool
  /-- the mark before the exponent -/
  exponentMark : String
  /-- a non-negative exponent is written with `+` -/
  exponentPlus : Bool
  /-- the least number of exponent digits -/
  exponentDigits : Nat
  nanText : String
  infinityText : String

/-- The decimal digits of a natural number, most significant first. -/
def digitText (n : Nat) : String := toString n

def padZeros (w : Nat) (s : String) : String :=
  String.ofList (List.replicate (w - s.length) '0') ++ s

/-- A non-negative decimal, laid out in style `st`. -/
def FloatStyle.layout (st : FloatStyle) (d : Decimal) : String :=
  let ds := digitText d.digits
  let n : Int := ds.length
  let p : Int := n + d.exp
  if st.positionalAbove < p ∧ p ≤ st.positionalUpTo then
    if p ≤ 0 then
      "0." ++ String.ofList (List.replicate (-p).toNat '0') ++ ds
    else if p ≥ n then
      ds ++ String.ofList (List.replicate (p - n).toNat '0') ++ (if st.pointZero then ".0" else "")
    else
      String.ofList (ds.toList.take p.toNat) ++ "." ++ String.ofList (ds.toList.drop p.toNat)
  else
    let e := p - 1
    let mant := match ds.toList with
      | c :: rest@(_ :: _) => String.singleton c ++ "." ++ String.ofList rest
      | _ => ds
    let sign := if e < 0 then "-" else if st.exponentPlus then "+" else ""
    mant ++ st.exponentMark ++ sign ++ padZeros st.exponentDigits (digitText e.natAbs)

/-- A double in style `st`: the shortest decimal that reads back, with its sign. -/
def FloatStyle.render (st : FloatStyle) (x : Float) : String :=
  match classify x with
  | .nan => st.nanText
  | .infinite neg => (if neg then "-" else "") ++ st.infinityText
  | .finite neg b =>
    let body := if b.isZero then st.layout ⟨0, 0⟩ else st.layout b.shortest
    (if neg then "-" else "") ++ body

end Stencil.Number

import Stencil.Text.Case
/-!
# Characters equal without case

Two characters are equal without case when their single-character lower cases are equal, or
when those lower cases belong to one of a few classes of letters that count as one: small i and
dotless ı, small s and long ſ, micro sign and μ, final ς and σ, the Greek letter symbols (ϐ, ϑ,
ϕ, ϖ, ϰ, ϱ, ϵ) and their letters, the rounded Cyrillic letters, and so on.

* `simpleLower` : the lower case of a character as one character.
* `caseClasses` : the classes of lower-case letters that count as one letter.
* `caselessKey` : one character for each class of characters equal without case.
-/

namespace Stencil.Text

/-- The lower case of a character as a single character: the mapping of `lowerChar`, with capital
I with dot above going to small i alone. -/
def simpleLower (c : Char) : Char :=
  if c.toNat = 0x130 then 'i'
  else (lowerShift? c).getD c

/-- Classes of lower-case letters that count as one letter, each sorted by code point. -/
def caseClasses : List (List Nat) := [
  [0x69, 0x131],
  [0x73, 0x17F],
  [0xB5, 0x3BC],
  [0x345, 0x3B9, 0x1FBE],
  [0x390, 0x1FD3],
  [0x3B0, 0x1FE3],
  [0x3B2, 0x3D0],
  [0x3B5, 0x3F5],
  [0x3B8, 0x3D1],
  [0x3BA, 0x3F0],
  [0x3C0, 0x3D6],
  [0x3C1, 0x3F1],
  [0x3C2, 0x3C3],
  [0x3C6, 0x3D5],
  [0x432, 0x1C80],
  [0x434, 0x1C81],
  [0x43E, 0x1C82],
  [0x441, 0x1C83],
  [0x442, 0x1C84, 0x1C85],
  [0x44A, 0x1C86],
  [0x463, 0x1C87],
  [0x1C88, 0xA64B],
  [0x1E61, 0x1E9B],
  [0xFB05, 0xFB06]]

/-- The character that stands for `c` and all characters equal to it without case: its simple
lower case, or the first letter of the class that lower case belongs to. -/
def caselessKey (c : Char) : Char :=
  let l := simpleLower c
  match caseClasses.find? (·.contains l.toNat) with
  | some (first :: _) => Char.ofNat first
  | _ => l

/-- The keys of the characters of a text: two texts are equal without case, character by
character, when their keys are equal. -/
def caselessKeys (cs : List Char) : List Char := cs.map caselessKey

example : caselessKey '\u0130' = caselessKey 'i' ∧
    caselessKey '\u0131' = caselessKey 'I' ∧
    caselessKey '\u03C2' = caselessKey '\u03A3' := by
  decide +kernel

end Stencil.Text

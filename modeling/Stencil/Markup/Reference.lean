import Stencil.Markup.Entity
import Stencil.Text.Integer
import Stencil.Text.Surrogate
/-!
# Character references

Markup names characters by reference: `&name;`, `&#123;` or `&#x7b;`. Two readings are used.
In text, a numeric reference below 256 is read as a byte of the Windows-1252 code page and a
named reference is looked up without its semicolon. In attribute values every reference is
decoded by the HTML rules for invalid and unterminated references: a name may be cut to its
longest known prefix, control codes map to the characters the code page gives them, and
code points outside Unicode become U+FFFD.

* `codePageChar` : a byte read as Windows-1252.
* `textCharRef`, `textEntityRef` : what a reference in text stands for.
* `decodeReferences` : every reference in an attribute value decoded.
-/

namespace Stencil.Markup

def replacementChar : Char := '�'

/-- The characters of Windows-1252 at bytes 0x80 to 0x9F; a byte the code page leaves undefined
stands for itself. -/
def codePageHigh : Array Nat := #[
  0x20AC, 0x81, 0x201A, 0x0192, 0x201E, 0x2026, 0x2020, 0x2021,
  0x02C6, 0x2030, 0x0160, 0x2039, 0x0152, 0x8D, 0x017D, 0x8F,
  0x90, 0x2018, 0x2019, 0x201C, 0x201D, 0x2022, 0x2013, 0x2014,
  0x02DC, 0x2122, 0x0161, 0x203A, 0x0153, 0x9D, 0x017E, 0x0178]

/-- A byte read as Windows-1252. -/
def codePageChar (b : Nat) : Char :=
  if 0x80 ≤ b ∧ b < 0xA0 then Char.ofNat (codePageHigh.getD (b - 0x80) b) else Char.ofNat b

def charOfCode (n : Nat) : Char :=
  if (0xD800 ≤ n ∧ n ≤ 0xDFFF) ∨ n > 0x10FFFF then replacementChar else Char.ofNat n

/-- The text a numeric reference in text stands for: below 256 a Windows-1252 byte, beyond
Unicode U+FFFD, otherwise the code point (a surrogate as a lone one). -/
def textCharRef (n : Nat) : String :=
  if n < 256 then String.singleton (codePageChar n)
  else if n > 0x10FFFF then String.singleton replacementChar
  else Text.ofCodePoints [n]

/-- The text a named reference in text stands for: its character when the name is known,
otherwise the reference as written, without a semicolon. -/
def textEntityRef (name : String) : String :=
  match namedReference? (name ++ ";") with
  | some v => v
  | none => "&" ++ name

/-! ## Attribute values -/

def isDroppedCode (n : Nat) : Bool :=
  (1 ≤ n ∧ n ≤ 8) ∨ (0x0E ≤ n ∧ n ≤ 0x1F) ∨ (0x7F ≤ n ∧ n ≤ 0x9F) ∨ (0xFDD0 ≤ n ∧ n ≤ 0xFDEF) ∨
    n = 0x0B ∨ (n % 0x10000 ≥ 0xFFFE ∧ n ≤ 0x10FFFF)

def valueCharRef (n : Nat) : String :=
  if n = 0 then String.singleton replacementChar
  else if n = 0x0D then "\r"
  else if 0x80 ≤ n ∧ n < 0xA0 then String.singleton (codePageChar n)
  else if (0xD800 ≤ n ∧ n ≤ 0xDFFF) ∨ n > 0x10FFFF then String.singleton replacementChar
  else if isDroppedCode n then ""
  else Text.ofCodePoints [n]

def isDecimal (c : Char) : Bool := '0' ≤ c ∧ c ≤ '9'

def isHexDigit (c : Char) : Bool := isDecimal c ∨ ('a' ≤ c ∧ c ≤ 'f') ∨ ('A' ≤ c ∧ c ≤ 'F')

def digitsIn (base : Nat) (ds : List Char) : Nat :=
  ds.foldl (fun acc c =>
    let d := if isDecimal c then c.toNat - '0'.toNat
      else if 'a' ≤ c ∧ c ≤ 'f' then c.toNat - 'a'.toNat + 10
      else c.toNat - 'A'.toNat + 10
    acc * base + d) 0

def endsValueName (c : Char) : Bool :=
  c = '\t' ∨ c = '\n' ∨ c = '\x0c' ∨ c = ' ' ∨ c = '<' ∨ c = '&' ∨ c = '#' ∨ c = ';'

/-- The text of a named reference in an attribute value, `s` being the name with its semicolon
if it has one: the name itself if known, else its longest known prefix of at least two
characters followed by the rest, else the reference as written. -/
def valueEntityRef (s : List Char) : String :=
  match namedReference? (String.ofList s) with
  | some v => v
  | none =>
    let prefixes := (List.range (s.length - 2)).map (fun i => s.length - 1 - i)
    match prefixes.findSome? (fun x => (namedReference? (String.ofList (s.take x))).map
        (· ++ String.ofList (s.drop x))) with
    | some v => v
    | none => "&" ++ String.ofList s

def semi : List Char → Nat
  | ';' :: _ => 1
  | _ => 0

/-- A reference at the start of `cs` (just after an ampersand): its text and how many
characters it takes. -/
def valueReference (cs : List Char) : Option (String × Nat) :=
  match cs with
  | '#' :: x :: r =>
    if isDecimal x then
      let ds := (x :: r).takeWhile isDecimal
      some (valueCharRef (digitsIn 10 ds), 1 + ds.length + semi ((x :: r).drop ds.length))
    else if x = 'x' ∨ x = 'X' then
      let ds := r.takeWhile isHexDigit
      if ds.isEmpty then none
      else some (valueCharRef (digitsIn 16 ds), 2 + ds.length + semi (r.drop ds.length))
    else none
  | _ =>
    let name := (cs.takeWhile (fun c => !endsValueName c)).take 32
    if name.isEmpty then none
    else
      let n := semi (cs.drop name.length)
      some (valueEntityRef (if n == 1 then name ++ [';'] else name), name.length + n)

def decodeChars : List Char → List Char
  | [] => []
  | c :: r =>
    if c = '&' then
      match valueReference r with
      | some (t, n) => t.toList ++ decodeChars (r.drop n)
      | none => c :: decodeChars r
    else c :: decodeChars r
termination_by cs => cs.length
decreasing_by all_goals simp only [List.length_drop, List.length_cons]; omega

/-- The number of digits of the first decimal reference `&#digits` in an attribute value that has
more digits than a number may be read with. -/
def firstLongDecimal? : List Char → Option Nat
  | [] => none
  | '&' :: '#' :: r =>
    let n := (r.takeWhile isDecimal).length
    if n > Text.literalDigitLimit then some n else firstLongDecimal? r
  | _ :: r => firstLongDecimal? r

/-- An attribute value with every reference decoded. -/
def decodeReferences (s : String) : String :=
  if s.contains '&' then String.ofList (decodeChars s.toList) else s

end Stencil.Markup

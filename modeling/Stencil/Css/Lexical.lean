import Stencil.Text.Quote
import Stencil.Text.Surrogate
/-!
# The lexical grammar of selectors

White space, comments, escapes, identifiers, quoted strings and `an+b` formulas: the pieces that
selector tokens are made of. Lengths count characters from the head of the input.

Escapes are read in two modes. In a name, a backslash with up to six hex digits (and one white
space or comment after them) names a code point, a backslash before any character but a line
break stands for that character, and a backslash at the end stands for U+FFFD. In a quoted
string, only white space may follow the hex digits, and a backslash before a line break stands
for nothing. Code point zero stands for U+FFFD, a surrogate stands for itself, and a code point
past U+10FFFF is refused.

* `ReadError` : why a selector text cannot be read.
* `identLength`, `quotedLength`, `valueLength` : the lengths of tokens at the head.
* `unescape` : the text an escaped name or string stands for.
* `valueTokens` : the values of a comma list, read loosely.
* `nthFormulaAt` : the `an+b` formula at the head.
-/

namespace Stencil.Css

open Stencil.Text

/-- Why a selector text cannot be read. -/
inductive ReadError where
  /-- the text is not a selector -/
  | malformed
  /-- an escape names a code point past U+10FFFF -/
  | beyondUnicode
  /-- the hex digits of an escape run into a comment, and the two do not read as a number -/
  | hexWithComment (digits : String)
deriving DecidableEq, Repr, Inhabited

/-! ## Characters -/

def isCssSpace (c : Char) : Bool := c = ' ' ∨ c = '\t' ∨ c = '\n' ∨ c = '\r' ∨ c = '\x0c'

def isLetter (c : Char) : Bool := ('a' ≤ c ∧ c ≤ 'z') ∨ ('A' ≤ c ∧ c ≤ 'Z')

def isDigitChar (c : Char) : Bool := '0' ≤ c ∧ c ≤ '9'

def isHex (c : Char) : Bool := isDigitChar c ∨ ('a' ≤ c ∧ c ≤ 'f') ∨ ('A' ≤ c ∧ c ≤ 'F')

def isNameStart (c : Char) : Bool := isLetter c ∨ c = '_' ∨ c.toNat ≥ 0xA0

def isNameChar (c : Char) : Bool := isNameStart c ∨ isDigitChar c ∨ c = '-'

def isCombinatorChar (c : Char) : Bool := c = ',' ∨ c = '+' ∨ c = '>' ∨ c = '~'

def newlineLength : List Char → Nat
  | '\r' :: '\n' :: _ => 2
  | c :: _ => if c = '\n' ∨ c = '\r' ∨ c = '\x0c' then 1 else 0
  | [] => 0

def oneSpaceLength (cs : List Char) : Nat :=
  match cs with
  | c :: _ => if c = ' ' ∨ c = '\t' then 1 else newlineLength cs
  | [] => 0

def commentRest : List Char → Option Nat
  | '*' :: '/' :: _ => some 2
  | _ :: r => (commentRest r).map (· + 1)
  | [] => none

def commentLength : List Char → Option Nat
  | '/' :: '*' :: r => (commentRest r).map (· + 2)
  | _ => none

def spaceLengthWithin : Nat → List Char → Nat
  | 0, _ => 0
  | fuel + 1, cs =>
    match cs with
    | c :: r =>
      if isCssSpace c then 1 + spaceLengthWithin fuel r
      else
        match commentLength cs with
        | some k => k + spaceLengthWithin fuel (cs.drop k)
        | none => 0
    | [] => 0

def spaceLength (cs : List Char) : Nat := spaceLengthWithin (cs.length + 1) cs

/-! ## Identifiers -/

/-- The length of a backslash escape at the head of a name: up to six hex digits and one white
space, or one character other than a line break, or a backslash at the very end. -/
def escapeLength : List Char → Option Nat
  | '\\' :: r =>
    let hs := (r.takeWhile isHex).take 6
    if hs.isEmpty then
      match r with
      | [] => some 1
      | c :: _ => if c = '\r' ∨ c = '\n' ∨ c = '\x0c' then none else some 2
    else some (1 + hs.length + oneSpaceLength (r.drop hs.length))
  | _ => none

def nameRunWithin : Nat → List Char → Nat
  | 0, _ => 0
  | fuel + 1, cs =>
    match cs with
    | c :: r =>
      if isNameChar c then 1 + nameRunWithin fuel r
      else
        match escapeLength cs with
        | some k => k + nameRunWithin fuel (cs.drop k)
        | none => 0
    | [] => 0

def nameRun (cs : List Char) : Nat := nameRunWithin (cs.length + 1) cs

def startsName (cs : List Char) : Bool :=
  match cs with
  | c :: _ => isNameStart c || (escapeLength cs).isSome
  | [] => false

/-- The length of a CSS identifier at the head: an optional `-` and a name start, or `--`,
then name characters; escapes count as name characters. -/
def identLength (cs : List Char) : Option Nat :=
  match cs with
  | '-' :: r =>
    if startsName r then some (1 + nameRun r)
    else
      match r with
      | '-' :: r' => some (2 + nameRun r')
      | _ => none
  | _ => if startsName cs then some (nameRun cs) else none

/-! ## Escapes -/

def hexValue (ds : List Char) : Nat :=
  ds.foldl (fun acc c =>
    let d := if isDigitChar c then c.toNat - '0'.toNat
      else if 'a' ≤ c ∧ c ≤ 'f' then c.toNat - 'a'.toNat + 10
      else c.toNat - 'A'.toNat + 10
    acc * 16 + d) 0

/-- The characters of a code point named by an escape (`charsOfCode`, so a surrogate stays a
lone one): U+FFFD for zero, and none past U+10FFFF. -/
def escapedChars (n : Nat) : Except ReadError (List Char) :=
  if n = 0 then .ok ['�']
  else if n > 0x10FFFF then .error .beyondUnicode
  else .ok (charsOfCode n)

/-- What an escape stands for, given the characters after its backslash: the characters it gives
and how many of the following characters it takes. A backslash that stands for itself (before a
line break in a name) gives itself and takes nothing; so does the end of the text, or a final
line feed, which give U+FFFD. -/
def escapeAfter (inString : Bool) (r : List Char) : Except ReadError (List Char × Nat) :=
  let hs := (r.takeWhile isHex).take 6
  if hs.isEmpty then
    match r with
    | [] => .ok (['�'], 0)
    | ['\n'] => .ok (['�'], 0)
    | c :: _ =>
      if c = '\r' ∨ c = '\n' ∨ c = '\x0c' then
        .ok (if inString then ([], newlineLength r) else (['\\'], 0))
      else .ok ([c], 1)
  else
    let after := r.drop hs.length
    let ws := oneSpaceLength after
    match (if inString ∨ ws > 0 then none else commentLength after) with
    | some k => .error (.hexWithComment (String.ofList (hs ++ after.take k)))
    | none => do
      let cs ← escapedChars (hexValue hs)
      return (cs, hs.length + ws)

def unescapeChars (inString : Bool) : List Char → Except ReadError (List Char)
  | [] => .ok []
  | '\\' :: r => do
    let (out, k) ← escapeAfter inString r
    let rest ← unescapeChars inString (r.drop k)
    return out ++ rest
  | c :: r => do
    let rest ← unescapeChars inString r
    return c :: rest
termination_by cs => cs.length
decreasing_by all_goals simp only [List.length_drop, List.length_cons]; omega

/-- The text an escaped name (or, with `inString`, the inside of a quoted string) stands for. -/
def unescape (inString : Bool) (cs : List Char) : Except ReadError String :=
  (unescapeChars inString cs).map String.ofList

/-! ## Values -/

/-- After an opening quote `q`: the length up to and including the closing quote. A backslash
takes the next character with it; a raw line break is refused. -/
def quotedRest (q : Char) : List Char → Option Nat
  | [] => none
  | '\\' :: _ :: r => (quotedRest q r).map (· + 2)
  | c :: r =>
    if c = q then some 1
    else if c = '\r' ∨ c = '\n' ∨ c = '\x0c' ∨ c = '\\' then none
    else (quotedRest q r).map (· + 1)

/-- The length of a quoted string at the head. -/
def quotedLength : List Char → Option Nat
  | '"' :: r => (quotedRest '"' r).map (· + 1)
  | '\'' :: r => (quotedRest '\'' r).map (· + 1)
  | _ => none

/-- The length of a value at the head: a quoted string or an identifier. -/
def valueLength (cs : List Char) : Option Nat := (quotedLength cs).orElse fun _ => identLength cs

def valueText (v : List Char) : Except ReadError String :=
  match v with
  | q :: _ => if q = '"' ∨ q = '\'' then unescape true ((v.drop 1).dropLast) else unescape false v
  | [] => .ok ""

def separatorLength (cs : List Char) : Option Nat :=
  let ws := spaceLength cs
  match cs.drop ws with
  | ',' :: r => some (ws + 1 + spaceLength r)
  | _ => none

/-- The values at the head, separated by commas with white space and comments around them:
the length of the list (without white space after it), or `none` when no value starts it. -/
def valueListLength (cs : List Char) : Option Nat :=
  (valueLength cs).map fun k => k + more cs.length (cs.drop k)
where
  /-- Further values, each after a comma. -/
  more : Nat → List Char → Nat
    | 0, _ => 0
    | fuel + 1, cs =>
      match separatorLength cs with
      | some s =>
        match valueLength (cs.drop s) with
        | some k => s + k + more fuel ((cs.drop s).drop k)
        | none => 0
      | none => 0

/-- The values of a comma list read loosely, with at most `fuel` steps: at each position a value
is taken, or a comma with white space and comments around it is passed, or one character is
skipped. -/
def valueTokensWithin : Nat → List Char → List (List Char)
  | 0, _ => []
  | fuel + 1, cs =>
    match cs with
    | [] => []
    | _ :: rest =>
      match valueLength cs with
      | some k => cs.take k :: valueTokensWithin fuel (cs.drop k)
      | none =>
        match separatorLength cs with
        | some k => valueTokensWithin fuel (cs.drop k)
        | none => valueTokensWithin fuel rest

/-- The values of a comma list read loosely. -/
def valueTokens (cs : List Char) : List (List Char) := valueTokensWithin (cs.length + 1) cs

def valueTexts (cs : List Char) : Except ReadError (List String) := (valueTokens cs).mapM valueText

/-! ## Positions -/

def digitsAt (cs : List Char) : List Char := cs.takeWhile isDigitChar

def decimalValue (ds : List Char) : Nat := ds.foldl (fun acc c => acc * 10 + (c.toNat - '0'.toNat)) 0

/-- A position formula: the positions `a * n + b` for `n ≥ 0` when `stepped`, the single
position `a` otherwise. -/
structure NthFormula where
  a : Int
  stepped : Bool
  b : Int
deriving DecidableEq, Repr, Inhabited

/-- An `an+b` at the head, case ignored: a sign, digits followed by `n` or not, or `n` alone,
and after an `n` an optional signed offset with white space and comments around the sign; the
formula and its length. -/
def nthFormulaAt (cs : List Char) : Option (NthFormula × Nat) :=
  let (neg, r, k0) : Bool × List Char × Nat := match cs with
    | '-' :: r => (true, r, 1)
    | '+' :: r => (false, r, 1)
    | r => (false, r, 0)
  let ds := digitsAt r
  let r1 := r.drop ds.length
  let isN (c : Char) : Bool := c = 'n' ∨ c = 'N'
  let signed (v : Nat) : Int := if neg then -(v : Int) else v
  match ds, r1 with
  | [], c :: r2 => if isN c then some (offsetAfter (signed 1) r2 (k0 + 1)) else none
  | [], [] => none
  | _ :: _, c :: r2 =>
    if isN c then some (offsetAfter (signed (decimalValue ds)) r2 (k0 + ds.length + 1))
    else some (⟨signed (decimalValue ds), false, 0⟩, k0 + ds.length)
  | _ :: _, [] => some (⟨signed (decimalValue ds), false, 0⟩, k0 + ds.length)
where
  /-- After the `n`: an optional offset `±digits` with white space and comments around the
  sign. -/
  offsetAfter (a : Int) (r : List Char) (k : Nat) : NthFormula × Nat :=
    let ws := spaceLength r
    match r.drop ws with
    | s :: r' =>
      if s = '+' ∨ s = '-' then
        let ws2 := spaceLength r'
        let ds := digitsAt (r'.drop ws2)
        if ds.isEmpty then (⟨a, true, 0⟩, k)
        else
          let b : Int := if s = '-' then -(decimalValue ds : Int) else decimalValue ds
          (⟨a, true, b⟩, k + ws + 1 + ws2 + ds.length)
      else (⟨a, true, 0⟩, k)
    | [] => (⟨a, true, 0⟩, k)

def nthAt (cs : List Char) : Option (NthFormula × Nat) :=
  match nthFormulaAt cs with
  | some r => some r
  | none =>
    let w4 := String.ofList ((cs.take 4).map Char.toLower)
    let w3 := String.ofList ((cs.take 3).map Char.toLower)
    if w4 = "even" then some (⟨2, true, 0⟩, 4)
    else if w3 = "odd" then some (⟨2, true, 1⟩, 3)
    else none

example : (unescape false "\\41 b".toList).toOption = some "Ab" ∧
    (unescape false "\\110000".toList).toOption = none := by
  decide +kernel

end Stencil.Css

import Stencil.Text.Case
/-!
# Language ranges

`:lang()` compares the language of an element with language ranges by extended filtering: the
range and the language tag are split into subtags at `-`, case ignored. The first subtags must
be equal, unless the range's is `*` (which needs a non-empty language). Each further subtag of
the range must then appear in the rest of the language tag, in order; the subtags of the
language skipped on the way must not be single characters. Wildcards after the first subtag
match anything and are dropped before the comparison. The empty range matches the empty
language only.

* `stripWildcards` : the range without its inner wildcards.
* `restMatches` : the subtags after the first.
* `languageMatches` : a language tag is in a range.
-/

namespace Stencil.Css

open Stencil.Text

def endsAt (cs : List Char) : Bool := cs.isEmpty || cs == ['\n']

def dropWildcardRun : List Char → List Char
  | '*' :: '-' :: r => dropWildcardRun r
  | '*' :: r => if endsAt r then r else '*' :: r
  | r => r

/-- A range with `-*-` (and the wildcards right after it) and a final `-*` each replaced by one
`-`, with at most `fuel` steps. -/
def stripWildcardsWithin : Nat → List Char → List Char
  | 0, cs => cs
  | fuel + 1, cs =>
    match cs with
    | '-' :: '*' :: '-' :: r => '-' :: stripWildcardsWithin fuel (dropWildcardRun r)
    | '-' :: '*' :: r =>
      if endsAt r then '-' :: stripWildcardsWithin fuel r
      else '-' :: stripWildcardsWithin fuel ('*' :: r)
    | c :: r => c :: stripWildcardsWithin fuel r
    | [] => []

/-- A range without its wildcards after the first subtag. -/
def stripWildcards (cs : List Char) : List Char := stripWildcardsWithin (cs.length + 1) cs

def dashPieces : List Char → List (List Char)
  | [] => [[]]
  | c :: r =>
    match dashPieces r with
    | [] => [[c]]
    | p :: ps => if c = '-' then [] :: p :: ps else (c :: p) :: ps

def subtags (s : String) : List String := (dashPieces (lowerText s).toList).map String.ofList

/-- The subtags of a range after the first appear in order among the subtags of a language after
its first; a skipped subtag of the language must have more than one character, and an empty
subtag of the range matches nothing. -/
def restMatches : List String → List String → Bool
  | [], _ => true
  | _ :: _, [] => false
  | r :: rs, s :: ss =>
    if r.isEmpty then false
    else if s = r then restMatches rs ss
    else if s.length = 1 then false
    else restMatches (r :: rs) ss

/-- A language tag is in a language range. -/
def languageMatches (range tag : String) : Bool :=
  let rs := subtags (String.ofList (stripWildcards range.toList))
  let ss := subtags tag
  match rs, ss with
  | [r], [s] => (r.isEmpty && r == s) || ((r == "*" || r == s) && !(r == "*" && s.isEmpty))
  | r :: rs', s :: ss' =>
    !((r != "*" && r != s) || (r == "*" && ss'.isEmpty && s.isEmpty)) && restMatches rs' ss'
  | _, _ => false

example : languageMatches "de-DE" "de-Latn-DE" = true ∧
    languageMatches "de-DE" "de-x-DE" = false ∧
    languageMatches "*-DE" "de-DE" = true ∧
    languageMatches "*" "" = false := by
  decide +kernel

end Stencil.Css

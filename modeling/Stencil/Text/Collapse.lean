/-!
# Collapsing white space

Template text is tidied by collapsing runs of layout characters: space, tab, carriage return,
form feed, newline and the zero-width space. Three substitutions do it, one after the other,
each scanning the text from the left and replacing every match it meets:

1. a layout character and the layout characters other than newlines after it become that first
   character (`keepRunHead`);
2. a layout character other than a newline is dropped in front of a newline
   (`dropBeforeNewline`);
3. a run of newlines becomes one newline (`oneNewline`).

Together they replace every maximal run of layout characters by one newline when it holds one,
and by its first character otherwise (`collapseChars`). The vertical tab and other separators
are kept.

* `isLayout`, `isInlineLayout` : the characters that are collapsed, and those among them other
  than the newline.
* `substitute` : one left-to-right substitution pass.
* `collapseLayout` : the three passes in turn.
* `collapseChars` : every maximal run of layout characters replaced at once.
-/

namespace Stencil.Text

/-- The characters that collapsing treats as layout. -/
def isLayout (c : Char) : Bool :=
  c = ' ' ∨ c = '\t' ∨ c = '\r' ∨ c = '\x0c' ∨ c = '\n' ∨ c = '​'

/-- The layout characters other than the newline: those a run takes after its first character. -/
def isInlineLayout (c : Char) : Bool :=
  c = ' ' ∨ c = '\t' ∨ c = '\r' ∨ c = '\x0c' ∨ c = '\u200B'

/-- One substitution pass, from the left. `attempt c r` tries the pattern at the character `c`
followed by the text `r`: it fails, or it matches `c` and the first `n` characters of `r` and
gives their replacement. Where the pattern matches, the replacement is put and the scan goes on
after the match; elsewhere the character is kept and the scan goes on after it. -/
def substitute (attempt : Char → List Char → Option (List Char × Nat)) : List Char → List Char
  | [] => []
  | c :: r =>
    match attempt c r with
    | some (out, n) => out ++ substitute attempt (r.drop n)
    | none => c :: substitute attempt r
termination_by cs => cs.length
decreasing_by all_goals simp only [List.length_drop, List.length_cons]; omega

/-- A layout character and the layout characters other than newlines after it, replaced by that
first character. -/
def keepRunHead (c : Char) (r : List Char) : Option (List Char × Nat) :=
  if isLayout c then some ([c], (r.takeWhile isInlineLayout).length) else none

/-- A layout character other than a newline, directly in front of a newline, replaced by the
newline. -/
def dropBeforeNewline (c : Char) (r : List Char) : Option (List Char × Nat) :=
  if isInlineLayout c ∧ r.head? = some '\n' then some (['\n'], 1) else none

/-- A run of newlines replaced by one newline. -/
def oneNewline (c : Char) (r : List Char) : Option (List Char × Nat) :=
  if c = '\n' then some (['\n'], (r.takeWhile (· == '\n')).length) else none

/-- Text with every run of layout characters collapsed: the three substitutions in turn. -/
def collapseLayout (s : String) : String :=
  String.ofList (substitute oneNewline (substitute dropBeforeNewline (substitute keepRunHead s.toList)))

def runText (c : Char) (run : List Char) : Char := if run.contains '\n' then '\n' else c

/-- Every maximal run of layout characters replaced by one newline when it holds one, and by its
first character otherwise. -/
def collapseChars : List Char → List Char
  | [] => []
  | c :: r =>
    if isLayout c then
      let run := r.takeWhile isLayout
      runText c (c :: run) :: collapseChars (r.dropWhile isLayout)
    else c :: collapseChars r
termination_by cs => cs.length
decreasing_by
  · have : (r.dropWhile isLayout).length ≤ r.length := (List.dropWhile_suffix _).length_le
    simp only [List.length_cons]; omega
  · simp only [List.length_cons]; omega

example : collapseLayout "a  \n  b" = "a\nb" ∧ collapseLayout "a\x0b\x0bb" = "a\x0b\x0bb" := by
  decide +kernel

end Stencil.Text

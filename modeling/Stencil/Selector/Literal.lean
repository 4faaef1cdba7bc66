import Stencil.Text.Blank
/-!
# Quoted literals

Keys and pseudo-class arguments may be quoted, with `"…"` or `'…'`. A quoted literal is read by
dropping the quotes and letting every backslash stand for the character after it. Text that is
not quoted at both ends with the same quote is taken as it stands, without its surrounding white
space.

* `unescape` : every backslash replaced by the character after it.
* `unquote` : the text a possibly quoted literal stands for.
-/

namespace Stencil.Selector

open Stencil.Text

/-- Every backslash that has a character after it is replaced by that character. -/
def unescape : List Char → List Char
  | '\\' :: c :: r => c :: unescape r
  | c :: r => c :: unescape r
  | [] => []

/-- The text a literal stands for: without its white space around; when it is then quoted at
both ends with the same quote, without the quotes and with its escapes read. -/
def unquote (s : String) : String :=
  let cs := trimBlankList s.toList
  match cs with
  | q :: rest@(_ :: _) =>
    if (q = '"' ∨ q = '\'') ∧ rest.getLast? = some q then
      String.ofList (unescape rest.dropLast)
    else String.ofList cs
  | _ => String.ofList cs

end Stencil.Selector

import Stencil.Text.Printable
import Stencil.Text.Surrogate
/-!
# Quoted literals of text

Text shown in a message is written as a quoted literal: in single quotes, or in double quotes
when it holds a single quote and no double quote. The chosen quote and the backslash are escaped
with a backslash; tab, newline and carriage return are written `\t`, `\n`, `\r`; every other
unprintable character is written by its code in lower-case hex, as `\xhh` below 256, `\uhhhh`
below 65536, and `\Uhhhhhhhh` above; a lone surrogate is written `\uhhhh`. The text is read by
its code points, so a character kept as a surrogate pair is written as the one character.

* `hexDigits` : a number in lower-case hex with a fixed width.
* `quoteText` : the quoted literal of a text; `quotePlain` of one of real characters.
-/

namespace Stencil.Text

/-- `n` in lower-case hex with `width` digits (more when it needs more). -/
def hexDigits (width n : Nat) : String :=
  let ds := Nat.toDigits 16 n
  String.ofList (List.replicate (width - ds.length) '0' ++ ds)

def escapeInLiteral (q : Char) (n : Nat) : String :=
  if n = q.toNat ∨ n = 92 then "\\" ++ String.singleton (Char.ofNat n)
  else if n = 9 then "\\t"
  else if n = 10 then "\\n"
  else if n = 13 then "\\r"
  else if isSurrogate n then "\\u" ++ hexDigits 4 n
  else if isPrintable (Char.ofNat n) then String.singleton (Char.ofNat n)
  else if n < 0x100 then "\\x" ++ hexDigits 2 n
  else if n < 0x10000 then "\\u" ++ hexDigits 4 n
  else "\\U" ++ hexDigits 8 n

/-- The quoted literal of a text, read by its code points. -/
def quoteText (s : String) : String :=
  let q := if s.contains '\'' ∧ !s.contains '"' then '"' else '\''
  String.singleton q ++ String.join ((codePoints s.toList).map (escapeInLiteral q)) ++ String.singleton q

/-- The quoted literal of a text of real characters (one that holds no kept surrogates). -/
def quotePlain (s : String) : String := quoteText (keepText s)

end Stencil.Text

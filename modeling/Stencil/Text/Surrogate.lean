/-!
# Lone surrogates in text

An escape in JSON, CSS, markup or YAML can name a UTF-16 surrogate code point (U+D800 to U+DFFF)
on its own. Such a lone surrogate is not a character, yet a text that holds one must stay
different from every other text and must be written back as the escape it came from.

A text keeps it as one of the last 2048 code points of plane 16 (U+10F800 to U+10FFFF, private
use), in the order of the surrogates. A real character of that range is then kept as the two
surrogates that UTF-16 writes it with, each kept the same way: its high half is U+DBFE or
U+DBFF. Reading the kept characters back pairs such a high half with a low half that follows
it; every other kept character is a lone surrogate. So every text of code points is kept
exactly, with one exception of no practical weight: a lone U+DBFE or U+DBFF directly followed by
a lone low surrogate reads back as the character the pair stands for.

* `surrogateChar` : the character that keeps a surrogate code point.
* `surrogateOf?` : the surrogate code point a character keeps, if any.
* `charsOfCode` : the characters that keep a code point.
* `codePoints` : the code points that characters keep.
* `keepText`, `releaseText` : a text of real characters in kept form, and back.
* `takeCodes`, `dropCodes` : a kept text cut after a number of code points.
-/

namespace Stencil.Text

def surrogateBase : Nat := 0x10F800

/-- The character that keeps the surrogate code point `n` (U+D800 ≤ n ≤ U+DFFF). -/
def surrogateChar (n : Nat) : Char := Char.ofNat (surrogateBase + (n - 0xD800))

/-- The surrogate code point that a character keeps, if it keeps one. -/
def surrogateOf? (c : Char) : Option Nat :=
  if surrogateBase ≤ c.toNat then some (c.toNat - surrogateBase + 0xD800) else none

def isSurrogate (n : Nat) : Bool := 0xD800 ≤ n && n ≤ 0xDFFF

/-- The characters that keep a code point (at most U+10FFFF): a surrogate its own character; a
code point from U+10F800 on the two characters of its UTF-16 pair; any other its character. -/
def charsOfCode (n : Nat) : List Char :=
  if isSurrogate n then [surrogateChar n]
  else if surrogateBase ≤ n then
    [surrogateChar (0xD800 + (n - 0x10000) / 0x400), surrogateChar (0xDC00 + (n - 0x10000) % 0x400)]
  else [Char.ofNat n]

/-- The code point that a character puts in front of the code points of the characters after
it: a kept high half U+DBFE or U+DBFF joins a lone low surrogate that starts them into the
character of the pair. -/
def pushCode (c : Char) (after : List Nat) : List Nat :=
  match surrogateOf? c, after with
  | some hi, lo :: more =>
    if 0xDBFE ≤ hi ∧ hi ≤ 0xDBFF ∧ isSurrogate lo ∧ 0xDC00 ≤ lo then
      (0x10000 + (hi - 0xD800) * 0x400 + (lo - 0xDC00)) :: more
    else hi :: after
  | some hi, [] => [hi]
  | none, _ => c.toNat :: after

def keptPair (c d : Char) : Bool :=
  match surrogateOf? c, surrogateOf? d with
  | some hi, some lo => 0xDBFE ≤ hi && hi ≤ 0xDBFF && 0xDC00 ≤ lo
  | _, _ => false

/-- The code points that characters keep: a kept high half U+DBFE or U+DBFF followed by a kept
low half is the character of the pair; any other kept character its surrogate. -/
def codePoints (cs : List Char) : List Nat := cs.foldr pushCode []

/-- The characters that keep the first `n` code points of a text. -/
def takeCodes : Nat → List Char → List Char
  | 0, _ => []
  | _, [] => []
  | _ + 1, [c] => [c]
  | n + 1, c :: d :: rest =>
    if keptPair c d then c :: d :: takeCodes n rest else c :: takeCodes n (d :: rest)

/-- The characters that keep a text after its first `n` code points. -/
def dropCodes : Nat → List Char → List Char
  | 0, cs => cs
  | _, [] => []
  | _ + 1, [_] => []
  | n + 1, c :: d :: rest => if keptPair c d then dropCodes n rest else dropCodes n (d :: rest)

def ofCodePoints (ns : List Nat) : String := String.ofList (ns.flatMap charsOfCode)

def codeLength (s : String) : Nat := (codePoints s.toList).length

/-- A text of real characters, such as one read from a file or a command line, in the form that
keeps lone surrogates: its characters from U+10F800 on become their UTF-16 pairs. -/
def keepText (s : String) : String := ofCodePoints (s.toList.map Char.toNat)

/-- A kept text as real characters, for writing out: pairs become their characters again and
a lone surrogate, which no encoding can write, becomes U+FFFD. -/
def releaseText (s : String) : String :=
  String.ofList ((codePoints s.toList).map fun n => if isSurrogate n then '\uFFFD' else Char.ofNat n)

example : codePoints (charsOfCode 0xD800 ++ charsOfCode 0xDC00) = [0xD800, 0xDC00] := by
  decide

end Stencil.Text

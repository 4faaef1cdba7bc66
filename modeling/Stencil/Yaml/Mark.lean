import Stencil.Text.Quote
/-!
# Places in a YAML text, and the errors found there

A YAML text is read as an array of its code points, as real characters; a `Mark` is a place in it, by offset, line and
column, all counted from zero. An error names what was being read and where it started (its
context), what went wrong and where, and sometimes a note. Its message shows each place as the
line around it with a caret under the place; a context at the same place as the problem is shown
once.

Before anything is read, the text is checked for characters YAML does not allow: controls other
than tab, line feed and carriage return (next line is allowed), surrogates, and the two
non-characters at the end of the basic plane.

* `Mark`, `Mark.describe` : a place and how a message shows it.
* `YamlError`, `YamlError.message` : what can go wrong, and its message.
* `firstUnacceptable?` : the first character YAML does not allow.
-/

namespace Stencil.Yaml

open Stencil.Text

/-- A place in the text: the offset of a character, its line and its column, from zero. -/
structure Mark where
  index : Nat
  line : Nat
  column : Nat
deriving Inhabited, BEq, Repr

def charAt (src : Array Char) (i : Nat) : Char := src[i]?.getD '\x00'

def isLineEnd (c : Char) : Bool :=
  c == '\x00' || c == '\r' || c == '\n' || c == '\x85' || c == '\u2028' || c == '\u2029'

def sourceName : String := "<unicode string>"

/-- Where the shown part of a line starts, walking back from `p`: at the line's start, or, when
that is 37 or more characters back, five characters after the point where the walk stopped
(the shown line then begins with ` ... `). -/
def snippetStart (src : Array Char) (p : Nat) : Nat → Nat × Bool
  | 0 => (0, false)
  | start + 1 =>
    if isLineEnd (charAt src start) then (start + 1, false)
    else if p - start ≥ 37 then (start + 5, true)
    else snippetStart src p start

/-- Where the shown part of a line ends, walking on from `p` (`fuel` bounds the walk): at the
line's end, or five characters before the point 37 characters on (the shown line then ends
with ` ... `). -/
def snippetEnd (src : Array Char) (p : Nat) : Nat → Nat → Nat × Bool
  | 0, stop => (stop, false)
  | fuel + 1, stop =>
    if stop > src.size || isLineEnd (charAt src stop) then (stop, false)
    else if stop + 1 - p ≥ 37 then (stop + 1 - 5, true)
    else snippetEnd src p fuel (stop + 1)

/-- The line around a mark, indented by four, and under it a caret at the mark's column with
the line number. -/
def Mark.snippet (src : Array Char) (m : Mark) : String :=
  let p := m.index
  let (start, cutHead) := snippetStart src p p
  let (stop, cutTail) := snippetEnd src p (src.size + 1) p
  let head := if cutHead then " ... " else ""
  let tail := if cutTail then " ... " else ""
  let body := keepText (String.ofList ((List.range (stop - start)).map fun k => charAt src (start + k)))
  "    " ++ head ++ body ++ tail ++ "\n" ++
    String.ofList (List.replicate (4 + (p - start) + head.length) ' ') ++
    "^ (line: " ++ toString (m.line + 1) ++ ")"

/-- A mark as messages show it: the source, line and column from one, and the snippet. -/
def Mark.describe (src : Array Char) (m : Mark) : String :=
  "  in \"" ++ sourceName ++ "\", line " ++ toString (m.line + 1) ++ ", column " ++
    toString (m.column + 1) ++ ":\n" ++ m.snippet src

/-- What can go wrong while reading YAML. -/
inductive YamlError where
  /-- A problem at a place, found while reading a construct that started at another place,
  with an optional note after it. -/
  | marked (context : Option String) (contextMark : Option Mark) (problem : String)
      (problemMark : Mark) (note : Option String)
  /-- A code point YAML does not allow, with its offset. -/
  | unacceptable (code : Nat) (position : Nat)
  /-- A scalar whose text cannot become a value of its type. -/
  | badValue (message : String)
  /-- A failure outside the loader's own error classes, with the class's name: a scalar so
  short that reading it runs past its end, a time shifted out of the calendar's range, a key
  that cannot be compared. -/
  | unexpected (kind : String) (message : String)
deriving Inhabited, Repr

/-- The message of an error in a text: the context and its place (unless the problem is at the
same line and column), the problem and its place, and the note, one per line. -/
def YamlError.message (src : Array Char) : YamlError → String
  | .marked context contextMark problem problemMark note =>
    let contextLines := match contextMark with
      | some cm =>
        if cm.line == problemMark.line && cm.column == problemMark.column then []
        else [cm.describe src]
      | none => []
    "\n".intercalate (context.toList ++ contextLines ++ [problem, problemMark.describe src] ++
      (note.filter (!·.isEmpty)).toList)
  | .unacceptable code position =>
    "unacceptable character #x" ++ hexDigits 4 code ++
      ": special characters are not allowed\n  in \"" ++ sourceName ++ "\", position " ++
      toString position
  | .badValue message => message
  | .unexpected _ message => message

def YamlError.kind : YamlError → String
  | .marked .. => "MarkedYAMLError"
  | .unacceptable .. => "ReaderError"
  | .badValue _ => "ValueError"
  | .unexpected kind _ => kind

/-- Code points YAML allows in a text: tab, line feed, carriage return, the printable ASCII
range, next line, and everything from U+00A0 on except surrogates, U+FFFE and U+FFFF. -/
def isAcceptable (n : Nat) : Bool :=
  n == 0x09 || n == 0x0A || n == 0x0D || (0x20 ≤ n && n ≤ 0x7E) || n == 0x85 ||
    (0xA0 ≤ n && n ≤ 0xD7FF) || (0xE000 ≤ n && n ≤ 0xFFFD) || 0x10000 ≤ n

/-- The first code point the text may not hold, with its offset. -/
def firstUnacceptable? (codes : List Nat) : Option YamlError :=
  match codes.zipIdx.find? (fun (n, _) => !isAcceptable n) with
  | some (n, i) => some (.unacceptable n i)
  | none => none

/-- The characters a text is read as: its code points, each a real character (the text holds no
lone surrogate once it is found acceptable). -/
def sourceOf (text : String) : Array Char := ((codePoints text.toList).map Char.ofNat).toArray

end Stencil.Yaml

/-!
# White space

The white space of the selector language, of dates and of configuration values is the white
space of Unicode: the separators of category `Zs` and the characters whose bidirectional class is
a paragraph, segment or white-space separator. Those are the ASCII controls tab to carriage return
and file to unit separator, the space, next line, no-break space and the few typographic spaces.

* `isBlank` : the class itself.
* `trimBlank` : a text without its leading and trailing white space.
* `splitBlank` : the words of a text.
-/

namespace Stencil.Text

/-- A character is white space when it lies in one of the ranges of the Unicode classes above. -/
def isBlank (c : Char) : Bool :=
  let n := c.toNat
  (0x09 ≤ n && n ≤ 0x0D) || (0x1C ≤ n && n ≤ 0x20) || n == 0x85 || n == 0xA0 ||
  n == 0x1680 || (0x2000 ≤ n && n ≤ 0x200A) || n == 0x2028 || n == 0x2029 ||
  n == 0x202F || n == 0x205F || n == 0x3000

def dropBlank (cs : List Char) : List Char := cs.dropWhile isBlank

def trimBlankList (cs : List Char) : List Char :=
  ((dropBlank cs).reverse.dropWhile isBlank).reverse

/-- A text without its leading and trailing white space. -/
def trimBlank (s : String) : String := String.ofList (trimBlankList s.toList)

def blankWordsList (cs : List Char) : List (List Char) :=
  let step := fun (acc : List (List Char) × List Char) (c : Char) =>
    if isBlank c then (if acc.2.isEmpty then acc else (acc.2.reverse :: acc.1, []))
    else (acc.1, c :: acc.2)
  let (done, cur) := cs.foldl step ([], [])
  (if cur.isEmpty then done else cur.reverse :: done).reverse

/-- The words of a text: its maximal runs without white space, in order. -/
def splitBlank (s : String) : List String := (blankWordsList s.toList).map String.ofList

end Stencil.Text

import Stencil.Markup.Forest
import Stencil.Markup.Scanner
/-!
# Building documents from events

A document is built from the reader's events with a stack of open elements. Text is collected
until the next tag, comment or other construct, and then becomes one string. A string of ASCII
white space alone becomes a single newline if it holds one, else a single space, unless a `pre`
or `textarea` element is open. Text directly inside `script`, `style`, `template`, `rt` or `rp`
is a string of that element's kind.

An end tag closes the most recent open element of its name, and every element opened after it;
with no such element open it does nothing. A void element is closed at once, and one later end
tag of its name is then ignored. Elements still open at the end are closed.

* `Builder` : the state of the build.
* `Builder.flush` : the collected text becomes a string.
* `Forest.parseDocument` : a new document from markup text.
-/

namespace Stencil.Markup

open Stencil.Text

/-- The state of a document being built. -/
structure Builder where
  forest : Forest
  /-- open elements, innermost first, the document last -/
  stack : List NodeId
  /-- text read since the last string was made -/
  pending : Array String
  /-- void elements closed at once, whose next end tag is ignored -/
  closedVoids : List String

namespace Builder

def current (b : Builder) : NodeId := b.stack.head?.getD ⟨0⟩

def openNames (b : Builder) : List String := b.stack.filterMap b.forest.name?

def isAsciiSpace (s : String) : Bool :=
  s.toList.all fun c => c = ' ' ∨ c = '\t' ∨ c = '\n' ∨ c = '\x0c' ∨ c = '\r'

/-- The collected text becomes a string of kind `kind` in the current node; plain text takes the
kind of the innermost open `script`, `style`, `template`, `rt` or `rp`. Nothing is made when no
text was collected (an empty text collected still counts). -/
def flushAs (b : Builder) (kind : StringKind) : Builder :=
  if b.pending.isEmpty then b
  else
    let s := String.join b.pending.toList
    let names := b.openNames
    let s :=
      if isAsciiSpace s ∧ !names.any keepsWhitespace then (if s.contains '\n' then "\n" else " ")
      else s
    let kind :=
      if kind = .text then
        match names.find? isStringContainer with
        | some n => StringKind.ofContainer n
        | none => .text
      else kind
    let (n, f) := b.forest.newString kind s
    { b with forest := f.appendChild b.current n, pending := #[] }

/-- The collected text becomes a plain (or container) text string. -/
def flush (b : Builder) : Builder := b.flushAs .text

def collect (b : Builder) (s : String) : Builder := { b with pending := b.pending.push s }

def openElement (b : Builder) (name : String) (attrs : List (String × String)) : Builder :=
  let b := b.flush
  let (n, f) := b.forest.add ⟨.element name attrs true, none, #[]⟩
  { b with forest := f.appendChild b.current n, stack := n :: b.stack }

def closeElement (b : Builder) (name : String) : Builder :=
  let b := b.flush
  let elements := b.stack.dropLast
  if elements.any (fun n => b.forest.name? n = some name) then
    let rest := b.stack.dropWhile (fun n => b.forest.name? n ≠ some name)
    { b with stack := rest.drop 1 }
  else b

def endTag (b : Builder) (name : String) : Builder :=
  if b.closedVoids.contains name then { b with closedVoids := b.closedVoids.erase name }
  else b.closeElement name

/-- Attributes with a missing value made empty; a repeated name keeps its first place and its
last value. -/
def attributeList (attrs : List (String × Option String)) : List (String × String) :=
  attrs.foldl (fun acc (k, v) =>
    let v := v.getD ""
    if acc.any (·.1 == k) then acc.map (fun (k', v') => if k' == k then (k', v) else (k', v'))
    else acc ++ [(k, v)]) []

def literal (b : Builder) (kind : StringKind) (s : String) : Builder :=
  (b.flush.collect s).flushAs kind

def step (b : Builder) : Event → Builder
  | .startTag name attrs selfClosing =>
    let b := b.openElement name (attributeList attrs)
    if selfClosing then b.endTag name
    else if voidElements.contains name then
      let b := b.closeElement name
      { b with closedVoids := b.closedVoids ++ [name] }
    else b
  | .endTag name => b.endTag name
  | .text s => b.collect s
  | .charRef code => b.collect (textCharRef code)
  | .entityRef name => b.collect (textEntityRef name)
  | .comment s => b.literal .comment s
  | .declaration s => b.literal .doctype (String.ofList (s.toList.drop 8))
  | .markedSection s =>
    if (s.toList.take 6).map Char.toUpper = "CDATA[".toList then b.literal .cdata (s.drop 6).toString
    else b.literal .declaration s
  | .instruction s => b.literal .instruction s

end Builder

/-- A new document holding the markup text, or the reader's refusal. -/
def Forest.parseDocument (f : Forest) (text : String) : Except ScanError (NodeId × Forest) := do
  let events ← scan text
  let (doc, f) := f.add ⟨.document, none, #[]⟩
  let b := events.foldl Builder.step ⟨f, [doc], #[], []⟩
  return (doc, b.flush.forest)

end Stencil.Markup

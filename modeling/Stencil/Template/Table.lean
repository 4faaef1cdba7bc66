import Stencil.Markup.Render
import Stencil.Template.Problem
import Stencil.Text.Blank
import Stencil.Text.Case
/-!
# The node table

Rendering repeats an element by cloning it: the first clone puts a placeholder span where the
element stood and takes the element out, so that every copy lands in front of the placeholder in
the order it was made. The element itself becomes a template and is never rendered. Removing a
template also removes its placeholder.

The texts of markup data can be wrapped into `<span class="text">` elements, so templates can
select them; every node is visited once per rendering.

* `NodeTable` : placeholders, templates and wrapped nodes of a rendering.
* `NodeTable.clone`, `NodeTable.cloneAfter` : copies of a template.
* `NodeTable.remove` : an element and its placeholder taken out.
* `NodeTable.wrapTexts` : texts under a node wrapped into spans.
-/

namespace Stencil.Template

open Stencil.Markup Stencil.Text

def placeholderMark : String := "template-placeholder"

def textSpanMark : String := "added-text-span"

/-- The bookkeeping of a rendering: each cloned element with its placeholder, the elements used
as templates, the nodes whose texts were wrapped, and the problems found. -/
structure NodeTable where
  placeholders : List (NodeId × NodeId)
  templates : List NodeId
  textsDone : List NodeId
  problems : Array Problem
deriving Inhabited

namespace NodeTable

def empty : NodeTable := ⟨[], [], [], #[]⟩

def placeholder? (t : NodeTable) (e : NodeId) : Option NodeId := t.placeholders.lookup e

def isTemplate (t : NodeTable) (e : NodeId) : Bool := t.templates.contains e

def size (t : NodeTable) : Nat := t.placeholders.length + t.templates.length + t.textsDone.length

def report (t : NodeTable) (f : Forest) (e : NodeId) (message : String) : NodeTable :=
  { t with problems := t.problems.push ⟨.structural, message, some (f.nodePath e)⟩ }

def markTemplate (t : NodeTable) (e : NodeId) : NodeTable :=
  if t.isTemplate e then t else { t with templates := t.templates ++ [e] }

/-- A copy of an element in front of its placeholder; the first clone puts the placeholder in
the element's place and takes the element out. None, with a problem, when the element is
detached before its first clone or its placeholder is detached. -/
def clone (t : NodeTable) (f : Forest) (e : NodeId) : Option NodeId × NodeTable × Forest :=
  let made : Option (NodeId × NodeTable × Forest) :=
    match t.placeholder? e with
    | some p => some (p, t, f)
    | none =>
      if (f.parent? e).isNone then none
      else
        let (p, f) := f.newElement e "span" [("data-tmp", placeholderMark)]
        let f := (f.insertBefore e p).detach e
        some (p, { t with placeholders := t.placeholders ++ [(e, p)] }, f)
  match made with
  | none => (none, t.report f e "Cannot clone a detached element", f)
  | some (p, t, f) =>
    if (f.parent? p).isNone then (none, t.report f e "Placeholder of a cloned element is detached", f)
    else
      let (c, f) := f.copyTree e
      (some c, t.markTemplate e, f.insertBefore p c)

/-- Another copy of a template right after `ref`; none, with a problem, when `ref` is detached. -/
def cloneAfter (t : NodeTable) (f : Forest) (e ref : NodeId) : Option NodeId × NodeTable × Forest :=
  if (f.parent? ref).isNone then (none, t.report f e "Cannot insert a copy after a detached element", f)
  else
    let (c, f) := f.copyTree e
    (some c, t.markTemplate e, f.insertAfter ref c)

/-- Take out an element and its placeholder. -/
def remove (t : NodeTable) (f : Forest) (e : NodeId) : NodeTable × Forest :=
  match t.placeholder? e with
  | some p => ({ t with placeholders := t.placeholders.filter (·.1 != e) }, (f.detach p).detach e)
  | none => (t, f.detach e)

def textsDoneAt (t : NodeTable) (n : NodeId) : Bool := t.textsDone.contains n

def markTextsDone (t : NodeTable) (n : NodeId) : NodeTable :=
  if t.textsDoneAt n then t else { t with textsDone := t.textsDone ++ [n] }

def alreadyWrapped (f : Forest) (n : NodeId) : Bool :=
  match f.parent? n with
  | none => false
  | some p =>
    lowerText (f.tagName p) == "span" &&
      ((splitBlank ((f.attr? p "class").getD "")).contains "text" || f.children p == [n])

/-- The texts under a node wrapped into spans, with at most `fuel` levels; the node, or the span
that took its place. -/
def wrapWithin (f : Forest) (t : NodeTable) : Nat → NodeId → NodeId × NodeTable × Forest
  | 0, n => (n, t, f)
  | fuel + 1, n =>
    if t.textsDoneAt n then (n, t, f)
    else
      let t := t.markTextsDone n
      if f.isText n then
        if (f.parent? n).isNone || alreadyWrapped f n then (n, t, f)
        else
          let (s, f) := f.newElement n "span" [("class", "text"), ("data-tmp", textSpanMark)]
          let f := (f.insertBefore n s).appendChild s n
          (s, t.markTextsDone s, f)
      else
        let (t, f) := (f.children n).foldl
          (fun (acc : NodeTable × Forest) c =>
            let (_, t, f) := wrapWithin acc.2 acc.1 fuel c
            (t, f)) (t, f)
        (n, t, f)

/-- The texts under a node wrapped into spans; the node, or the span that took its place. -/
def wrapTexts (t : NodeTable) (f : Forest) (n : NodeId) : NodeId × NodeTable × Forest :=
  wrapWithin f t f.depthBound n

end NodeTable

end Stencil.Template

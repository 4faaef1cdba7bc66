import Stencil.Markup.Forest
import Stencil.Text.Case
import Stencil.Text.Collapse
/-!
# Compressing templates

Before a template node is rendered, its comments are taken out and the runs of white space in
the texts directly under an element are collapsed (`collapseLayout`). Inside `pre`, `script`,
`style` and `textarea` white space matters and is kept. A text that collapsing changes is
replaced by a new plain text; texts that become empty stay, so texts keep their places.

* `compressText` : a text node with its white space collapsed.
* `compress` : a template node compressed; none when it was taken out.
-/

namespace Stencil.Template

open Stencil.Markup Stencil.Text

def sensitiveTags : List String := ["pre", "script", "style", "textarea"]

/-- A text node with its white space collapsed: the node itself when nothing changes, else a new
plain text put in its place. -/
def compressText (f : Forest) (n : NodeId) : NodeId × Forest :=
  let text := (f.stringContent? n).getD ""
  let collapsed := collapseLayout text
  if collapsed == text then (n, f)
  else
    let (r, f) := f.newString .text collapsed
    (r, if (f.parent? n).isSome then f.replaceWith n r else f)

/-- A template node compressed: a comment is taken out (and none is returned); the texts
directly under an element or document are compressed unless white space matters there. -/
def compress (f : Forest) (n : NodeId) : Option NodeId × Forest :=
  if f.isComment n then (none, f.detach n)
  else if (f.isElement n || f.isDocument n) && !sensitiveTags.contains (lowerText (f.tagName n)) then
    (some n, (f.children n).foldl (fun g c => if g.isText c then (compressText g c).2 else g) f)
  else (some n, f)

end Stencil.Template

import Stencil.Markup.NodeId
/-!
# Nodes of markup documents

A document holds elements and strings. Strings come in kinds: ordinary text, the text of
`script`, `style`, `template`, `rt` and `rp` elements (each its own kind), and the literal
kinds — comments, CDATA sections, processing instructions, declarations and doctypes — that are
written back exactly as read.

An element remembers whether a document made it (`built`). Only such elements know that they are
void (written `<br/>` when empty) and which kinds of strings count as their text; an element
made on its own is never void and counts every string.

* `StringKind`, `NodeKind`, `Node` : the vocabulary.
* `voidElements`, `StringKind.ofContainer` : the element names with rules of their own.
* `NodeKind.countsAsText` : which strings an element's text is made of.
-/

namespace Stencil.Markup

/-- The kinds of strings in a document. -/
inductive StringKind where
  | text
  | script
  | stylesheet
  | template
  | rubyText
  | rubyParen
  | comment
  | cdata
  | instruction
  | declaration
  | doctype
deriving DecidableEq, Repr, Inhabited

def StringKind.isText : StringKind → Bool
  | .text | .script | .stylesheet | .template | .rubyText | .rubyParen => true
  | _ => false

/-- The kind of the text read directly inside an element of this name. -/
def StringKind.ofContainer (name : String) : StringKind :=
  match name with
  | "script" => .script
  | "style" => .stylesheet
  | "template" => .template
  | "rt" => .rubyText
  | "rp" => .rubyParen
  | _ => .text

def isStringContainer (name : String) : Bool := StringKind.ofContainer name != .text

/-- Elements written without an end tag when they are empty. -/
def voidElements : List String :=
  ["area", "base", "br", "col", "embed", "hr", "img", "input", "keygen", "link", "menuitem",
   "meta", "param", "source", "track", "wbr", "basefont", "bgsound", "command", "frame", "image",
   "isindex", "nextid", "spacer"]

def keepsWhitespace (name : String) : Bool := name = "pre" ∨ name = "textarea"

/-- What a node is. Attributes are in the order they were set. -/
inductive NodeKind where
  | document
  | element (name : String) (attrs : List (String × String)) (built : Bool)
  | string (kind : StringKind) (content : String)
deriving DecidableEq, Repr, Inhabited

/-- A node: what it is, its parent and its children. -/
structure Node where
  kind : NodeKind
  parent : Option NodeId
  children : Array NodeId
deriving Repr

instance : Inhabited Node := ⟨⟨.string .text "", none, #[]⟩⟩

/-- Whether a string of kind `k` is part of the text of a node of kind `n`: ordinary text and
CDATA for documents and most elements, the element's own kind inside `script`, `style`,
`template`, `rt` and `rp`, and every string for an element made on its own. -/
def NodeKind.countsAsText (n : NodeKind) (k : StringKind) : Bool :=
  match n with
  | .element name _ true =>
    if isStringContainer name then k = StringKind.ofContainer name else k = .text ∨ k = .cdata
  | .element _ _ false => true
  | _ => k = .text ∨ k = .cdata

def NodeKind.isVoid : NodeKind → Bool
  | .element name _ true => voidElements.contains name
  | _ => false

end Stencil.Markup

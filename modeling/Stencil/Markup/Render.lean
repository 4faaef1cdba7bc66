import Stencil.Markup.Forest
/-!
# Writing markup and reading text

Markup is written with attributes in alphabetical order as `name="value"`; `&`, `<` and `>` are
escaped in attribute values and in text (but not in text directly inside `script` or `style`).
A value holding `"` is quoted with `'` instead, and with `&quot;` when it holds both quotes.
An empty void element is written `<br/>`. Literal strings are written with their delimiters:
`<!--…-->`, `<![CDATA[…]]>`, `<?…>`, `<?…?>` for declarations, and `<!DOCTYPE …>` followed by a
newline.

The text of a node is its strings that count as text (`NodeKind.countsAsText`), in document
order. The path of a node names its element ancestors from the top, each with its place among
its parent's children.

* `escapeMarkup`, `quoteAttribute` : the escapes.
* `Forest.render` : the markup of a node.
* `Forest.serialize` : a node as text: markup, or the string itself for a string node.
* `Forest.textOf` : the text of a node.
* `Forest.nodePath` : the path of a node.
-/

namespace Stencil.Markup

/-- `&`, `<` and `>` escaped. -/
def escapeMarkup (s : String) : String :=
  String.join (s.toList.map fun c =>
    match c with
    | '&' => "&amp;"
    | '<' => "&lt;"
    | '>' => "&gt;"
    | c => String.singleton c)

/-- An escaped attribute value in quotes: `"` unless the value holds `"` and no `'`, and with
`&quot;` for `"` when it holds both. -/
def quoteAttribute (v : String) : String :=
  if v.contains '"' then
    if v.contains '\'' then "\"" ++ v.replace "\"" "&quot;" ++ "\"" else "'" ++ v ++ "'"
  else "\"" ++ v ++ "\""

def attributeText (attrs : List (String × String)) : String :=
  let sorted := attrs.mergeSort fun a b => a.1 ≤ b.1
  String.join (sorted.map fun (k, v) => " " ++ k ++ "=" ++ quoteAttribute (escapeMarkup v))

def literalText (k : StringKind) (s : String) : String :=
  match k with
  | .comment => "<!--" ++ s ++ "-->"
  | .cdata => "<![CDATA[" ++ s ++ "]]>"
  | .instruction => "<?" ++ s ++ ">"
  | .declaration => "<?" ++ s ++ "?>"
  | .doctype => "<!DOCTYPE " ++ s ++ ">\n"
  | _ => s

namespace Forest

def renderWithin (f : Forest) : Nat → NodeId → String
  | 0, _ => ""
  | fuel + 1, n =>
    let inner := fun () => String.join ((f.children n).map (f.renderWithin fuel))
    match f.kind n with
    | .document => inner ()
    | .element name attrs built =>
      if (f.children n).isEmpty ∧ (NodeKind.element name attrs built).isVoid then
        "<" ++ name ++ attributeText attrs ++ "/>"
      else "<" ++ name ++ attributeText attrs ++ ">" ++ inner () ++ "</" ++ name ++ ">"
    | .string k s =>
      if k.isText then
        let raw : Bool := match f.parent? n with
          | some p => f.name? p == some "script" || f.name? p == some "style"
          | none => false
        if raw then s else escapeMarkup s
      else literalText k s

/-- The markup of a node. -/
def render (f : Forest) (n : NodeId) : String := f.renderWithin f.depthBound n

def renderChildren (f : Forest) (n : NodeId) : String := String.join ((f.children n).map f.render)

/-- A node as text: the string itself for a string node, else its markup. -/
def serialize (f : Forest) (n : NodeId) : String := (f.stringContent? n).getD (f.render n)

/-- The text of a node: a text string itself; for a document or element, its strings that count
as text, in document order; nothing for other nodes. -/
def textOf (f : Forest) (n : NodeId) : String :=
  match f.kind n with
  | .string k s => if k.isText then s else ""
  | .element .. | .document =>
    let k := f.kind n
    String.join ((f.descendants n).filterMap fun d =>
      match f.kind d with
      | .string sk s => if k.countsAsText sk then some s else none
      | _ => none)

def pathStep (f : Forest) (n : NodeId) : String :=
  let i := match f.parent? n with
    | some p => (f.indexOf? p n).getD 0
    | none => 0
  f.tagName n ++ "#" ++ toString i

/-- The path of a node: its element ancestors and itself (if an element), from the top, each as
`name#place`, joined by `/`. -/
def nodePath (f : Forest) (n : NodeId) : String :=
  let chain := (n :: f.ancestors n).filter f.isElement
  "/".intercalate (chain.reverse.map f.pathStep)

def language? (f : Forest) (n : NodeId) : Option String :=
  (n :: f.ancestors n).findSome? fun a =>
    match f.attr? a "lang" with
    | some l => if l.isEmpty then none else some l
    | none => none

end Forest

end Stencil.Markup

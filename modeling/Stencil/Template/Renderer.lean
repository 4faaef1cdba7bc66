import Stencil.Display.Value
import Stencil.Markup.Build
import Stencil.Select.Location
import Stencil.Template.Directive
import Stencil.Template.Problem
import Stencil.Text.Collapse
/-!
# Renderers

A renderer turns a data value into changes of a target element. Renderers run in a chain: one
that stops ends the chain; one that continues may pass a new value on; one that fails is
recorded as a problem and the chain goes on with the value it had. A renderer that would write
an integer too long for decimal text fails. After all renderers, the
terminal one passes the value on unchanged.

The built-in renderers, in chain order:

* `date`: a key ending in `Date` or `date` and a value that reads as a day: the day, written in
  the pattern of the element's language, becomes the element's text;
* `url`: the key `url` and a nonempty text: it goes into the first nonempty `href`, `action` or
  `src` attribute;
* `formControl`: `input`, `select`, `option`, `button` get the value as their `value`
  attribute (a checkbox keeps its own), a `textarea` as its text;
* `image`: an `img` gets the value as its `src`;
* `text`: a text, number or boolean becomes the element's text;
* `tree`: a markup value merges its attributes and texts into the element (or its inner markup,
  with the `inner` option) and is passed on.

* `Reply`, `RenderStep` : what a renderer answers, and what the chain gives.
* `Renderer` : a renderer, any function of a request; the built-in ones.
* `runChain` : a chain of renderers.
-/

namespace Stencil.Template

open Stencil.Markup Stencil.Text Stencil.Select

/-- What a renderer asks for. -/
structure RenderRequest where
  element : NodeId
  value : Value
  key : Option String
  options : List String
  debug : Bool

/-- What a renderer answers: decline (no value, or the null value), pass the value it was given on,
pass another value on (what it returns when that is not a step), stop the chain (with the value
the step holds, if any), return a failed step, or raise a failure with a message. -/
inductive Reply where
  | decline
  | passOn
  | replace (v : Value)
  | stop (v : Option Value)
  | failed
  | fail (message : String)

/-- How a chain ends. -/
inductive Outcome where
  | proceed
  | stop
  | failed
deriving DecidableEq, Repr

def Outcome.name : Outcome → String
  | .proceed => "continue"
  | .stop => "stop"
  | .failed => "failed"

/-- The end of a chain: its outcome, the value passed on (none after a stop), and whether that
is the very value the chain was given. -/
structure RenderStep where
  outcome : Outcome
  value : Option Value
  sameAsInput : Bool

/-! ## Values -/

def isDateKey (key : String) : Bool :=
  let k := if key.endsWith "\n" then (key.dropEnd 1).toString else key
  k.endsWith "Date" || k.endsWith "date"

def formTags : List String := ["input", "select", "textarea", "option", "button"]

def urlAttributes : List String := ["href", "action", "src"]

/-! ## Built-in renderers -/

def renderDate (f : Forest) (r : RenderRequest) : Reply × Forest :=
  match r.key with
  | some k =>
    if !isDateKey k then (.decline, f)
    else
      match r.value with
      | .node _ | .bool _ => (.decline, f)
      | v =>
        if v.isFalsy then (.decline, f)
        else
          match v.formatDateIn f (f.language? r.element) with
          | some text => (.stop none, f.setText r.element text)
          | none => (.decline, f)
  | none => (.decline, f)

def renderUrl (f : Forest) (r : RenderRequest) : Reply × Forest :=
  match r.key, r.value with
  | some "url", .str s =>
    if s.isEmpty then (.decline, f)
    else
      match urlAttributes.find? (fun a => !((f.attr? r.element a).getD "").isEmpty) with
      | some a => (.stop none, f.setAttr r.element a s)
      | none => (.decline, f)
  | _, _ => (.decline, f)

def stopWithText (f : Forest) (v : Value) (change : String → Forest) : Reply × Forest :=
  match v.tryDisplay f with
  | .ok t => (.stop none, change t)
  | .error m => (.fail m, f)

def renderFormControl (f : Forest) (r : RenderRequest) : Reply × Forest :=
  let tag := lowerText (f.tagName r.element)
  match r.value with
  | .node _ => (.decline, f)
  | v =>
    if !formTags.contains tag then (.decline, f)
    else if tag == "textarea" then stopWithText f v (f.setText r.element)
    else
      let type := (f.attr? r.element "type").getD ""
      if type.isEmpty || lowerText type != "checkbox" then stopWithText f v (f.setAttr r.element "value")
      else (.stop none, f)

def renderImage (f : Forest) (r : RenderRequest) : Reply × Forest :=
  match r.value with
  | .node _ => (.decline, f)
  | v =>
    if lowerText (f.tagName r.element) != "img" then (.decline, f)
    else stopWithText f v (f.setAttr r.element "src")

def renderText (f : Forest) (r : RenderRequest) : Reply × Forest :=
  match r.value with
  | .node n => if f.isText n then (.stop none, f.setText r.element (r.value.display f)) else (.decline, f)
  | v => if v.isPrimitive then stopWithText f v (f.setText r.element) else (.decline, f)

def allowed (word : String) (inc exc : Option (List String)) : Bool :=
  let inOk := match inc with
    | some ws => ws.contains word || ws.contains "*"
    | none => true
  let exOk := match exc with
    | some ws => !(ws.contains word || ws.contains "*")
    | none => true
  inOk && exOk

/-- The comment that marks where merged markup came from: its element ancestors and its start
tag. -/
def sourceComment (f : Forest) (source : NodeId) : String :=
  let parents := match f.parent? source with
    | some p => ((p :: f.ancestors p).filter f.isElement).map fun n => lowerText (f.tagName n)
    | none => []
  let attrs := String.join ((f.attrs source).map fun (k, v) => " " ++ k ++ "=\"" ++ v ++ "\"")
  "dom2dom:" ++ "/".intercalate (parents.reverse ++ ["<" ++ lowerText (f.tagName source)]) ++ attrs ++ " >"

/-- The attributes of the source element merged into the element, as its `data-attributes`,
`data-exclude-attributes`, `data-class` and `data-exclude-class` allow; classes of the source
come before the element's own, and data attribute names are escaped. -/
def mergeAttributes (f : Forest) (e source : NodeId) : Forest :=
  let inc := wordList f e attributesName
  let exc := wordList f e excludeAttributesName
  let incClass := wordList f e className
  let excClass := wordList f e excludeClassName
  (f.attrs source).foldl (fun f (name, value) =>
    if !allowed name inc exc then f
    else
      let value := if name == "class" then
          " ".intercalate ((splitBlank value).filter (allowed · incClass excClass) ++
            splitBlank ((f.attr? e "class").getD ""))
        else value
      f.setAttr e (escapeName name) value) f

def copyText (f : Forest) (debug : Bool) (n : NodeId) : NodeId × Forest :=
  let s := (f.stringContent? n).getD ""
  f.newString .text (if debug then s else collapseLayout s)

/-- One child of the element in the first pass of `mergeTexts`, with the source texts still to
place and the last copy placed: a text gives way to a copy of the next source text, or is taken
out when none is left; other children stay. -/
def replaceTextStep (debug : Bool) (acc : Forest × List NodeId × Option NodeId) (target : NodeId) :
    Forest × List NodeId × Option NodeId :=
  let (f, rest, last) := acc
  if !f.isText target then acc
  else
    match rest with
    | s :: rest' =>
      let (r, f) := copyText f debug s
      ((f.insertBefore target r).detach target, rest', some r)
    | [] => (f.detach target, [], last)

/-- A source text left over, copied right after the last copy placed, or at the end of the
element `e` when none was. -/
def appendTextStep (e : NodeId) (debug : Bool) (acc : Forest × Option NodeId) (s : NodeId) :
    Forest × Option NodeId :=
  let (f, last) := acc
  let (r, f) := copyText f debug s
  match last with
  | some l => (f.insertAfter l r, some r)
  | none => (f.appendChild e r, some r)

/-- The texts of the source replace the element's texts one by one in their places; texts of the
element left over are taken out, and texts of the source left over go after the last replaced
one (or at the end). -/
def mergeTexts (f : Forest) (e source : NodeId) (debug : Bool) : Forest :=
  let sources := (f.children source).filter f.isText
  let (f, rest, last) := (f.children e).foldl (replaceTextStep debug) (f, sources, none)
  (rest.foldl (appendTextStep e debug) (f, last)).1

/-- The inner markup of the source, with `data-` escaped to `data-data-`, as the element's new
content; the element is emptied first, and stays empty when the markup is refused. -/
def replaceInner (f : Forest) (e source : NodeId) : Forest × Option ScanError :=
  let html := (f.renderChildren source).replace "data-" "data-data-"
  let f := f.clear e
  match f.parseDocument html with
  | .error err => (f, some err)
  | .ok (doc, f) => ((f.children doc).foldl (fun f c => f.appendChild e c) f, none)

/-- Markup data merged into the element: attributes of an element, then its inner markup (with
the `inner` option) or its texts (unless `data-exclude-texts` is set), and in debug mode a
comment saying where it came from; the value is passed on. -/
def renderTree (f : Forest) (r : RenderRequest) : Reply × Forest :=
  match r.value with
  | .node source =>
    if !(f.isElement source || f.isDocument source) then (.decline, f)
    else
      let comment := if r.debug then some (sourceComment f source) else none
      let f := if f.isElement source then mergeAttributes f r.element source else f
      let (f, refused) :=
        if r.options.contains "inner" then replaceInner f r.element source
        else if !flag (f.attr? r.element excludeTextsName) false then
          (mergeTexts f r.element source r.debug, none)
        else (f, none)
      match refused with
      | some err => (.fail err.message, f)
      | none =>
        match comment with
        | some c =>
          let (n, f) := f.newString .comment c
          (.passOn, f.insertChild r.element 0 n)
        | none => (.passOn, f)
  | _ => (.decline, f)

/-! ## Chains -/

/-- A renderer: its name in messages, and what it does to the document and answers for a
request. Any function is one; the built-in ones follow. -/
structure Renderer where
  name : String
  run : Forest → RenderRequest → Reply × Forest

def Renderer.date : Renderer := ⟨"render_date", renderDate⟩

def Renderer.url : Renderer := ⟨"render_url", renderUrl⟩

def Renderer.formControl : Renderer := ⟨"render_form_control", renderFormControl⟩

def Renderer.image : Renderer := ⟨"render_image", renderImage⟩

def Renderer.text : Renderer := ⟨"render_text", renderText⟩

def Renderer.tree : Renderer := ⟨"render_tree", renderTree⟩

def Renderer.terminal : Renderer := ⟨"render_terminal", fun f _ => (.passOn, f)⟩

def builtinRenderers : List Renderer := [.date, .url, .formControl, .image, .text, .tree]

/-- An entry of a list of renderers: a renderer, or a value that is none and cannot be called. -/
inductive ChainEntry where
  | renderer (r : Renderer)
  | uncallable (v : Value)

/-- The renderers of a list of entries, in order; an entry that cannot be called is dropped, with
a renderer problem that shows it. -/
def chainRenderers (f : Forest) (entries : List ChainEntry) : List Renderer × List Problem :=
  entries.foldl (fun (acc : List Renderer × List Problem) e =>
    match e with
    | .renderer r => (acc.1 ++ [r], acc.2)
    | .uncallable v =>
      (acc.1, acc.2 ++ [⟨.renderer, "Invalid renderer " ++ v.literal f ++ " is not callable and is ignored",
        none⟩])) ([], [])

/-- The step a single renderer gives for a request, whose value is the input; a null value is
no value. -/
def Reply.step (reply : Reply) (value : Value) : RenderStep :=
  match reply, value with
  | .decline, _ | .replace .null, _ | .passOn, .null => ⟨.proceed, none, false⟩
  | .passOn, v => ⟨.proceed, some v, true⟩
  | .replace v, _ => ⟨.proceed, some v, Value.same v value⟩
  | .stop none, _ | .stop (some .null), _ => ⟨.stop, none, false⟩
  | .stop (some v), _ => ⟨.stop, some v, Value.same v value⟩
  | .failed, _ => ⟨.failed, none, false⟩
  | .fail _, v => ⟨.failed, some v, true⟩

/-- A chain run over a request: each renderer is given the value so far; a stop ends the chain
with its step, a raised failure is recorded at the element's path, and a value passed on that is
not null replaces the value so far; the terminal renderer passes the last value on. -/
def runChain (f : Forest) (renderers : List Renderer) (r : RenderRequest) :
    RenderStep × Forest × List Problem :=
  let rec go : List Renderer → Value → Bool → Forest → List Problem → RenderStep × Forest × List Problem
    | [], v, same, f, ps =>
      match v with
      | .null => (⟨.proceed, none, false⟩, f, ps)
      | v => (⟨.proceed, some v, same⟩, f, ps)
    | x :: rest, v, same, f, ps =>
      let (reply, f) := x.run f { r with value := v }
      match reply with
      | .stop w => ((Reply.stop w).step r.value, f, ps)
      | .fail message =>
        go rest v same f (ps ++ [⟨.renderer, "Renderer " ++ x.name ++ " failed: " ++ message,
          some (f.nodePath r.element)⟩])
      | .decline | .passOn | .failed => go rest v same f ps
      | .replace w =>
        match w with
        | .null => go rest v same f ps
        | w => go rest w (Value.same w r.value) f ps
  go renderers r.value true f []

end Stencil.Template

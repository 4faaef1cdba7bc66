import Stencil.Css.FormState
import Stencil.Css.Language
import Stencil.Css.Range
import Stencil.Markup.Forest
import Stencil.Text.Bidi
import Stencil.Text.Blank
import Stencil.Text.Caseless
import Stencil.Text.Search
/-!
# Matching CSS selectors

Selectors are matched against the elements of a forest. A complex selector is matched from its
last compound leftwards: a child combinator looks at the parent, a descendant combinator at any
ancestor, `+` at the previous element sibling and `~` at any earlier one. The document itself
can stand as a parent or ancestor; it has the name `[document]` and no attributes. In a list
that stops at frames (`Selection.stops`, and the form states), parents and contents are not
looked for across an `iframe` element.

The simple selectors of a compound are tried in a fixed order, the first that fails deciding:
the type, `:defined`, `:root`, `:scope`, the text of `:placeholder-shown`, the positions,
`:empty`, ids, classes, attributes, the range of a value, `:lang()`, and the selector lists (all
of which are tried); then the relation to the compounds on the left; then the first submit
button, the radio group, `:dir()` and the texts. The order shows where matching can fail, and
in the language memo.

* `:root` is the first element of the document, or an element right inside an `iframe`, with
  no element, non-blank text or CDATA beside it.
* A position `an+b` is searched from the first position in range, stepping by `|a|`; the first
  position is found by moving from `b` towards the positions that exist, which for some formulas
  passes over the positions that fit (see `nthStart`).
* The language of an element is the nearest non-empty `lang` attribute up to a frame, else an
  empty one, else the `content-language` of the document's `meta` elements; once a document is
  found to have none, later lookups in the same run find the empty language (`LanguageMemo`).
* The direction of an element comes from its `dir` attribute, its text for `auto`, its value
  for text inputs, or its parent; the root element and telephone inputs are left to right.

* `MatchContext` : the forest, the root, the scope and whether to stop at frames.
* `Matching` : matching steps, with the language memo, that may fail.
* `matchesList` : an element matches a selector list.
* `selectAll` : the elements under a node that match, in document order.
-/

namespace Stencil.Css

open Stencil.Markup Stencil.Text

/-- What matching needs besides the selector: the forest, the root element, the scope, and
whether parents and contents are looked for across `iframe` elements. -/
structure MatchContext where
  forest : Forest
  root : Option NodeId
  scope : Option NodeId
  stops : Bool

/-- The context for a selection starting at `start`: the root is the top of its tree when that
is not a document, else the document's first element; the scope is `start`, or the root when
`start` is the document. -/
def MatchContext.ofStart (f : Forest) (start : NodeId) (stops : Bool) : MatchContext :=
  let top := f.top start
  let root := if f.isDocument top then (f.children top).find? f.isElement else some top
  let scope := if start = top ∧ f.isDocument top then root else some start
  ⟨f, root, scope, stops⟩

/-- How matching fails. -/
inductive MatchFailure where
  /-- a radio button right inside an `iframe` has no parent to find its form from -/
  | missingParent
  /-- a week bound or value whose year cannot be checked, with the message of the check -/
  | uncheckableWeek (message : String)
deriving DecidableEq, Repr

/-- The languages found in the `meta` elements of the document roots looked up so far, the
latest first; the empty language stands for a root that has none. -/
abbrev LanguageMemo := List (NodeId × String)

/-- A step of matching: it reads and extends the language memo, and may fail. -/
abbrev Matching := StateT LanguageMemo (Except MatchFailure)

/-! ## Reading elements -/

def nameOf (f : Forest) (n : NodeId) : String :=
  match f.kind n with
  | .element name .. => lowerAscii name
  | .document => "[document]"
  | _ => ""

def isTag (f : Forest) (n : NodeId) : Bool := f.isElement n || f.isDocument n

def isFrame (f : Forest) (n : NodeId) : Bool := f.isElement n && nameOf f n == "iframe"

def attrOf (f : Forest) (n : NodeId) (name : String) : Option String :=
  let key := lowerAscii name
  ((f.attrs n).find? fun (k, _) => lowerAscii k = key).map (·.2)

def words (s : String) : List String :=
  (s.split isCssSpace).toList.map (·.toString) |>.filter (· ≠ "")

def parentOf (f : Forest) (stops : Bool) (n : NodeId) : Option NodeId :=
  match f.parent? n with
  | some p => if stops && isFrame f p then none else some p
  | none => none

def parentChainWithin (f : Forest) (stops : Bool) : Nat → NodeId → List NodeId
  | 0, _ => []
  | fuel + 1, n =>
    match parentOf f stops n with
    | some p => p :: parentChainWithin f stops fuel p
    | none => []

def parentChain (f : Forest) (stops : Bool) (n : NodeId) : List NodeId :=
  parentChainWithin f stops f.depthBound n

def contentsOf (f : Forest) (stops : Bool) (n : NodeId) : List NodeId :=
  if stops && isFrame f n then [] else f.children n

/-- The nodes under a node in document order, with at most `fuel` levels; with `stops`, an
`iframe` is included but not what it holds. -/
def visibleWithin (f : Forest) (stops : Bool) : Nat → NodeId → List NodeId
  | 0, _ => []
  | fuel + 1, n => (contentsOf f stops n).flatMap fun c => c :: visibleWithin f stops fuel c

def visibleUnder (f : Forest) (stops : Bool) (n : NodeId) : List NodeId :=
  visibleWithin f stops f.depthBound n

def siblingsOf (f : Forest) (n : NodeId) : List NodeId :=
  match f.parent? n with
  | some p => f.children p
  | none => [n]

def elementsBefore (f : Forest) (n : NodeId) : List NodeId :=
  ((siblingsOf f n).takeWhile (· ≠ n)).reverse.filter (isTag f)

def elementsAfter (f : Forest) (n : NodeId) : List NodeId :=
  (((siblingsOf f n).dropWhile (· ≠ n)).drop 1).filter (isTag f)

def textsOf (f : Forest) (ns : List NodeId) : List String :=
  ns.filterMap fun d =>
    match f.kind d with
    | .string k s => if k.isText then some s else none
    | _ => none

def textUnder (f : Forest) (stops : Bool) (n : NodeId) : String :=
  String.join (textsOf f (visibleUnder f stops n))

def ownTexts (f : Forest) (n : NodeId) : List String := textsOf f (contentsOf f true n)

/-! ## Simple tests -/

/-- `s` is `v`, or `v` followed by one line feed (the end of a value may be before a final line
feed). -/
def endsAfter (s v : List Nat) : Bool := s = v ∨ s = v ++ [0x0A]

def isCssSpaceCode (n : Nat) : Bool := n = 0x20 ∨ n = 0x09 ∨ n = 0x0A ∨ n = 0x0D ∨ n = 0x0C

/-- The attribute test holds of a value. Texts are compared by their code points; without case,
characters are first replaced by their `caselessKey`. -/
def AttrTest.holds (t : AttrTest) (value : String) : Bool :=
  let fold (x : String) : List Nat :=
    codePoints (if t.caseless then caselessKeys x.toList else x.toList)
  let s := fold value
  let v := fold t.value
  match t.op with
  | .present => true
  | .equal => endsAfter s v
  | .startsWith => v.isPrefixOf s
  | .endsWith => v.isSuffixOf s ∨ (v ++ [0x0A]).isSuffixOf s
  | .containsText => occursIn v s
  | .dashPrefix => endsAfter s v ∨ (v ++ [0x2D]).isPrefixOf s
  | .word =>
    if v.isEmpty ∨ v.any isCssSpaceCode then false
    else
      (List.range (s.length + 1)).any fun i =>
        (i == 0 || (s[i - 1]?.map isCssSpaceCode).getD false) && v.isPrefixOf (s.drop i) &&
          (match s[i + v.length]? with
           | some c => isCssSpaceCode c
           | none => true)

def isRootOf (ctx : MatchContext) (n : NodeId) : Bool :=
  ctx.root == some n ||
    match ctx.forest.parent? n with
    | some p => isFrame ctx.forest p
    | none => false

def standsAlone (f : Forest) (n : NodeId) : Bool :=
  (siblingsOf f n).all fun s =>
    s == n ||
      match f.kind s with
      | .element .. | .document => false
      | .string .cdata _ => false
      | .string k t => !(k.isText && !(trimBlank t).isEmpty)

/-- The first position of an `an+b` search and its step, and the last position it may reach,
given the index `last` of the last of the parent's contents (elements and other nodes alike).
The first position starts from `b`: when `b` is out of range it moves by `|a|` towards the
positions that exist, stopping at the first position not below zero for `a > 0`, or for `a < 0`
at the first at most `last` (one more when that is zero); for `a < 0` it then takes the smallest
position still above zero. No search is made when the first position is out of range. -/
def nthStart (f : NthFormula) (last : Int) : Option (Int × Int × Int) :=
  let found (start step upper : Int) : Option (Int × Int × Int) :=
    if 1 ≤ start ∧ start ≤ last + 1 then some (start, step, upper) else none
  if !f.stepped then found f.a 0 f.a
  else if f.a = 0 then found f.b 0 f.b
  else if f.a > 0 then
    let a := f.a
    let b := f.b
    let c : Int := if b < 0 then (-b + a - 1) / a else if b = 0 then 1 else if b ≤ last then 0 else 1
    found (a * c + b) a (last + 1)
  else
    let m := -f.a
    let b := f.b
    if b ≤ 0 then none
    else
      let lowest : Int :=
        if b ≤ last then (b - 1) / m
        else
          let c0 := (b - last + m - 1) / m
          let i := b - m * c0
          if i ≥ 1 then (b - 1) / m else if i = 0 then c0 + 1 else c0
      found (b - m * lowest) m (min (last + 1) b)

/-- Where a search for positions stands: counting, with the siblings passed and the position
looked for, or decided. -/
inductive NthScan where
  | counting (passed target : Int)
  | decided (holds : Bool)

/-- The language of a node from its own and its ancestors' `lang` attributes, up to a frame:
the nearest non-empty one, else an empty one; with the top node reached. -/
def attributeLanguage (f : Forest) (n : NodeId) : Option String × NodeId :=
  let chain := n :: parentChain f true n
  let top := chain.getLast?.getD n
  let langs := chain.filterMap fun a => attrOf f a "lang"
  match langs.find? (· ≠ "") with
  | some l => (some l, top)
  | none => (langs.head?, top)

/-- The `content-language` of the `meta` elements in the `head` of the `html` element under a
top node: `none` when there is no such head; the empty language when the head has no such
`meta` element with a content. -/
def metaLanguage (f : Forest) (top : NodeId) : Option String :=
  let childNamed (p : NodeId) (name : String) : Option NodeId :=
    (contentsOf f true p).find? fun c => f.isElement c && nameOf f c == name
  (childNamed top "html").bind fun html => (childNamed html "head").map fun head =>
    let found := (f.children head).findSome? fun c =>
      if f.isElement c && nameOf f c == "meta" then
        let attrs := f.attrs c
        let declared := attrs.any fun (k, v) =>
          lowerAscii k == "http-equiv" && lowerAscii v == "content-language"
        match (attrs.find? fun (k, _) => lowerAscii k == "content").map (·.2) with
        | some content => if declared && content ≠ "" then some content else none
        | none => none
      else none
    found.getD ""

/-- The language of an element: from the attributes, or from the memo of the top node, or from
its `meta` elements, which the memo then keeps. -/
def languageOf (f : Forest) (n : NodeId) : Matching (Option String) := do
  let (l, top) := attributeLanguage f n
  match l with
  | some l => return some l
  | none =>
    match (← get).find? (·.1 == top) with
    | some (_, l) => return some l
    | none =>
      match metaLanguage f top with
      | some l =>
        modify ((top, l) :: ·)
        return if l.isEmpty then none else some l
      | none => return none

/-- The direction a `dir` value names: `some (some ltr)` for `ltr` and `rtl`, `some none` for
`auto`, `none` for anything else. -/
def namedDirection (v : String) : Option (Option Bool) :=
  match lowerAscii v with
  | "ltr" => some (some true)
  | "rtl" => some (some false)
  | "auto" => some none
  | _ => none

/-- The direction of an element's text, with at most `fuel` levels: the first strong direction
in its text strings, looking into child elements without a `dir` attribute of their own, except
`bdi`, `script`, `style`, `textarea` and `iframe`. -/
def contentDirection (f : Forest) : Nat → NodeId → Option Bool
  | 0, _ => none
  | fuel + 1, n =>
    (f.children n).findSome? fun c =>
      match f.kind c with
      | .element .. =>
        let skipped := ["bdi", "script", "style", "textarea", "iframe"].contains (nameOf f c)
        if skipped || ((attrOf f c "dir").bind namedDirection).isSome then none
        else contentDirection f fuel c
      | .string k s => if k.isText then textDirection? s else none
      | _ => none

def hasDirection (ctx : MatchContext) (ltr : Bool) : Nat → Option NodeId → Bool
  | 0, _ => false
  | _, none => false
  | fuel + 1, some n =>
    let f := ctx.forest
    let up := hasDirection ctx ltr fuel (parentOf f true n)
    let named := (attrOf f n "dir").bind namedDirection
    match named with
    | some (some d) => d == ltr
    | _ =>
      let auto := named.isSome
      let root := isRootOf ctx n
      let name := nameOf f n
      let kind := if name == "input" then lowerAscii ((attrOf f n "type").getD "") else ""
      if root && !auto then ltr
      else if name == "input" && kind == "tel" && !auto then ltr
      else if auto && (name == "textarea" ||
          (name == "input" && ["text", "search", "tel", "url", "email"].contains kind)) then
        let value := if name == "textarea" then String.join (ownTexts f n)
          else (attrOf f n "value").getD ""
        if !value.isEmpty then (textDirection? value).getD true == ltr
        else if root then ltr
        else up
      else if auto || (name == "bdi" && !auto) then
        match contentDirection f f.depthBound n with
        | some d => d == ltr
        | none => if root then ltr else up
      else up

def formOf (f : Forest) (n : NodeId) : Option NodeId :=
  (parentChain f true n).find? fun p => f.isElement p && nameOf f p == "form"

/-- The element is the first submit button of its form: the first `input` or `button` with type
`submit` under the form (not inside a frame), unless a nested `form` comes first. -/
def isDefaultButton (f : Forest) (n : NodeId) : Bool :=
  match formOf f n with
  | none => false
  | some form =>
    let first := (visibleUnder f true form).filter (f.isElement ·) |>.find? fun c =>
      nameOf f c == "form" ||
        ((nameOf f c == "input" || nameOf f c == "button") &&
          lowerAscii ((attrOf f c "type").getD "") == "submit")
    first == some n && nameOf f n != "form"

/-- The form of a radio button: its nearest `form` ancestor, or the highest ancestor up to a
frame; a button right inside a frame has none to start from. -/
def radioForm (f : Forest) (n : NodeId) : Except MatchFailure NodeId :=
  match parentOf f true n with
  | none => .error .missingParent
  | some p =>
    let chain := p :: parentChain f true p
    match chain.find? fun a => f.isElement a && nameOf f a == "form" with
    | some form => .ok form
    | none => .ok (chain.getLast?.getD p)

def isIndeterminate (f : Forest) (n : NodeId) : Except MatchFailure Bool := do
  let name := attrOf f n "name"
  let form ← radioForm f n
  let checked := (visibleUnder f true form).any fun c =>
    c != n && f.isElement c && nameOf f c == "input" &&
      (f.attrs c).any (fun (k, v) => lowerAscii k == "type" && lowerAscii v == "radio") &&
      (f.attrs c).any (fun (k, v) => lowerAscii k == "name" && some v == name) &&
      (f.attrs c).any (fun (k, _) => lowerAscii k == "checked") &&
      (match radioForm f c with
       | .ok g => g == form
       | .error _ => false)
  return !checked

def outOfRange (f : Forest) (n : NodeId) : Except MatchFailure (Option Bool) := do
  let kind := lowerAscii ((attrOf f n "type").getD "")
  let read (key : String) : Except MatchFailure (Option ControlValue) :=
    match attrOf f n key with
    | none => .ok none
    | some text => (controlValue? kind text).mapError .uncheckableWeek
  let lo ← read "min"
  let hi ← read "max"
  if lo.isNone && hi.isNone then return none
  let value ← read "value"
  let below (x y : ControlValue) : Bool := decide (x < y)
  match value with
  | none => return some false
  | some v =>
    if kind == "time" then
      match lo, hi with
      | some l, some h =>
        if below h l then return some (below v l && below h v)
        else return some (below v l || below h v)
      | _, _ => return some ((lo.map (below v ·)).getD false || (hi.map (below · v)).getD false)
    else if ["date", "datetime-local", "month", "week", "number", "range"].contains kind then
      return some ((lo.map (below v ·)).getD false || (hi.map (below · v)).getD false)
    else return some false

/-- The contents tests of a compound hold, the content read once for all of them: the text (or
the own text strings) of the element, by the first test. A test of own strings against the text
looks at its characters one by one; a test of the text against own strings looks for a string
equal to one of its texts. -/
def containsHold (f : Forest) (n : NodeId) (tests : List (List String × Bool)) : Bool :=
  match tests with
  | [] => true
  | (_, firstOwn) :: _ =>
    let own := ownTexts f n
    let whole := textUnder f true n
    tests.all fun (texts, isOwn) =>
      texts.any fun t =>
        match firstOwn, isOwn with
        | true, true => own.any fun x => occursIn (codePoints t.toList) (codePoints x.toList)
        | true, false => own.contains t
        | false, true => (codePoints whole.toList).any fun c => occursIn (codePoints t.toList) [c]
        | false, false => occursIn (codePoints t.toList) (codePoints whole.toList)

/-! ## Stages -/

/-- The stage at which a simple selector is tried; stages below `relationStage` come before the
relation to the left, the others after it. -/
def stageOf : Simple → Nat
  | .never => 0
  | .tag _ | .anyTag | .foreignTag => 1
  | .defined => 2
  | .root => 3
  | .scope => 4
  | .check .placeholderShown => 5
  | .nth .. => 6
  | .empty => 7
  | .id _ => 8
  | .cls _ => 9
  | .attr _ => 10
  | .check .inRange | .check .outOfRange => 11
  | .lang _ => 12
  | .anyOf .. | .noneOf .. | .has .. | .formState _ => 13
  | .check .defaultButton => 14
  | .check .indeterminate => 15
  | .direction _ => 16
  | .contains .. => 17

def relationStage : Nat := 14

def atStage (c : Compound) (k : Nat) : List Simple := c.filter (stageOf · == k)

def languageGroups (c : Compound) : List (List String) :=
  c.filterMap fun s => match s with
    | .lang ranges => some ranges
    | _ => none

def containsGroups (c : Compound) : List (List String × Bool) :=
  c.filterMap fun s => match s with
    | .contains texts own => some (texts, own)
    | _ => none

def holdsPlain (ctx : MatchContext) (s : Simple) (e : NodeId) : Except MatchFailure Bool :=
  let f := ctx.forest
  match s with
  | .never => .ok false
  | .tag name => .ok (name == "*" || nameOf f e == lowerAscii name)
  | .anyTag => .ok true
  | .foreignTag => .ok false
  | .defined =>
    let n := nameOf f e
    .ok (!n.contains '-' || n.contains ':')
  | .root => .ok (isRootOf ctx e && standsAlone f e)
  | .scope => .ok (ctx.scope == some e)
  | .check .placeholderShown =>
    let t := textUnder f false e
    .ok (t == "" || t == "\n")
  | .empty => .ok ((contentsOf f ctx.stops e).all fun c =>
      match f.kind c with
      | .element .. | .document => false
      | .string k t => !(k.isText && t.toList.any (fun ch => !isCssSpace ch)))
  | .id name => .ok ((attrOf f e "id").getD "" == name)
  | .cls name => .ok ((words ((attrOf f e "class").getD "")).contains name)
  | .attr t => .ok (match attrOf f e t.name with
      | some v => t.holds v
      | none => false)
  | .check .inRange => (outOfRange f e).map fun r => r == some false
  | .check .outOfRange => (outOfRange f e).map fun r => r == some true
  | .check .defaultButton => .ok (isDefaultButton f e)
  | .check .indeterminate => isIndeterminate f e
  | .direction ltr => .ok (hasDirection ctx ltr (f.depthBound + 1) (some e))
  | _ => .ok true

def allPlain (ctx : MatchContext) (ss : List Simple) (e : NodeId) : Matching Bool :=
  ss.allM fun s => liftM (holdsPlain ctx s e)

/-- The position of an element among its siblings (the siblings that pass `passes`; from the
end when the rule says so) fits the rule's formula. -/
def nthHolds (ctx : MatchContext) (rule : NthRule) (passes : NodeId → Matching Bool)
    (e : NodeId) : Matching Bool := do
  let f := ctx.forest
  if !(← passes e) then return false
  let sibs := siblingsOf f e
  let sibs := if rule.fromEnd then sibs.reverse else sibs
  match nthStart rule.formula ((sibs.length : Int) - 1) with
  | none => return false
  | some (start, step, upper) =>
    let scan ← sibs.foldlM (fun st x => do
      match st with
      | .decided b => return NthScan.decided b
      | .counting passed target =>
        if !isTag f x then return .counting passed target
        if !(← passes x) then return .counting passed target
        if rule.ofType && nameOf f x != nameOf f e then return .counting passed target
        let passed := passed + 1
        if passed == target then
          if x == e then return .decided true
          else if step > 0 && target + step ≤ upper then return .counting passed (target + step)
          else return .decided false
        else if x == e then return .decided false
        else return .counting passed target) (NthScan.counting 0 start)
    match scan with
    | .decided b => return b
    | .counting .. => return false

/-- The nodes a combinator leads to from `e`, leftwards: the parent, the ancestors, the previous
element sibling, or all earlier ones. -/
def leftOf (ctx : MatchContext) (k : Combinator) (e : NodeId) : List NodeId :=
  let f := ctx.forest
  match k with
  | .child => (parentOf f ctx.stops e).toList
  | .descendant => parentChain f ctx.stops e
  | .adjacent => (elementsBefore f e).take 1
  | .sibling => elementsBefore f e

/-- The nodes a combinator leads to from `e`, rightwards: the element children, the elements
under it, the next element sibling, or all later ones. -/
def rightOf (ctx : MatchContext) (k : Combinator) (e : NodeId) : List NodeId :=
  let f := ctx.forest
  match k with
  | .child => (contentsOf f ctx.stops e).filter f.isElement
  | .descendant => (visibleUnder f ctx.stops e).filter f.isElement
  | .adjacent => (elementsAfter f e).take 1
  | .sibling => elementsAfter f e

mutual

/-- The element matches one of the complex selectors (none of them, when `negated`). -/
def matchesList (ctx : MatchContext) : Nat → Bool → SelectorList → NodeId → Matching Bool
  | 0, _, _, _ => pure false
  | fuel + 1, negated, list, e => do
    let found ← list.anyM fun cx => matchesComplex ctx fuel cx.reverse e
    return (if negated then !found else found)

def matchesComplex (ctx : MatchContext) : Nat → List (Combinator × Compound) → NodeId → Matching Bool
  | 0, _, _ => pure false
  | fuel + 1, cx, e =>
    match cx with
    | [] => pure false
    | (k, c) :: rest => do
      if !(← compoundBefore ctx fuel c e) then return false
      if !rest.isEmpty then
        if !(← (leftOf ctx k e).anyM fun a => matchesComplex ctx fuel rest a) then return false
      compoundAfter ctx fuel c e

def matchesRight (ctx : MatchContext) : Nat → List (Combinator × Compound) → NodeId → Matching Bool
  | 0, _, _ => pure false
  | fuel + 1, chain, e =>
    match chain with
    | [] => pure true
    | (k, c) :: rest =>
      (rightOf ctx k e).anyM fun a => do
        if !(← compoundBefore ctx fuel c a) then return false
        if !rest.isEmpty then
          if !(← matchesRight ctx fuel rest a) then return false
        compoundAfter ctx fuel c a

/-- The stages of a compound before its relation hold: the plain tests and positions in order,
the languages, then every selector list. -/
def compoundBefore (ctx : MatchContext) : Nat → Compound → NodeId → Matching Bool
  | 0, _, _ => pure false
  | fuel + 1, c, e => do
    if !(← allPlain ctx (List.range 6 |>.flatMap (atStage c)) e) then return false
    if !(← (atStage c 6).allM fun s => nthOf ctx fuel s e) then return false
    if !(← allPlain ctx ([7, 8, 9, 10, 11].flatMap (atStage c)) e) then return false
    let groups := languageGroups c
    if !groups.isEmpty then
      match ← languageOf ctx.forest e with
      | none => return false
      | some l => if !(groups.all fun rs => rs.any (languageMatches · l)) then return false
    (atStage c 13).foldlM (fun acc s => do
      let r ← listOf ctx fuel s e
      return acc && r) true

/-- The stages of a compound after its relation hold: the form checks and the direction, then
the contents. -/
def compoundAfter (ctx : MatchContext) : Nat → Compound → NodeId → Matching Bool
  | 0, _, _ => pure false
  | _ + 1, c, e => do
    if !(← allPlain ctx ([14, 15, 16].flatMap (atStage c)) e) then return false
    return containsHold ctx.forest e (containsGroups c)

def nthOf (ctx : MatchContext) : Nat → Simple → NodeId → Matching Bool
  | 0, _, _ => pure false
  | fuel + 1, s, e =>
    match s with
    | .nth rule filter stops =>
      let inner := { ctx with stops := ctx.stops || stops }
      let passes (x : NodeId) : Matching Bool := match filter with
        | some l => matchesList inner fuel false l x
        | none => pure true
      nthHolds ctx rule passes e
    | _ => pure true

def listOf (ctx : MatchContext) : Nat → Simple → NodeId → Matching Bool
  | 0, _, _ => pure false
  | fuel + 1, s, e =>
    match s with
    | .anyOf stops l => matchesList { ctx with stops := ctx.stops || stops } fuel false l e
    | .noneOf stops l => matchesList { ctx with stops := ctx.stops || stops } fuel true l e
    | .has stops l =>
      l.anyM fun cx => matchesRight { ctx with stops := ctx.stops || stops } fuel cx e
    | .formState name => matchesList { ctx with stops := true } fuel false (formStateList name) e
    | _ => pure true

end

def matchFuel (f : Forest) (text : String) : Nat := 16 * (text.length + f.depthBound + 256)

/-- The elements under `start`, in document order, that match a selection read from `text`. -/
def selectAll (f : Forest) (start : NodeId) (text : String) (sel : Selection) :
    Except MatchFailure (List NodeId) :=
  let ctx := MatchContext.ofStart f start sel.stops
  ((f.descendants start).filter f.isElement |>.filterM
    (matchesList ctx (matchFuel f text) false sel.list)).run' []

def matchesSelection (f : Forest) (e : NodeId) (text : String) (sel : Selection) :
    Except MatchFailure Bool :=
  (matchesList (MatchContext.ofStart f e sel.stops) (matchFuel f text) false sel.list e).run' []

end Stencil.Css

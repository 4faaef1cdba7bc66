import Stencil.Css.Syntax
import Stencil.Text.Case
/-!
# Reading CSS selectors

A selector list is read token by token. At each position the first of these that fits is
taken: the `)` that closes a pseudo-class argument, a pseudo-class with an argument of its own
kind (`:contains(…)`, `:nth-child(…)`, `:nth-of-type(…)`, `:lang(…)`, `:dir(…)`), a custom
pseudo-class, any other pseudo-class, `&`, an id, a class, a type name, an attribute test, and a
combinator. Anything else is refused. A type name must come first in its compound; a combinator
needs a compound before it, and a list must not end after a combinator.

Tokens are found on the raw text; their escapes are read when the token is taken, so that of two
faults the one earlier in the text is reported. Pseudo-classes that take selector lists read them
recursively: `:not` (a list none of which may hold), `:is`, `:matches` and `:where` (which
forgive empty entries), `:has` (relative selectors), and the `of S` of `:nth-child`.
Pseudo-classes about user interaction are known but never hold; unknown ones are refused.

* `tokenAt` : the token at the head of the input.
* `parseSelectors` : a selector list, up to the `)` that closes it when it is an argument.
* `parseSelection` : a whole selector text.
-/

namespace Stencil.Css

open Stencil.Text

/-! ## Tokens -/

/-- What a token at the head of the input is, with its raw parts; lengths count the whole
token. -/
inductive Token where
  | close (len : Nat)
  /-- `:contains(…)` and its kin, with the raw text of the values -/
  | containsText (own : Bool) (values : List Char) (len : Nat)
  /-- `:nth-child(…` or `:nth-last-child(…`; with `ofList` a selector list follows, to be read
  up to its `)` -/
  | nthChild (formula : NthFormula) (fromEnd ofList : Bool) (len : Nat)
  | nthType (formula : NthFormula) (fromEnd : Bool) (len : Nat)
  /-- `:lang(…)`, with the raw text of the values -/
  | lang (values : List Char) (len : Nat)
  | dir (leftToRight : Bool) (len : Nat)
  /-- a custom pseudo-class `:--name`, with its raw name -/
  | custom (name : List Char)
  /-- a pseudo-class with its raw name (no colon), and whether an argument opens after it -/
  | pseudo (name : List Char) (opens : Bool) (len : Nat)
  | scope (len : Nat)
  | id (name : List Char) (len : Nat)
  | cls (name : List Char) (len : Nat)
  /-- a type selector: the raw namespace prefix before `|`, and the raw name (`*` for any) -/
  | tag (pre : Option (List Char)) (name : List Char) (len : Nat)
  /-- an attribute test: the raw namespace prefix, the raw name, and the comparison (whether it
  is `!=`), the raw value and the case flag (`true` to ignore case) -/
  | attr (pre : Option (List Char)) (name : List Char)
      (cmp : Option (AttrOp × Bool × List Char × Option Bool)) (len : Nat)
  | combine (c : Char) (len : Nat)
deriving Inhabited

def closeAt (cs : List Char) : Option Nat :=
  let ws := spaceLength cs
  match cs.drop ws with
  | ')' :: _ => some (ws + 1)
  | _ => none

/-- A combinator with the white space and comments around it: its character (a space for the
descendant combinator) and its length. White space before a combinator character belongs to
that combinator; other white space is a descendant combinator. -/
def combineAt (cs : List Char) : Option (Char × Nat) :=
  go (cs.length + 1) cs 0
where
  /-- Try the combinator after `pre` characters of white space and comments. -/
  go : Nat → List Char → Nat → Option (Char × Nat)
    | 0, _, _ => none
    | fuel + 1, cs, pre =>
      match cs with
      | c :: r =>
        if isCombinatorChar c then some (c, pre + 1 + spaceLength r)
        else if isCssSpace c ∧ !((r.head?.map isCombinatorChar).getD false) then
          some (' ', pre + 1 + spaceLength r)
        else if isCssSpace c then go fuel r (pre + 1)
        else
          match commentLength cs with
          | some k => go fuel (cs.drop k) (pre + k)
          | none => none
      | [] => none

def pseudoNameAt (cs : List Char) : Option (List Char × Nat) :=
  match cs with
  | ':' :: r => (identLength r).map fun k => (r.take k, k + 1)
  | _ => none

def pseudoName (raw : List Char) : Except ReadError String := do
  let s ← unescape false raw
  return ":" ++ lowerAscii s

/-- `of` with white space before and after it (comments may stand around the white space):
the length up to the selector list that follows. -/
def ofAt (cs : List Char) : Option Nat :=
  let ws1 := spaceLength cs
  let afterOf := cs.drop ws1
  if (cs.take ws1).any isCssSpace ∧ (afterOf.take 2).map Char.toLower = ['o', 'f'] then
    let rest := afterOf.drop 2
    let ws2 := spaceLength rest
    if (rest.take ws2).any isCssSpace then some (ws1 + 2 + ws2) else none
  else none

/-- The pseudo-classes with arguments of their own kind, when their argument fits; reading the
name of a pseudo-class with an argument may already fail. -/
def specialAt (cs : List Char) : Except ReadError (Option Token) :=
  match pseudoNameAt cs with
  | none => .ok none
  | some (raw, k) =>
    match cs.drop k with
    | '(' :: r => do
      let name ← pseudoName raw
      let ws := spaceLength r
      let body := r.drop ws
      let start := k + 1 + ws
      if name = ":contains" ∨ name = ":-soup-contains" ∨ name = ":-soup-contains-own" then
        return (valueListLength body).bind fun n =>
          (closeAt (body.drop n)).map fun c =>
            .containsText (name = ":-soup-contains-own") (body.take n) (start + n + c)
      else if name = ":nth-child" ∨ name = ":nth-last-child" then
        return (nthAt body).bind fun (f, n) =>
          let fromEnd := name = ":nth-last-child"
          match closeAt (body.drop n) with
          | some c => some (.nthChild f fromEnd false (start + n + c))
          | none => (ofAt (body.drop n)).map fun o => .nthChild f fromEnd true (start + n + o)
      else if name = ":nth-of-type" ∨ name = ":nth-last-of-type" then
        return (nthAt body).bind fun (f, n) =>
          (closeAt (body.drop n)).map fun c => .nthType f (name = ":nth-last-of-type") (start + n + c)
      else if name = ":lang" then
        return (valueListLength body).bind fun n =>
          (closeAt (body.drop n)).map fun c => .lang (body.take n) (start + n + c)
      else if name = ":dir" then
        let w := String.ofList ((body.take 3).map Char.toLower)
        if w = "ltr" ∨ w = "rtl" then
          return (closeAt (body.drop 3)).map fun c => .dir (w = "ltr") (start + 3 + c)
        else return none
      else return none
    | _ => .ok none

/-- An optional namespace prefix (`name|`, `*|` or `|`) at the head: the raw prefix and its
length. -/
def prefixAt (cs : List Char) : Option (List Char × Nat) :=
  match cs with
  | '*' :: '|' :: _ => some (['*'], 2)
  | '|' :: _ => some ([], 1)
  | _ =>
    (identLength cs).bind fun k =>
      match cs.drop k with
      | '|' :: _ => some (cs.take k, k + 1)
      | _ => none

def tagNameAt (cs : List Char) : Option (List Char × Nat) :=
  match cs with
  | '*' :: _ => some (['*'], 1)
  | _ => (identLength cs).map fun k => (cs.take k, k)

def tagAt (cs : List Char) : Option Token :=
  let withPrefix := (prefixAt cs).bind fun (p, k) =>
    (tagNameAt (cs.drop k)).map fun (t, n) => Token.tag (some p) t (k + n)
  withPrefix.orElse fun _ => (tagNameAt cs).map fun (t, n) => .tag none t n

/-- The comparison of an attribute test at the head: `=`, `~=`, `|=`, `^=`, `$=`, `*=` or `!=`,
with whether it is `!=`. -/
def attrOpAt (cs : List Char) : Option (AttrOp × Bool × Nat) :=
  match cs with
  | '=' :: _ => some (.equal, false, 1)
  | '~' :: '=' :: _ => some (.word, false, 2)
  | '|' :: '=' :: _ => some (.dashPrefix, false, 2)
  | '^' :: '=' :: _ => some (.startsWith, false, 2)
  | '$' :: '=' :: _ => some (.endsWith, false, 2)
  | '*' :: '=' :: _ => some (.containsText, false, 2)
  | '!' :: '=' :: _ => some (.equal, true, 2)
  | _ => none

/-- The rest of an attribute test after its name: nothing, or a comparison and a value with an
optional case flag; then white space and `]`. -/
def attrRestAt (cs : List Char) : Option (Option (AttrOp × Bool × List Char × Option Bool) × Nat) :=
  let ws := spaceLength cs
  match cs.drop ws with
  | ']' :: _ => some (none, ws + 1)
  | r =>
    (attrOpAt r).bind fun (op, negated, k) =>
      let r1 := r.drop k
      let ws2 := spaceLength r1
      let r2 := r1.drop ws2
      (valueLength r2).bind fun vk =>
        let r3 := r2.drop vk
        let ws3 := spaceLength r3
        let flag : Option (Bool × Nat) := match r3.drop ws3 with
          | c :: _ =>
            if c = 'i' ∨ c = 'I' then some (true, ws3 + 1)
            else if c = 's' ∨ c = 'S' then some (false, ws3 + 1)
            else none
          | [] => none
        let fk := match flag with
          | some (_, n) => n
          | none => 0
        let r4 := r3.drop fk
        let ws4 := spaceLength r4
        match r4.drop ws4 with
        | ']' :: _ =>
          some (some (op, negated, r2.take vk, flag.map (·.1)), ws + k + ws2 + vk + fk + ws4 + 1)
        | _ => none

/-- An attribute test `[…]` at the head. A name followed by `|` is first taken as a namespace
prefix. -/
def attrAt (cs : List Char) : Option Token :=
  match cs with
  | '[' :: r =>
    let ws := spaceLength r
    let r1 := r.drop ws
    let plain := (identLength r1).bind fun k =>
      (attrRestAt (r1.drop k)).map fun (cmp, n) => Token.attr none (r1.take k) cmp (1 + ws + k + n)
    let prefixed := (prefixAt r1).bind fun (p, pk) =>
      (identLength (r1.drop pk)).bind fun k =>
        (attrRestAt ((r1.drop pk).drop k)).map fun (cmp, n) =>
          Token.attr (some p) ((r1.drop pk).take k) cmp (1 + ws + pk + k + n)
    prefixed.orElse fun _ => plain
  | _ => none

/-- The token at the head of the input, trying the kinds in order; `none` when none fits. -/
def tokenAt (cs : List Char) : Except ReadError (Option Token) :=
  match closeAt cs with
  | some k => .ok (some (.close k))
  | none => do
  match ← specialAt cs with
  | some t => return some t
  | none =>
  match cs with
  | ':' :: '-' :: '-' :: r => return some (.custom ('-' :: '-' :: r.take (nameRun r)))
  | ':' :: ':' :: _ => return none
  | ':' :: _ =>
    return (pseudoNameAt cs).map fun (name, k) =>
      match cs.drop k with
      | '(' :: r => .pseudo name true (k + 1 + spaceLength r)
      | _ => .pseudo name false k
  | '&' :: _ => return some (.scope 1)
  | '@' :: _ => return none
  | '#' :: r => return (identLength r).map fun k => .id (r.take k) (k + 1)
  | '.' :: r => return (identLength r).map fun k => .cls (r.take k) (k + 1)
  | _ =>
    match tagAt cs with
    | some t => return some t
    | none =>
    match attrAt cs with
    | some t => return some t
    | none => return (combineAt cs).map fun (c, k) => .combine c k

/-! ## Selector lists -/

/-- What kind of selector list is being read. -/
structure ListKind where
  /-- an argument of a pseudo-class, ended by `)` -/
  argument : Bool
  /-- relative selectors, each led by a combinator -/
  relative : Bool
  /-- empty entries are allowed and never hold -/
  forgiving : Bool

/-- The state of a selector list being read. -/
structure ListState where
  /-- finished complex selectors -/
  done : Array Complex
  /-- finished compounds of the current complex selector -/
  chain : Array (Combinator × Compound)
  /-- simple selectors of the current compound -/
  parts : Array Simple
  /-- the combinator before the current compound -/
  lead : Combinator
  /-- the current compound has a simple selector -/
  started : Bool
  /-- a compound of the list has `:dir()` or `:defined` -/
  stops : Bool

def ListState.initial : ListState := ⟨#[], #[], #[], .descendant, false, false⟩

def ListState.add (st : ListState) (ss : List Simple) : ListState :=
  { st with parts := st.parts ++ ss.toArray, started := true }

def neverComplex : Complex := [(.descendant, [.never])]

def ListState.endComplex (st : ListState) : ListState :=
  { st with done := st.done.push (st.chain.push (st.lead, st.parts.toList)).toList,
            chain := #[], parts := #[], lead := .descendant, started := false }

def combinatorOf (c : Char) : Combinator :=
  if c = '>' then .child else if c = '+' then .adjacent else if c = '~' then .sibling else .descendant

def ListState.combine (kind : ListKind) (st : ListState) (c : Char) : Option ListState :=
  if kind.relative then
    if c = ',' then (if st.started then some st.endComplex else none)
    else if st.started then
      some { st with chain := st.chain.push (st.lead, st.parts.toList), parts := #[],
                     lead := combinatorOf c, started := false }
    else if st.lead = .descendant then some { st with lead := combinatorOf c }
    else none
  else if !st.started then
    if kind.forgiving ∧ c = ',' then
      some { st with done := st.done.push neverComplex, chain := #[], parts := #[] }
    else none
  else if c = ',' then some st.endComplex
  else
    some { st with chain := st.chain.push (st.lead, st.parts.toList), parts := #[],
                   lead := combinatorOf c, started := false }

/-- The end of a list: the current compound is finished; an empty list, or one ending after a
comma, is refused unless forgiving, when the empty entry never holds. -/
def ListState.finish (kind : ListKind) (st : ListState) : Option Selection :=
  if st.started then some ⟨st.endComplex.done.toList, st.stops⟩
  else if kind.forgiving ∧ (st.done.isEmpty ∨ st.chain.isEmpty) then
    some ⟨(st.done.push neverComplex).toList, st.stops⟩
  else none

/-- The position rule of `:first-child` and its kin: the first position, from the start or the
end, among all siblings or those of the same name. -/
def firstRule (ofType fromEnd : Bool) : Simple := .nth ⟨⟨1, false, 0⟩, ofType, fromEnd⟩ none false

def simplePseudo (name : String) : Option (List Simple) :=
  match name with
  | ":root" => some [.root]
  | ":scope" => some [.scope]
  | ":empty" => some [.empty]
  | ":defined" => some [.defined]
  | ":first-child" => some [firstRule false false]
  | ":last-child" => some [firstRule false true]
  | ":first-of-type" => some [firstRule true false]
  | ":last-of-type" => some [firstRule true true]
  | ":only-child" => some [firstRule false false, firstRule false true]
  | ":only-of-type" => some [firstRule true false, firstRule true true]
  | ":link" | ":any-link" | ":checked" | ":default" | ":indeterminate" | ":disabled" | ":enabled"
  | ":required" | ":optional" | ":read-only" | ":read-write" | ":in-range" | ":out-of-range"
  | ":placeholder-shown" => some [.formState name]
  | ":active" | ":current" | ":focus" | ":focus-visible" | ":focus-within" | ":future" | ":host"
  | ":hover" | ":local-link" | ":past" | ":paused" | ":playing" | ":target" | ":target-within"
  | ":user-invalid" | ":visited" => some [.never]
  | _ => none

def listPseudos : List String :=
  [":contains", ":-soup-contains", ":-soup-contains-own", ":has", ":is", ":matches", ":not", ":where"]

def neverListPseudos : List String := [":current", ":host", ":host-context"]

/-- The simple selector of a type selector. A namespace prefix other than `*` never matches:
documents read from markup have their elements in the markup namespace, and only the bound
prefix (`html`, when `bound`) names it. -/
def typeSelector (bound : Bool) (pre : Option String) (name : String) : Simple :=
  let base := if name = "*" then Simple.anyTag else .tag name
  match pre with
  | none => base
  | some p => if p = "*" ∨ (bound ∧ p = "html") then base else .foreignTag

/-- The simple selector of an attribute test. Without a case flag, case is ignored for the
`type` attribute only; `!=` holds where `=` does not. -/
def attributeSelector (name : String) (cmp : Option (AttrOp × Bool × String × Option Bool)) : Simple :=
  match cmp with
  | none => .attr ⟨name, .present, "", false⟩
  | some (op, negated, value, flag) =>
    let caseless := flag.getD (lowerAscii name = "type")
    let test : AttrTest := ⟨name, op, value, caseless⟩
    if negated then .noneOf false [[(.descendant, [.attr test])]] else .attr test

def containsTexts (values : List Char) : Except ReadError (List String) := do
  let once ← unescapeChars false values
  valueTexts once

/-- Read a selector list of the given kind from `cs`, continuing from state `st`: the list and
what follows it (after its `)` when it is an argument). `bound` says whether the prefix `html`
names the markup namespace. `fuel` bounds the steps; every step takes at least one character. -/
def parseSelectors (bound : Bool) :
    Nat → ListKind → ListState → List Char → Except ReadError (Selection × List Char)
  | 0, _, _, _ => .error .malformed
  | fuel + 1, kind, st, cs =>
    if cs.isEmpty then
      if kind.argument then .error .malformed
      else match st.finish kind with
        | some l => .ok (l, [])
        | none => .error .malformed
    else do
      let argument : ListKind := ⟨true, false, false⟩
      let next := parseSelectors bound fuel kind
      match ← tokenAt cs with
      | none => .error .malformed
      | some (.custom raw) =>
        let _ ← unescape false raw
        .error .malformed
      | some (.close k) =>
        if !kind.argument then .error .malformed
        else if !st.started ∧ !kind.forgiving then .error .malformed
        else match st.finish kind with
          | some l => .ok (l, cs.drop k)
          | none => .error .malformed
      | some (.containsText own values k) =>
        let texts ← containsTexts values
        next (st.add [.contains texts own]) (cs.drop k)
      | some (.nthChild f fromEnd ofList k) =>
        if ofList then
          let (filter, rest) ← parseSelectors bound fuel argument .initial (cs.drop k)
          next (st.add [.nth ⟨f, false, fromEnd⟩ (some filter.list) filter.stops]) rest
        else next (st.add [.nth ⟨f, false, fromEnd⟩ none false]) (cs.drop k)
      | some (.nthType f fromEnd k) => next (st.add [.nth ⟨f, true, fromEnd⟩ none false]) (cs.drop k)
      | some (.lang values k) =>
        let ranges ← valueTexts values
        next (st.add [.lang ranges]) (cs.drop k)
      | some (.dir ltr k) => next ({ st with stops := true }.add [.direction ltr]) (cs.drop k)
      | some (.pseudo raw opens k) =>
        let name ← pseudoName raw
        if opens ∧ listPseudos.contains name then
          let inner : ListKind := ⟨true, name = ":has", name = ":is" ∨ name = ":where"⟩
          let (sel, rest) ← parseSelectors bound fuel inner .initial (cs.drop k)
          let simple :=
            if name = ":not" then Simple.noneOf sel.stops sel.list
            else if name = ":has" then .has sel.stops sel.list
            else .anyOf sel.stops sel.list
          next (st.add [simple]) rest
        else if opens ∧ neverListPseudos.contains name then
          let (_, rest) ← parseSelectors bound fuel argument .initial (cs.drop k)
          next (st.add [.never]) rest
        else if opens then .error .malformed
        else
          match simplePseudo name with
          | some ss =>
            let st := if name = ":defined" then { st with stops := true } else st
            next (st.add ss) (cs.drop k)
          | none => .error .malformed
      | some (.scope k) => next (st.add [.scope]) (cs.drop k)
      | some (.id raw k) =>
        let name ← unescape false raw
        next (st.add [.id name]) (cs.drop k)
      | some (.cls raw k) =>
        let name ← unescape false raw
        next (st.add [.cls name]) (cs.drop k)
      | some (.tag pre raw k) =>
        if st.started then .error .malformed
        else
          let p ← pre.mapM (unescape false)
          let name ← unescape false raw
          next (st.add [typeSelector bound p name]) (cs.drop k)
      | some (.attr pre raw cmp k) =>
        let _ ← pre.mapM (unescape false)
        let name ← unescape false raw
        let cmp ← cmp.mapM fun (op, negated, v, flag) => do
          let value ← valueText v
          return (op, negated, value, flag)
        next (st.add [attributeSelector name cmp]) (cs.drop k)
      | some (.combine c k) =>
        match st.combine kind c with
        | some st => next st (cs.drop k)
        | none => .error .malformed

/-- A whole selector text as a selection; `bound` says whether the prefix `html` names the
markup namespace. -/
def parseWith (bound : Bool) (text : String) : Except ReadError Selection :=
  let cs := text.toList
  (parseSelectors bound (2 * cs.length + 2) ⟨false, false, false⟩ .initial cs).map (·.1)

/-- A whole selector text as a selection. -/
def parseSelection (text : String) : Except ReadError Selection := parseWith false text

end Stencil.Css

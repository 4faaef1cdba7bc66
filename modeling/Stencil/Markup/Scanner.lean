import Stencil.Markup.Event
import Stencil.Markup.Reference
import Stencil.Text.Blank
import Stencil.Text.Case
import Stencil.Text.Search
/-!
# Reading markup into events

The reader walks the text once, reporting text up to the next `<` or `&` and then the construct
that starts there. Inside `script` and `style` only the matching end tag is looked for, case
being ignored, and everything before it is text.

A construct that does not end before the text does (an open tag without `>`, a comment without
`-->`) is kept for a second, final pass. In the final pass such a construct is text up to the
next `>` (or `<`), a text ending in `&` and a letter loses the `&`, and the rest of the text is
text, except inside an unclosed `script` or `style`, whose content is dropped.

A start tag runs to the first `>` that no quoted attribute value hides. Attributes are
separated by white space or slashes; a value follows one or more `=`, quoted with `'` or `"`
or bare up to white space or `>`. A value quote that never closes leaves the value empty (or
makes the quote part of a bare value after a doubled `=`), and the quote starts the next
attribute's name. A start tag whose tail is not `>` or `/>` is text.

* `attributeAt` : one attribute, with the backtracking rules above.
* `startTagAt`, `endTagAt`, `commentAt`, `declarationAt` : the constructs.
* `scanPass` : one pass over the text.
* `scan` : the events of a markup text.
-/

namespace Stencil.Markup

open Stencil.Text

def isAsciiLetter (c : Char) : Bool := ('a' ≤ c ∧ c ≤ 'z') ∨ ('A' ≤ c ∧ c ≤ 'Z')

def isAsciiAlnum (c : Char) : Bool := isAsciiLetter c ∨ isDecimal c

/-- A character of a tag name after its first letter: anything but tab, line feed, carriage
return, form feed, space, `/`, `>` and NUL. -/
def isTagNameChar (c : Char) : Bool :=
  !(c = '\t' ∨ c = '\n' ∨ c = '\r' ∨ c = '\x0c' ∨ c = ' ' ∨ c = '/' ∨ c = '>' ∨ c = '\x00')

def opensAttribute (c : Char) : Bool := c = '\'' ∨ c = '"' ∨ isBlank c ∨ c = '/'

def separatorLength : List Char → Nat
  | [] => 0
  | c :: r =>
    if isBlank c then 1 + separatorLength r
    else if c = '/' then
      match r with
      | '>' :: _ => 0
      | _ => 1 + separatorLength r
    else 0

def bareValue (cs : List Char) : List Char := cs.takeWhile (fun c => c ≠ '>' ∧ !isBlank c)

/-- The value part after an attribute name: white space, one or more `=`, white space and a
value; its length and the value as written (quotes included). When the value opens a quote
that never closes, the last white space before it is given up for an empty value, or else the
last `=` starts a bare value; with neither there is no value part. -/
def valueIndicator (cs : List Char) : Option (Nat × List Char) :=
  let ws1 := countWhile isBlank cs
  let r1 := cs.drop ws1
  let eqs := countWhile (· = '=') r1
  if eqs = 0 then none
  else
    let r2 := r1.drop eqs
    let ws2 := countWhile isBlank r2
    let r3 := r2.drop ws2
    let value : Option (List Char) :=
      match r3 with
      | q :: rest =>
        if q = '\'' ∨ q = '"' then (firstIndex? (· = q) rest).map fun k => q :: rest.take (k + 1)
        else some (bareValue r3)
      | [] => some []
    match value with
    | some v => some (ws1 + eqs + ws2 + v.length, v)
    | none =>
      if ws2 > 0 then some (ws1 + eqs + ws2 - 1, [])
      else if eqs > 1 then
        let v := bareValue (r1.drop (eqs - 1))
        some (ws1 + eqs - 1 + v.length, v)
      else none

/-- An attribute at the head of `c :: r`, `prev` being the character before it: its name, its
value as written (if it has a value part), and its length after the first character, trailing
separators included. -/
def attributeAt (prev : Option Char) (c : Char) (r : List Char) :
    Option (List Char × Option (List Char) × Nat) :=
  if (prev.map opensAttribute).getD false ∧ !(isBlank c ∨ c = '/' ∨ c = '>') then
    let nameRest := r.takeWhile (fun d => !(isBlank d ∨ d = '/' ∨ d = '=' ∨ d = '>'))
    let after := r.drop nameRest.length
    match valueIndicator after with
    | some (n, v) =>
      some (c :: nameRest, some v, nameRest.length + n + separatorLength (after.drop n))
    | none => some (c :: nameRest, none, nameRest.length + separatorLength after)
  else none

def attributesLength (prev : Option Char) : List Char → Nat
  | [] => 0
  | c :: r =>
    match attributeAt prev c r with
    | some (_, _, k) => k + 1 + attributesLength ((c :: r.take k).getLast?) (r.drop k)
    | none => 0
termination_by cs => cs.length
decreasing_by simp only [List.length_drop, List.length_cons]; omega

def startTagExtent (cs : List Char) : Nat :=
  let nameEnd := 2 + countWhile isTagNameChar (cs.drop 2)
  let sep := countWhile (fun c => isBlank c ∨ c = '/') (cs.drop nameEnd)
  let attrStart := nameEnd + sep
  let pos := attrStart + attributesLength (cs[attrStart - 1]?) (cs.drop attrStart)
  pos + countWhile isBlank (cs.drop pos)

def wholeStartTagEnd (cs : List Char) : Option Nat :=
  let j := startTagExtent cs
  match cs[j]? with
  | some '>' => some (j + 1)
  | some '/' => if cs[j + 1]? = some '>' then some (j + 2) else none
  | none => none
  | some c => if isAsciiLetter c ∨ c = '=' ∨ c = '/' then none else some j

/-- An attribute value as reported: without its quotes, with references decoded; a decimal
reference too long to read refuses the markup. -/
def attributeValue (v : List Char) : Except ScanError String :=
  let inner := match v.head?, v.getLast? with
    | some q, some q' => if (q = '\'' ∨ q = '"') ∧ q = q' then (v.drop 1).dropLast else v
    | _, _ => v
  match firstLongDecimal? inner with
  | some n => .error (.digitLimit n)
  | none => .ok (decodeReferences (String.ofList inner))

def attributesFrom (cs : List Char) (k endpos : Nat) :
    Except ScanError (List (String × Option String) × Nat) :=
  if _h : k < endpos then
    match cs.drop k with
    | c :: r =>
      match attributeAt cs[k - 1]? c r with
      | some (name, value, n) => do
        let v ← match value with
          | some v => (attributeValue v).map some
          | none => .ok none
        let (rest, k') ← attributesFrom cs (k + n + 1) endpos
        return ((lowerText (String.ofList name), v) :: rest, k')
      | none => .ok ([], k)
    | [] => .ok ([], k)
  else .ok ([], k)
termination_by endpos - k

/-- A start tag at the head of the input (`<` and a letter): its event, or text when its tail
is neither `>` nor `/>`, and its length; `none` when it is not complete yet. -/
def startTagAt (cs : List Char) : Except ScanError (Option (List Event × Nat)) :=
  match wholeStartTagEnd cs with
  | none => .ok none
  | some endpos => do
    let nameChars := (cs.drop 1).take (1 + countWhile isTagNameChar (cs.drop 2))
    let k0 := 1 + nameChars.length + separatorLength (cs.drop (1 + nameChars.length))
    let (attrs, k) ← attributesFrom cs k0 endpos
    let name := lowerText (String.ofList nameChars)
    return some (match trimBlankList (slice cs k endpos) with
      | ['>'] => ([.startTag name attrs false], endpos)
      | ['/', '>'] => ([.startTag name attrs true], endpos)
      | _ => ([.text (String.ofList (cs.take endpos))], endpos))

def bogusCommentAt (cs : List Char) : Option (List Event × Nat) :=
  (indexFrom? (· = '>') 2 cs).map fun pos => ([.comment (String.ofList (slice cs 2 pos))], pos + 1)

/-- The characters match a lower-case ASCII name, case being ignored as Unicode folds it (so
`ſ` is an `s`, and `İ` and `ı` are an `i`). -/
def matchesName (name : List Char) (cs : List Char) : Bool :=
  name.length ≤ cs.length ∧
    (name.zip cs).all fun (n, c) =>
      c.toLower = n ∨ (n = 's' ∧ c = '\u017F') ∨ (n = 'i' ∧ (c = '\u0130' ∨ c = '\u0131')) ∨
        (n = 'k' ∧ c = '\u212A')

/-- The length of the end tag `</name>` at the head of the input, white space allowed around
the name. -/
def rawTextEnd (name : String) (cs : List Char) : Option Nat :=
  match cs with
  | '<' :: '/' :: r =>
    let ws := countWhile isBlank r
    let n := name.length
    if matchesName name.toList (r.drop ws) then
      let ws2 := countWhile isBlank (r.drop (ws + n))
      if (r.drop (ws + n + ws2)).head? = some '>' then some (2 + ws + n + ws2 + 1) else none
    else none
  | _ => none

def isEndNameChar (c : Char) : Bool := isAsciiAlnum c ∨ c = '-' ∨ c = '.' ∨ c = ':' ∨ c = '_'

def endTagName (cs : List Char) : Option (List Char) :=
  match cs with
  | '<' :: '/' :: r =>
    let r := r.drop (countWhile isBlank r)
    match r with
    | c :: r' =>
      if isAsciiLetter c then
        let name := c :: r'.takeWhile isEndNameChar
        let after := r.drop name.length
        if (after.drop (countWhile isBlank after)).head? = some '>' then some name else none
      else none
    | [] => none
  | _ => none

/-- An end tag at the head of the input (`</`): its events and length, or `none` when no `>`
follows. Inside raw text only the end tag of the raw-text element counts; anything else is text.
A malformed end tag names the element by its first word, `</>` is dropped, and `</` without a
name is a comment. -/
def endTagAt (rawText : Option String) (cs : List Char) : Option (List Event × Nat) :=
  (indexFrom? (· = '>') 1 cs).bind fun gt =>
    let gtpos := gt + 1
    match endTagName cs with
    | none =>
      if rawText.isSome then some ([.text (String.ofList (cs.take gtpos))], gtpos)
      else
        match cs.drop 2 with
        | c :: r =>
          if isAsciiLetter c then
            some ([.endTag (lowerText (String.ofList (c :: r.takeWhile isTagNameChar)))], gtpos)
          else if c = '>' then some ([], 3)
          else bogusCommentAt cs
        | [] => bogusCommentAt cs
    | some name =>
      let elem := lowerText (String.ofList name)
      match rawText with
      | some open_ =>
        if elem ≠ open_ then some ([.text (String.ofList (cs.take gtpos))], gtpos)
        else some ([.endTag elem], gtpos)
      | none => some ([.endTag elem], gtpos)

def commentClose : List Char → Option Nat
  | '-' :: '-' :: r =>
    let ws := countWhile isBlank r
    if (r.drop ws).head? = some '>' then some (3 + ws) else none
  | _ => none

/-- A comment `<!--…-->` at the head of the input. -/
def commentAt (cs : List Char) : Option (List Event × Nat) :=
  (findMatch? commentClose 4 cs).map fun (p, n) =>
    ([.comment (String.ofList (slice cs 4 p))], p + n)

def instructionAt (cs : List Char) : Option (List Event × Nat) :=
  (indexFrom? (· = '>') 2 cs).map fun j => ([.instruction (String.ofList (slice cs 2 j))], j + 1)

def sectionClose : List Char → Option Nat
  | ']' :: r =>
    let ws := countWhile isBlank r
    match r.drop ws with
    | ']' :: r' =>
      let ws2 := countWhile isBlank r'
      if (r'.drop ws2).head? = some '>' then some (3 + ws + ws2) else none
    | _ => none
  | _ => none

def conditionClose : List Char → Option Nat
  | ']' :: r =>
    let ws := countWhile isBlank r
    if (r.drop ws).head? = some '>' then some (2 + ws) else none
  | _ => none

def isKeywordChar (c : Char) : Bool := isAsciiAlnum c ∨ c = '-' ∨ c = '_' ∨ c = '.'

/-- A marked section `<![keyword …]]>` (or `…]>` for conditional keywords) at the head of the
input; a missing or unknown keyword is refused. -/
def markedSectionAt (cs : List Char) : Except ScanError (Option (List Event × Nat)) :=
  match cs.drop 3 with
  | [] => .ok none
  | c :: r =>
    if isAsciiLetter c then
      let name := c :: r.takeWhile isKeywordChar
      let s := name.length + countWhile isBlank ((c :: r).drop name.length)
      if 3 + s = cs.length then .ok none
      else
        let key := lowerAscii (String.ofList name)
        let close? :=
          if ["temp", "cdata", "ignore", "include", "rcdata"].contains key then some sectionClose
          else if ["if", "else", "endif"].contains key then some conditionClose
          else none
        match close? with
        | none => .error (.unknownSection (String.ofList ((c :: r).take s)))
        | some close =>
          .ok ((findMatch? close 3 cs).map fun (p, n) =>
            ([.markedSection (String.ofList (slice cs 3 p))], p + n))
    else .error (.expectedName (String.ofList (takeCodes 20 cs)))

/-- A declaration at the head of the input (`<!` but not `<!--`): a marked section, a doctype,
or a comment-like construct. -/
def declarationAt (cs : List Char) : Except ScanError (Option (List Event × Nat)) :=
  match cs with
  | '<' :: '!' :: '[' :: _ => markedSectionAt cs
  | _ =>
    if lowerText (String.ofList (cs.take 9)) = "<!doctype" then
      .ok ((indexFrom? (· = '>') 9 cs).map fun gt =>
        ([.declaration (String.ofList (slice cs 2 gt))], gt + 1))
    else .ok (bogusCommentAt cs)

/-- A numeric reference `&#…` at the head of the input: its code and length, and how many
decimal digits it has (none for a hex one). It needs a character after its digits that is no hex
digit, which it takes only if it is `;`. -/
def charRefAt (cs : List Char) : Option (Nat × Nat × Nat) :=
  let close (n : Nat) (next : Option Char) : Option Nat :=
    match next with
    | some t => if isHexDigit t then none else some (if t = ';' then n + 1 else n)
    | none => none
  match cs with
  | '&' :: '#' :: x :: r =>
    if isDecimal x then
      let ds := (x :: r).takeWhile isDecimal
      (close (2 + ds.length) ((x :: r)[ds.length]?)).map fun k =>
        (if ds.length > literalDigitLimit then 0 else digitsIn 10 ds, k, ds.length)
    else if x = 'x' ∨ x = 'X' then
      let hs := r.takeWhile isHexDigit
      if hs.isEmpty then none
      else (close (3 + hs.length) (r[hs.length]?)).map fun k => (digitsIn 16 hs, k, 0)
    else none
  | _ => none

/-- A named reference `&name` at the head of the input: its name and length. It needs a
character after the name that is no letter or digit, which it takes only if it is `;`; at the
end of the input the name gives back up to its last `-` or `.`. -/
def entityRefAt (cs : List Char) : Option (String × Nat) :=
  match cs with
  | '&' :: c :: r =>
    if isAsciiLetter c then
      let run := r.takeWhile (fun d => isAsciiAlnum d ∨ d = '-' ∨ d = '.')
      match r[run.length]? with
      | some t => some (String.ofList (c :: run), 2 + run.length + (if t = ';' then 1 else 0))
      | none =>
        let cuts := (List.range run.length).reverse.filter fun p => run[p]? = some '-' ∨ run[p]? = some '.'
        cuts.head?.map fun p => (String.ofList (c :: run.take p), 2 + p)
    else none
  | _ => none

/-- What one step at a `<` does. -/
inductive TagStep where
  | advance (events : List Event) (length : Nat)
  | incomplete
  | halt

def tagStep (rawText : Option String) (cs : List Char) : Except ScanError TagStep :=
  let ofOption : Option (List Event × Nat) → TagStep
    | some (es, k) => .advance es k
    | none => .incomplete
  match cs with
  | '<' :: c :: _ =>
    if isAsciiLetter c then (startTagAt cs).map ofOption
    else if c = '/' then .ok (ofOption (endTagAt rawText cs))
    else if cs.take 4 = ['<', '!', '-', '-'] then .ok (ofOption (commentAt cs))
    else if c = '?' then .ok (ofOption (instructionAt cs))
    else if c = '!' then (declarationAt cs).map ofOption
    else .ok (.advance [.text "<"] 1)
  | _ => .ok .halt

/-- The state of the reader: the events so far and the raw-text element being read. -/
structure Scan where
  events : Array Event
  rawText : Option String

def Scan.push (s : Scan) (e : Event) : Scan :=
  let rawText := match e with
    | .startTag n _ false => if n = "script" ∨ n = "style" then some n else s.rawText
    | .endTag _ => none
    | _ => s.rawText
  { events := s.events.push e, rawText := rawText }

def Scan.pushAll (s : Scan) (es : List Event) : Scan := es.foldl Scan.push s

def Scan.finish (final : Bool) (s : Scan) (rest : List Char) : Scan × List Char :=
  if final ∧ !rest.isEmpty ∧ s.rawText.isNone then (s.push (.text (String.ofList rest)), [])
  else (s, rest)

/-- One pass of the reader over `cs`; the result is the state and what is left for a later
pass. `fuel` bounds the steps; each step takes at least one character. -/
def scanPass (final : Bool) : Nat → Scan → List Char → Except ScanError (Scan × List Char)
  | 0, s, cs => .ok (s.finish final cs)
  | fuel + 1, s, cs =>
    if cs.isEmpty then .ok (s, [])
    else
      let j? : Option Nat := match s.rawText with
        | some name => (findMatch? (rawTextEnd name) 0 cs).map (·.1)
        | none => some ((firstIndex? (fun c => c = '<' ∨ c = '&') cs).getD cs.length)
      match j? with
      | none => .ok (s.finish final cs)
      | some j =>
        let s := if j > 0 then s.push (.text (String.ofList (cs.take j))) else s
        let cs := cs.drop j
        match cs with
        | [] => .ok (s, [])
        | '<' :: _ => do
          match ← tagStep s.rawText cs with
          | .advance es k => scanPass final fuel (s.pushAll es) (cs.drop k)
          | .halt => .ok (s.finish final cs)
          | .incomplete =>
            if !final then .ok (s, cs)
            else
              let k := match indexFrom? (· = '>') 1 cs with
                | some g => g + 1
                | none => (indexFrom? (· = '<') 1 cs).getD 1
              scanPass final fuel (s.push (.text (String.ofList (cs.take k)))) (cs.drop k)
        | '&' :: '#' :: _ =>
          match charRefAt cs with
          | some (code, k, digits) =>
            if digits > literalDigitLimit then .error (.digitLimit digits)
            else scanPass final fuel (s.push (.charRef code)) (cs.drop k)
          | none =>
            if cs.contains ';' then .ok ((s.push (.text "&#")).finish final (cs.drop 2))
            else .ok (s.finish final cs)
        | '&' :: r =>
          match entityRefAt cs with
          | some (name, k) => scanPass final fuel (s.push (.entityRef name)) (cs.drop k)
          | none =>
            match r with
            | c :: r' =>
              if isAsciiLetter c then
                if final ∧ r'.isEmpty then .ok (s.finish final r) else .ok (s.finish final cs)
              else scanPass final fuel (s.push (.text "&")) r
            | [] => .ok (s.finish final cs)
        | _ => .ok (s.finish final cs)

/-- The events of a markup text: a first pass, then a final pass over what it left. -/
def scan (text : String) : Except ScanError (Array Event) := do
  let cs := text.toList
  let (s, rest) ← scanPass false (cs.length + 1) ⟨#[], none⟩ cs
  let (s, _) ← scanPass true (rest.length + 1) s rest
  return s.events

end Stencil.Markup

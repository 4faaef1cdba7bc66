import Stencil.Yaml.Scanner
/-!
# YAML events

The parser turns tokens into events: the stream and each document start and end, every
collection starts and ends, and scalars and aliases stand alone. It is a state machine with a
stack of states to return to, one per open collection, and a stack of the places where the open
collections started (for messages). Missing keys, values and entries become empty plain
scalars. A tag handle (`!` or `!!`, or one a `%TAG` directive declares) is expanded into the
text it stands for.

The directives before an explicit document may declare the YAML version once, and only a
version 1.x, and each tag handle once; a version other than 1.1 and 1.2 is then refused outright
(`unexpected "AssertionError"`). The document start event records the version and the handles
declared.

The events come out in order until the stream ends or the first error, which is reported only
when a reader asks for the event after the last one.

* `EventKind`, `Event` : an event and its places.
* `parseEvents` : the events of a text, and the error that stopped them.
-/

namespace Stencil.Yaml

open Stencil.Text

/-- The kinds of event. A scalar records whether its tag may be resolved from its text as a
plain scalar, or only as a string (quoted). -/
inductive EventKind where
  | streamStart
  | streamEnd
  | documentStart (explicit : Bool) (version : Option Version) (handles : List (String × String))
  | documentEnd (explicit : Bool)
  | alias (name : String)
  | scalar (anchor : Option String) (tag : Option String) (plainImplicit quotedImplicit : Bool)
      (value : String) (style : ScalarStyle)
  | sequenceStart (anchor : Option String) (tag : Option String) (implicit flow : Bool)
  | sequenceEnd
  | mappingStart (anchor : Option String) (tag : Option String) (implicit flow : Bool)
  | mappingEnd
deriving Inhabited, Repr

/-- An event with the places where it starts and ends. -/
structure Event where
  kind : EventKind
  start : Mark
  stop : Mark
deriving Inhabited, Repr

/-- What the parser expects next. -/
inductive ParseStep where
  | streamStart
  | implicitDocumentStart
  | documentStart
  | documentEnd
  | documentContent
  | blockNode
  | blockSequenceFirstEntry
  | blockSequenceEntry
  | indentlessSequenceEntry
  | blockMappingFirstKey
  | blockMappingKey
  | blockMappingValue
  | flowSequenceFirstEntry
  | flowSequenceEntry
  | flowSequenceEntryMappingKey
  | flowSequenceEntryMappingValue
  | flowSequenceEntryMappingEnd
  | flowMappingFirstKey
  | flowMappingKey
  | flowMappingValue
  | flowMappingEmptyValue
  | finished
deriving Inhabited, BEq, Repr

def defaultHandles : List (String × String) := [("!", "!"), ("!!", "tag:yaml.org,2002:")]

/-- The state of the parser: the scanner, the current step, the steps to return to, the places
where the open collections started, and the tag handles. -/
structure Parser where
  scanner : Scanner
  step : ParseStep
  steps : List ParseStep
  marks : List Mark
  handles : List (String × String)
deriving Inhabited

abbrev ParseM := StateT Parser (Except YamlError)

def emptyScalar (m : Mark) : Event := ⟨.scalar none none true false "" .plain, m, m⟩

namespace Parser

/-- The parser at the start of a text; `inherited` is the version in force when the text declares
none. -/
def start (src : Array Char) (inherited : Option Version) : Parser :=
  ⟨Scanner.start src inherited, .streamStart, [], [], defaultHandles⟩

def scan (m : ScanM α) : ParseM α := do
  let p ← get
  match m.run p.scanner with
  | .ok (a, s) =>
    set { p with scanner := s }
    return a
  | .error e => throw e

def peekTok : ParseM Token := do
  match ← scan Scanner.peekToken with
  | some t => return t
  | none =>
    let m := (← get).scanner.mark
    return ⟨.streamEnd, m, m⟩

def takeTok : ParseM Token := do
  match ← scan Scanner.takeToken with
  | some t => return t
  | none =>
    let m := (← get).scanner.mark
    return ⟨.streamEnd, m, m⟩

def isNext (kinds : List TokenKind) : ParseM Bool := do
  match ← scan Scanner.peekToken with
  | some t => return kinds.any (·.sameKind t.kind)
  | none => return false

def goTo (st : ParseStep) : ParseM Unit := modify fun p => { p with step := st }

def push (st : ParseStep) : ParseM Unit := modify fun p => { p with steps := st :: p.steps }

def pop : ParseM Unit := modify fun p =>
  match p.steps with
  | st :: rest => { p with step := st, steps := rest }
  | [] => { p with step := .finished }

def pushMark (m : Mark) : ParseM Unit := modify fun p => { p with marks := m :: p.marks }

def popMark : ParseM Unit := modify fun p => { p with marks := p.marks.drop 1 }

def topMark : ParseM Mark := return ((← get).marks.head?.getD default)

def failAt (context : Option String) (contextMark : Option Mark) (problem : String) (t : Token) :
    ParseM α :=
  throw (.marked context contextMark problem t.start none)

def bound : ParseM Nat := return 3 * (← get).scanner.src.size + 16

/-- A node: an alias, or a scalar or collection start with its optional anchor and tag (in
either order). In block context a block collection may start, and where an indentless sequence
may stand, a `-` starts one. A node with an anchor or tag but no content is an empty scalar. -/
def parseNode (block indentless : Bool) : ParseM Event := do
  let t ← peekTok
  if let .alias name := t.kind then
    let _ ← takeTok
    pop
    return ⟨.alias name, t.start, t.stop⟩
  let mut anchor : Option String := none
  let mut tag : Option (Option String × String) := none
  let mut startMark : Option Mark := none
  let mut endMark : Option Mark := none
  let mut tagMark : Option Mark := none
  match t.kind with
  | .anchor a =>
    let _ ← takeTok
    startMark := some t.start
    endMark := some t.stop
    anchor := some a
    let t2 ← peekTok
    if let .tag h s := t2.kind then
      let _ ← takeTok
      tagMark := some t2.start
      endMark := some t2.stop
      tag := some (h, s)
  | .tag h s =>
    let _ ← takeTok
    startMark := some t.start
    tagMark := some t.start
    endMark := some t.stop
    tag := some (h, s)
    let t2 ← peekTok
    if let .anchor a := t2.kind then
      let _ ← takeTok
      endMark := some t2.stop
      anchor := some a
  | _ => pure ()
  let tagText : Option String ← match tag with
    | some (some h, suffix) =>
      match (← get).handles.lookup h with
      | some pre => pure (some (pre ++ suffix))
      | none =>
        throw (.marked (some "while parsing a node") startMark ("found undefined tag handle " ++ quoteText h)
          (tagMark.getD default) none)
    | some (none, suffix) => pure (some suffix)
    | none => pure none
  let next ← peekTok
  let first := startMark.getD next.start
  let last := endMark.getD next.start
  let implicit := tagText.isNone || tagText == some "!"
  if indentless && next.kind.sameKind .blockEntry then
    goTo .indentlessSequenceEntry
    return ⟨.sequenceStart anchor tagText implicit false, first, next.stop⟩
  match next.kind with
  | .scalar text style =>
    let _ ← takeTok
    let (plainImplicit, quotedImplicit) :=
      if (style == .plain && tagText.isNone) || tagText == some "!" then (true, false)
      else if tagText.isNone then (false, true)
      else (false, false)
    pop
    return ⟨.scalar anchor tagText plainImplicit quotedImplicit text style, first, next.stop⟩
  | .flowSequenceStart =>
    goTo .flowSequenceFirstEntry
    return ⟨.sequenceStart anchor tagText implicit true, first, next.stop⟩
  | .flowMappingStart =>
    goTo .flowMappingFirstKey
    return ⟨.mappingStart anchor tagText implicit true, first, next.stop⟩
  | .blockSequenceStart =>
    if block then
      goTo .blockSequenceFirstEntry
      return ⟨.sequenceStart anchor tagText implicit false, first, next.start⟩
  | .blockMappingStart =>
    if block then
      goTo .blockMappingFirstKey
      return ⟨.mappingStart anchor tagText implicit false, first, next.start⟩
  | _ => pure ()
  if anchor.isSome || tagText.isSome then
    pop
    return ⟨.scalar anchor tagText implicit false "" .plain, first, last⟩
  failAt (some ("while parsing a " ++ (if block then "block" else "flow") ++ " node")) (some first)
    ("expected the node content, but found " ++ quoteText next.kind.id) next

/-- The start of an explicit document (after any stray document ends and the directives), or
the end of the stream. -/
def documentStart : ParseM Event := do
  for _ in [0:← bound] do
    if ← isNext [.documentEnd] then
      let _ ← takeTok
    else break
  if ← isNext [.streamEnd] then
    let t ← takeTok
    goTo .finished
    return ⟨.streamEnd, t.start, t.stop⟩
  let mut version : Option Version := none
  let mut declared : List (String × String) := []
  for _ in [0:← bound] do
    if ← isNext [.directive "" .other] then
      let t ← takeTok
      match t.kind with
      | .directive _ (.version v) =>
        if version.isSome then failAt none none "found duplicate YAML directive" t
        if v.major != 1 then
          failAt none none "found incompatible YAML document (version 1.* is required)" t
        version := some v
      | .directive _ (.tagHandle h uri) =>
        if (declared.lookup h).isSome then failAt none none ("duplicate tag handle " ++ quoteText h) t
        declared := declared ++ [(h, uri)]
      | _ => pure ()
    else break
  if let some v := version then
    if v.minor != 1 && v.minor != 2 then
      throw (.unexpected "AssertionError" ("version minor part can only be 2 or 1, got " ++ v.pairText))
  modify fun p => { p with handles := declared ++ defaultHandles }
  if !(← isNext [.documentStart]) then
    let t ← peekTok
    failAt none none ("expected '<document start>', but found (" ++ quoteText t.kind.id ++ ",)") t
  let t ← takeTok
  push .documentEnd
  goTo .documentContent
  return ⟨.documentStart true version declared, t.start, t.stop⟩

def implicitDocumentStart : ParseM Event := do
  if ← isNext [.directive "" .other, .documentStart, .streamEnd] then documentStart
  else
    modify fun p => { p with handles := defaultHandles }
    let t ← peekTok
    push .documentEnd
    goTo .blockNode
    return ⟨.documentStart false none [], t.start, t.start⟩

def documentEnd : ParseM Event := do
  let t ← peekTok
  if t.kind.sameKind .documentEnd then
    let t ← takeTok
    let next ← peekTok
    if !next.kind.sameKind .streamEnd && t.stop.line == next.start.line then
      failAt none none ("found non-comment content after document end marker, (" ++
        quoteText next.kind.id ++ ",)") next
    goTo .implicitDocumentStart
    return ⟨.documentEnd true, t.start, t.stop⟩
  else
    goTo .documentStart
    return ⟨.documentEnd false, t.start, t.start⟩

def documentContent : ParseM Event := do
  if ← isNext [.directive "" .other, .documentStart, .documentEnd, .streamEnd] then
    let t ← peekTok
    pop
    return emptyScalar t.start
  else parseNode true false

def blockSequenceEntry : ParseM Event := do
  if ← isNext [.blockEntry] then
    let t ← takeTok
    if !(← isNext [.blockEntry, .blockEnd]) then
      push .blockSequenceEntry
      parseNode true false
    else
      goTo .blockSequenceEntry
      return emptyScalar t.stop
  else if !(← isNext [.blockEnd]) then
    let t ← peekTok
    failAt (some "while parsing a block collection") (some (← topMark))
      ("expected <block end>, but found " ++ quoteText t.kind.id) t
  else
    let t ← takeTok
    pop
    popMark
    return ⟨.sequenceEnd, t.start, t.stop⟩

def indentlessSequenceEntry : ParseM Event := do
  if ← isNext [.blockEntry] then
    let t ← takeTok
    if !(← isNext [.blockEntry, .key, .value, .blockEnd]) then
      push .indentlessSequenceEntry
      parseNode true false
    else
      goTo .indentlessSequenceEntry
      return emptyScalar t.stop
  else
    let t ← peekTok
    pop
    return ⟨.sequenceEnd, t.start, t.start⟩

def blockMappingKey : ParseM Event := do
  if ← isNext [.key] then
    let t ← takeTok
    if !(← isNext [.key, .value, .blockEnd]) then
      push .blockMappingValue
      parseNode true true
    else
      goTo .blockMappingValue
      return emptyScalar t.stop
  else if ← isNext [.value] then
    goTo .blockMappingValue
    return emptyScalar (← peekTok).start
  else if !(← isNext [.blockEnd]) then
    let t ← peekTok
    failAt (some "while parsing a block mapping") (some (← topMark))
      ("expected <block end>, but found " ++ quoteText t.kind.id) t
  else
    let t ← takeTok
    pop
    popMark
    return ⟨.mappingEnd, t.start, t.stop⟩

def blockMappingValue : ParseM Event := do
  if ← isNext [.value] then
    let t ← takeTok
    if !(← isNext [.key, .value, .blockEnd]) then
      push .blockMappingKey
      parseNode true true
    else
      goTo .blockMappingKey
      return emptyScalar t.stop
  else
    goTo .blockMappingKey
    return emptyScalar (← peekTok).start

/-- An entry of a flow sequence (after a `,` unless it is the first), a single-pair mapping
started by `?`, or the sequence's end. -/
def flowSequenceEntry (first : Bool) : ParseM Event := do
  if !(← isNext [.flowSequenceEnd]) then
    if !first then
      if ← isNext [.flowEntry] then
        let _ ← takeTok
      else
        let t ← peekTok
        failAt (some "while parsing a flow sequence") (some (← topMark))
          ("expected ',' or ']', but got " ++ quoteText t.kind.id) t
    if ← isNext [.key] then
      let t ← peekTok
      goTo .flowSequenceEntryMappingKey
      return ⟨.mappingStart none none true true, t.start, t.stop⟩
    else if !(← isNext [.flowSequenceEnd]) then
      push .flowSequenceEntry
      return ← parseNode false false
  let t ← takeTok
  pop
  popMark
  return ⟨.sequenceEnd, t.start, t.stop⟩

def flowSequenceEntryMappingKey : ParseM Event := do
  let t ← takeTok
  if !(← isNext [.value, .flowEntry, .flowSequenceEnd]) then
    push .flowSequenceEntryMappingValue
    parseNode false false
  else
    goTo .flowSequenceEntryMappingValue
    return emptyScalar t.stop

def flowSequenceEntryMappingValue : ParseM Event := do
  if ← isNext [.value] then
    let t ← takeTok
    if !(← isNext [.flowEntry, .flowSequenceEnd]) then
      push .flowSequenceEntryMappingEnd
      parseNode false false
    else
      goTo .flowSequenceEntryMappingEnd
      return emptyScalar t.stop
  else
    goTo .flowSequenceEntryMappingEnd
    return emptyScalar (← peekTok).start

def flowSequenceEntryMappingEnd : ParseM Event := do
  goTo .flowSequenceEntry
  let t ← peekTok
  return ⟨.mappingEnd, t.start, t.start⟩

def flowMappingKey (first : Bool) : ParseM Event := do
  if !(← isNext [.flowMappingEnd]) then
    if !first then
      if ← isNext [.flowEntry] then
        let _ ← takeTok
      else
        let t ← peekTok
        failAt (some "while parsing a flow mapping") (some (← topMark))
          ("expected ',' or '\x7d', but got " ++ quoteText t.kind.id) t
    if ← isNext [.key] then
      let t ← takeTok
      if !(← isNext [.value, .flowEntry, .flowMappingEnd]) then
        push .flowMappingValue
        return ← parseNode false false
      else
        goTo .flowMappingValue
        return emptyScalar t.stop
    else if ← isNext [.value] then
      goTo .flowMappingValue
      return emptyScalar (← peekTok).stop
    else if !(← isNext [.flowMappingEnd]) then
      push .flowMappingEmptyValue
      return ← parseNode false false
  let t ← takeTok
  pop
  popMark
  return ⟨.mappingEnd, t.start, t.stop⟩

def flowMappingValue : ParseM Event := do
  if ← isNext [.value] then
    let t ← takeTok
    if !(← isNext [.flowEntry, .flowMappingEnd]) then
      push .flowMappingKey
      parseNode false false
    else
      goTo .flowMappingKey
      return emptyScalar t.stop
  else
    goTo .flowMappingKey
    return emptyScalar (← peekTok).start

def openCollection (next : ParseM Event) : ParseM Event := do
  let t ← takeTok
  pushMark t.start
  next

def nextEvent : ParseM Event := do
  match (← get).step with
  | .streamStart =>
    let t ← takeTok
    goTo .implicitDocumentStart
    return ⟨.streamStart, t.start, t.stop⟩
  | .implicitDocumentStart => implicitDocumentStart
  | .documentStart => documentStart
  | .documentEnd => documentEnd
  | .documentContent => documentContent
  | .blockNode => parseNode true false
  | .blockSequenceFirstEntry => openCollection blockSequenceEntry
  | .blockSequenceEntry => blockSequenceEntry
  | .indentlessSequenceEntry => indentlessSequenceEntry
  | .blockMappingFirstKey => openCollection blockMappingKey
  | .blockMappingKey => blockMappingKey
  | .blockMappingValue => blockMappingValue
  | .flowSequenceFirstEntry => openCollection (flowSequenceEntry true)
  | .flowSequenceEntry => flowSequenceEntry false
  | .flowSequenceEntryMappingKey => flowSequenceEntryMappingKey
  | .flowSequenceEntryMappingValue => flowSequenceEntryMappingValue
  | .flowSequenceEntryMappingEnd => flowSequenceEntryMappingEnd
  | .flowMappingFirstKey => openCollection (flowMappingKey true)
  | .flowMappingKey => flowMappingKey false
  | .flowMappingValue => flowMappingValue
  | .flowMappingEmptyValue =>
    goTo .flowMappingKey
    return emptyScalar (← peekTok).start
  | .finished =>
    let m := (← get).scanner.mark
    return ⟨.streamEnd, m, m⟩

def collect : Nat → Parser → List Event → List Event × Option YamlError
  | 0, _, acc => (acc.reverse, none)
  | fuel + 1, p, acc =>
    if p.step == .finished then (acc.reverse, none)
    else
      match nextEvent.run p with
      | .ok (e, p) => collect fuel p (e :: acc)
      | .error err => (acc.reverse, some err)

end Parser

/-- The events of a text, in order, and the error that stopped them, if one did; `inherited` is
the version in force when the text declares none. -/
def parseEvents (src : Array Char) (inherited : Option Version) : List Event × Option YamlError :=
  Parser.collect (8 * src.size + 16) (Parser.start src inherited) []

end Stencil.Yaml

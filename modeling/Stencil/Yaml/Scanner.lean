import Stencil.Text.Utf8
import Stencil.Yaml.Token
/-!
# Scanning YAML into tokens

The scanner reads the text one token at a time, on demand. Indentation opens block collections:
a `-` entry or a key at a deeper column pushes the column on a stack and emits a start token, and
a line that starts further left pops the stack, emitting one block end per level. Flow
collections (`[ ]`, `{ }`) ignore indentation.

A key is usually recognised only when its `:` arrives, so the scanner remembers, for each flow
level, where a simple key could have started; when the `:` comes, a key token (and, in block
context, a mapping start) is inserted before the tokens of the key. A possible key lasts until
the end of its line or for 1024 characters; one that must be a key (it stands at the block's
indentation) and never gets its `:` is an error. A token is handed out only once it is certain
that nothing will be inserted before it.

Scalars come plain, quoted or as blocks. Plain scalars end at `: `, ` #`, and in flow context
at `,[]{}`; their lines are folded into spaces. Quoted scalars fold lines the same way and read
escapes in double quotes. Block scalars keep (`|`) or fold (`>`) their lines, take their
indentation from the first non-empty line or an explicit indicator, and keep (`+`) or strip
(`-`) the final line breaks.

* `Scanner` : the state of the scanner over a text.
* `Scanner.peekToken`, `Scanner.takeToken` : the next token, kept or taken.
-/

namespace Stencil.Yaml

open Stencil.Text

/-- A place where a simple key could start: the number its token would have, whether it must
be a key, and where it is. -/
structure SimpleKey where
  tokenNumber : Nat
  required : Bool
  mark : Mark
deriving Inhabited, Repr

/-- The state of the scanner: the text and the place reached; whether the stream end was
emitted; the open flow collections, innermost first; the tokens scanned but not handed out and
how many were handed out; the indentation column and the outer ones; whether a simple key may
start here; the possible simple keys by flow level; the version a `%YAML` directive of this
text declared, and the version in force before it. -/
structure Scanner where
  src : Array Char
  index : Nat
  line : Nat
  column : Nat
  done : Bool
  flows : List Char
  pending : List Token
  taken : Nat
  indent : Int
  indents : List Int
  allowSimpleKey : Bool
  keys : List (Nat × SimpleKey)
  declared : Option Version
  inherited : Option Version
deriving Inhabited

def isBreak (c : Char) : Bool :=
  c == '\r' || c == '\n' || c == '\x85' || c == '\u2028' || c == '\u2029'

def isBlankOrEnd (c : Char) : Bool := isLineEnd c || c == ' ' || c == '\t'

def isSpaceOrEnd (c : Char) : Bool := isLineEnd c || c == ' '

def isWordChar (c : Char) : Bool :=
  ('0' ≤ c && c ≤ '9') || ('A' ≤ c && c ≤ 'Z') || ('a' ≤ c && c ≤ 'z') || c == '-' || c == '_'

/-- Characters of anchor and alias names: printable characters other than blanks, the byte
order mark and the flow indicators `,[]{}`. -/
def isAnchorChar (c : Char) : Bool :=
  let n := c.toNat
  !",[]\x7b\x7d".contains c &&
    ((0x21 ≤ n && n ≤ 0x7E) || (0xA0 ≤ n && n ≤ 0xD7FF) ||
      (0xE000 ≤ n && n ≤ 0xFFFD && n != 0xFEFF) || 0x10000 ≤ n)

def isUriChar (hash : Bool) (c : Char) : Bool :=
  ('0' ≤ c && c ≤ '9') || ('A' ≤ c && c ≤ 'Z') || ('a' ≤ c && c ≤ 'z') ||
    "-;/?:@&=+$,_.!~*'()[]%".contains c || (hash && c == '#')

def isDirectiveNameChar (c : Char) : Bool := isWordChar c || c == ':' || c == '.'

def isHexDigit (c : Char) : Bool :=
  ('0' ≤ c && c ≤ '9') || ('A' ≤ c && c ≤ 'F') || ('a' ≤ c && c ≤ 'f')

def hexValue (c : Char) : Nat :=
  if c ≤ '9' then c.toNat - '0'.toNat
  else if c ≤ 'F' then c.toNat - 'A'.toNat + 10
  else c.toNat - 'a'.toNat + 10

def spanLength (src : Array Char) (p : Char → Bool) (i : Nat) : Nat :=
  if h : i < src.size then
    if p src[i] then spanLength src p (i + 1) + 1 else 0
  else 0
termination_by src.size - i

def escapeReplacement : Char → Option Char
  | '0' => some '\x00'
  | 'a' => some '\x07'
  | 'b' => some '\x08'
  | 't' => some '\t'
  | '\t' => some '\t'
  | 'n' => some '\n'
  | 'v' => some '\x0b'
  | 'f' => some '\x0c'
  | 'r' => some '\r'
  | 'e' => some '\x1b'
  | ' ' => some ' '
  | '"' => some '"'
  | '/' => some '/'
  | '\\' => some '\\'
  | 'N' => some '\x85'
  | '_' => some '\xa0'
  | 'L' => some '\u2028'
  | 'P' => some '\u2029'
  | _ => none

def escapeLength : Char → Option Nat
  | 'x' => some 2
  | 'u' => some 4
  | 'U' => some 8
  | _ => none

namespace Scanner

/-- The scanner at the start of a text, with the stream start token waiting; `inherited` is the
version in force when the text declares none. -/
def start (src : Array Char) (inherited : Option Version) : Scanner :=
  ⟨src, 0, 0, 0, false, [], [⟨.streamStart, ⟨0, 0, 0⟩, ⟨0, 0, 0⟩⟩], 0, -1, [], true, [], none,
    inherited⟩

def version (s : Scanner) : Version := s.declared.getD (s.inherited.getD .v12)

def isOneOne (s : Scanner) : Bool := s.version == .v11

def flowLevel (s : Scanner) : Nat := s.flows.length

def peekAt (s : Scanner) (k : Nat) : Char := charAt s.src (s.index + k)

def mark (s : Scanner) : Mark := ⟨s.index, s.line, s.column⟩

def ahead (s : Scanner) (n : Nat) : String := String.ofList ((List.range n).map s.peekAt)

def atEnd (s : Scanner) : Bool := s.index ≥ s.src.size

/-- Move past one character: a line feed starts a new line, and so does a carriage return that
no line feed follows (the other line breaks count as characters of the line), and the byte
order mark takes no column. -/
def advance (s : Scanner) : Scanner :=
  let c := s.peekAt 0
  let (line, column) :=
    if c == '\n' || (c == '\r' && s.peekAt 1 != '\n')
    then (s.line + 1, 0)
    else if c != '\uFEFF' then (s.line, s.column + 1)
    else (s.line, s.column)
  { s with index := s.index + 1, line := line, column := column }

def forward (s : Scanner) : Nat → Scanner
  | 0 => s
  | n + 1 => s.advance.forward n

def skipWhile (p : Char → Bool) (s : Scanner) : Scanner :=
  if _h : s.index < s.src.size then
    if p (s.peekAt 0) then skipWhile p s.advance else s
  else s
termination_by s.src.size - s.index
decreasing_by simp only [advance]; omega

def skipIndent (indent : Nat) (s : Scanner) : Scanner :=
  if _h : s.index < s.src.size then
    if s.column < indent && s.peekAt 0 == ' ' then skipIndent indent s.advance else s
  else s
termination_by s.src.size - s.index
decreasing_by simp only [advance]; omega

def markerAhead (s : Scanner) : Bool :=
  (s.ahead 3 == "---" || s.ahead 3 == "...") && isBlankOrEnd (s.peekAt 3)

/-- Close block levels deeper than `column`, emitting a block end for each (not in flow
context). -/
def unwind (s : Scanner) (column : Int) : Scanner :=
  if s.flows.isEmpty && s.indent > column then
    match _h : s.indents with
    | i :: rest =>
      unwind { s with indent := i, indents := rest, pending := s.pending ++ [⟨.blockEnd, s.mark, s.mark⟩] }
        column
    | [] => s
  else s
termination_by s.indents.length
decreasing_by simp only [_h, List.length_cons]; omega

def nextKeyNumber (s : Scanner) : Option Nat :=
  s.keys.foldl (fun acc (_, k) => some (match acc with
    | some m => min m k.tokenNumber
    | none => k.tokenNumber)) none

/-- Whether `c` may start a plain scalar here. By YAML 1.2 a `:` not followed by a blank
starts one in flow context too. -/
def checkPlain (s : Scanner) : Bool :=
  let c := s.peekAt 0
  let c1 := s.peekAt 1
  if !"\x00 \t\r\n\x85\u2028\u2029-?:,[]\x7b\x7d#&*!|>'\"%@`".contains c then true
  else if !s.isOneOne && c == ':' && s.flowLevel > 0 && !(c1 == ' ' || c1 == '\t') then true
  else !isBlankOrEnd c1 && (c == '-' || (s.flowLevel == 0 && (c == '?' || c == ':')))

/-- Whether a `:` here is a value indicator: in block context it must be followed by a blank;
in flow context by YAML 1.1 it always is, and by YAML 1.2 in flow sequences it must be followed
by a blank, in flow mappings too right after another value indicator. -/
def checkValue (s : Scanner) : Bool :=
  if s.flowLevel > 0 then
    if s.isOneOne then true
    else if s.flows.head? == some '[' then isBlankOrEnd (s.peekAt 1)
    else
      match s.pending.getLast? with
      | some t => if t.kind == .value then isBlankOrEnd (s.peekAt 1) else true
      | none => true
  else isBlankOrEnd (s.peekAt 1)

/-- The length of the next stretch of a plain scalar: up to a blank, a `:` followed by a blank,
or in flow context a flow indicator or `:` (and by YAML 1.1 a `?`). -/
def plainLength (s : Scanner) (k : Nat) : Nat :=
  if h : s.index + k < s.src.size then
    let c := s.peekAt k
    let next := s.peekAt (k + 1)
    if c == ':' && !isBlankOrEnd next then plainLength s (k + 1)
    else if c == '?' && !s.isOneOne then plainLength s (k + 1)
    else if isBlankOrEnd c || (s.flowLevel == 0 && c == ':' && isBlankOrEnd next) ||
        (s.flowLevel > 0 && ",:?[]\x7b\x7d".contains c) then k
    else plainLength s (k + 1)
  else k
termination_by s.src.size - (s.index + k)

end Scanner

abbrev ScanM := StateT Scanner (Except YamlError)

namespace Scanner

def fail (context : Option String) (contextMark : Option Mark) (problem : String) : ScanM α := do
  throw (.marked context contextMark problem (← get).mark none)

def skip (n : Nat) : ScanM Unit := modify (·.forward n)

def here : ScanM Mark := return (← get).mark

def look (k : Nat) : ScanM Char := return (← get).peekAt k

/-- Emit a token. The scanner reads real characters; a token's texts are given in the form that
keeps lone surrogates (scalar texts are built so as they are read, since escapes in them may
name lone surrogates). -/
def emit (kind : TokenKind) (start stop : Mark) : ScanM Unit :=
  modify fun s => { s with pending := s.pending ++ [⟨kind.keepNames, start, stop⟩] }

def allowKey (b : Bool) : ScanM Unit := modify fun s => { s with allowSimpleKey := b }

/-- Move past a line break, if one is next; the break as it reads: `\r\n`, `\r` and next line
read as `\n`. -/
def lineBreak : ScanM String := do
  let s ← get
  let c := s.peekAt 0
  if c == '\r' || c == '\n' || c == '\x85' then
    set (if c == '\r' && s.peekAt 1 == '\n' then s.forward 2 else s.forward 1)
    return "\n"
  else if c == '\u2028' || c == '\u2029' then
    set (s.forward 1)
    return String.singleton c
  else return ""

/-- Move past blanks, comments and line breaks up to the next token; a line break in block
context lets a simple key start. Tabs are skipped only in flow context. -/
def toNextToken : ScanM Unit := do
  let s ← get
  if s.index == 0 && s.peekAt 0 == '\uFEFF' then set (s.forward 1)
  for _ in [0:(← get).src.size + 1] do
    let s ← get
    let flow := s.flowLevel > 0
    let s := s.skipWhile fun c => c == ' ' || (flow && c == '\t')
    let s := if s.peekAt 0 == '#' then s.skipWhile (!isLineEnd ·) else s
    set s
    if (← lineBreak).isEmpty then break
    if !flow then allowKey true

def missingColon (key : SimpleKey) : ScanM α :=
  fail (some "while scanning a simple key") (some key.mark) "could not find expected ':'"

/-- Forget the possible simple keys that can no longer be keys: those on an earlier line or
more than 1024 characters back. -/
def staleKeys : ScanM Unit := do
  let s ← get
  let stale := fun (k : SimpleKey) => k.mark.line != s.line || s.index - k.mark.index > 1024
  for (_, k) in s.keys do
    if stale k && k.required then missingColon k
  set { s with keys := s.keys.filter fun (_, k) => !stale k }

def removeKey : ScanM Unit := do
  let s ← get
  match s.keys.lookup s.flowLevel with
  | some k =>
    if k.required then missingColon k
    set { s with keys := s.keys.filter (·.1 != s.flowLevel) }
  | none => pure ()

def saveKey : ScanM Unit := do
  let s ← get
  if s.allowSimpleKey then
    let required := s.flowLevel == 0 && s.indent == (s.column : Int)
    removeKey
    let s ← get
    let k : SimpleKey := ⟨s.taken + s.pending.length, required, s.mark⟩
    set { s with keys := s.keys ++ [(s.flowLevel, k)] }

def addIndent (column : Nat) : ScanM Bool := do
  let s ← get
  if s.indent < (column : Int) then
    set { s with indents := s.indent :: s.indents, indent := column }
    return true
  else return false

def single (kind : TokenKind) : ScanM Unit := do
  let start ← here
  skip 1
  emit kind start (← here)

def fetchStreamEnd : ScanM Unit := do
  modify (·.unwind (-1))
  removeKey
  modify fun s => { s with allowSimpleKey := false, keys := [] }
  let m ← here
  emit .streamEnd m m
  modify fun s => { s with done := true }

def versionNumber (start : Mark) : ScanM Nat := do
  let s ← get
  let c := s.peekAt 0
  if !c.isDigit then
    fail (some "while scanning a directive") (some start) ("expected a digit, but found " ++
      quotePlain (String.singleton c))
  let n := spanLength s.src Char.isDigit s.index
  skip n
  return (s.ahead n).foldl (fun acc d => 10 * acc + (d.toNat - '0'.toNat)) 0

def versionValue (start : Mark) : ScanM DirectiveValue := do
  let context := some "while scanning a directive"
  modify (·.skipWhile (· == ' '))
  let major ← versionNumber start
  let c ← look 0
  if c != '.' then
    fail context (some start) ("expected a digit or '.', but found " ++ quotePlain (String.singleton c))
  skip 1
  let minor ← versionNumber start
  let c ← look 0
  if !isSpaceOrEnd c then
    fail context (some start) ("expected a digit or ' ', but found " ++ quotePlain (String.singleton c))
  let v : Version := ⟨major, minor⟩
  modify fun s => { s with declared := some v }
  return .version v

def tagHandle (what : String) (start : Mark) : ScanM String := do
  let s ← get
  let context := some ("while scanning a " ++ what)
  if s.peekAt 0 != '!' then
    fail context (some start) ("expected '!', but found " ++ quotePlain (String.singleton (s.peekAt 0)))
  let length ←
    if s.peekAt 1 != ' ' then do
      let n := 1 + spanLength s.src isWordChar (s.index + 1)
      if s.peekAt n != '!' then
        skip n
        fail context (some start) ("expected '!', but found " ++ quotePlain (String.singleton (s.peekAt n)))
      pure (n + 1)
    else pure 1
  skip length
  return s.ahead length

def uriEscapes (what : String) (start : Mark) : ScanM String := do
  let mark ← here
  let mut bytes : Array Nat := #[]
  for _ in [0:(← get).src.size + 1] do
    if (← look 0) != '%' then break
    skip 1
    let s ← get
    for k in [0:2] do
      if !isHexDigit (s.peekAt k) then
        fail (some ("while scanning a " ++ what)) (some start)
          ("expected URI escape sequence of 2 hexdecimal numbers, but found " ++
            quotePlain (String.singleton (s.peekAt k)))
    bytes := bytes.push (hexValue (s.peekAt 0) * 16 + hexValue (s.peekAt 1))
    skip 2
  match decodeUtf8 bytes.toList with
  | .ok text => return text
  | .error e => throw (.marked (some ("while scanning a " ++ what)) (some start) e.message mark none)

/-- The name part of a tag (`what` names the construct in messages): URI characters, with `%hh`
escapes read as UTF-8; `#` belongs to it only after YAML 1.1. -/
def tagUri (what : String) (start : Mark) : ScanM String := do
  let hash := (← get).version.isAfter .v11
  let mut out := ""
  for _ in [0:(← get).src.size + 1] do
    let s ← get
    let c := s.peekAt 0
    if s.atEnd || !isUriChar hash c then break
    if c == '%' then out := out ++ (← uriEscapes what start)
    else
      skip 1
      out := out.push c
  if out.isEmpty then
    fail (some ("while parsing an " ++ what)) (some start)
      ("expected URI, but found " ++ quotePlain (String.singleton (← look 0)))
  return out

def tagDirectiveValue (start : Mark) : ScanM DirectiveValue := do
  let context := some "while scanning a directive"
  modify (·.skipWhile (· == ' '))
  let handle ← tagHandle "directive" start
  let c ← look 0
  if c != ' ' then fail context (some start) ("expected ' ', but found " ++ quotePlain (String.singleton c))
  modify (·.skipWhile (· == ' '))
  let uri ← tagUri "directive" start
  let c ← look 0
  if !isSpaceOrEnd c then
    fail context (some start) ("expected ' ', but found " ++ quotePlain (String.singleton c))
  return .tagHandle handle uri

/-- A directive `%NAME ...` at the start of a line: `%YAML major.minor` declares the version the
text is read by, `%TAG handle text` declares a tag handle, and any other directive is skipped to
the end of its line. A comment may end the line. -/
def fetchDirective : ScanM Unit := do
  modify (·.unwind (-1))
  removeKey
  allowKey false
  let start ← here
  skip 1
  let s ← get
  let n := spanLength s.src isDirectiveNameChar s.index
  let context := some "while scanning a directive"
  if n == 0 then
    fail context (some start) ("expected alphabetic or numeric character, but found " ++
      quotePlain (String.singleton (s.peekAt 0)))
  let name := s.ahead n
  skip n
  let c ← look 0
  if !isSpaceOrEnd c then
    fail context (some start) ("expected alphabetic or numeric character, but found " ++
      quotePlain (String.singleton c))
  let value ←
    if name == "YAML" then versionValue start
    else if name == "TAG" then tagDirectiveValue start
    else pure .other
  let stop ← here
  if value == .other then modify (·.skipWhile (!isLineEnd ·))
  modify (·.skipWhile (· == ' '))
  if (← look 0) == '#' then modify (·.skipWhile (!isLineEnd ·))
  let c ← look 0
  if !isLineEnd c then
    fail context (some start) ("expected a comment or a line break, but found " ++
      quotePlain (String.singleton c))
  let _ ← lineBreak
  emit (.directive name value) start stop

def fetchDocumentMarker (kind : TokenKind) : ScanM Unit := do
  modify (·.unwind (-1))
  removeKey
  allowKey false
  let start ← here
  skip 3
  emit kind start (← here)

def fetchFlowStart (c : Char) (kind : TokenKind) : ScanM Unit := do
  saveKey
  modify fun s => { s with flows := c :: s.flows, allowSimpleKey := true }
  single kind

def fetchFlowEnd (kind : TokenKind) : ScanM Unit := do
  removeKey
  modify fun s => { s with flows := s.flows.drop 1, allowSimpleKey := false }
  single kind

def fetchFlowEntry : ScanM Unit := do
  allowKey true
  removeKey
  single .flowEntry

def fetchBlockEntry : ScanM Unit := do
  let s ← get
  if s.flowLevel == 0 then
    if !s.allowSimpleKey then fail none none "sequence entries are not allowed here"
    if ← addIndent s.column then
      let m ← here
      emit .blockSequenceStart m m
  allowKey true
  removeKey
  single .blockEntry

def fetchKey : ScanM Unit := do
  let s ← get
  if s.flowLevel == 0 then
    if !s.allowSimpleKey then fail none none "mapping keys are not allowed here"
    if ← addIndent s.column then
      let m ← here
      emit .blockMappingStart m m
  allowKey (s.flowLevel == 0)
  removeKey
  single .key

/-- A value indicator `:`. When a simple key was possible at this level, a key token is inserted
where it started (with a mapping start before it when it opens a block level); otherwise the
value belongs to a complex key or to an empty key. -/
def fetchValue : ScanM Unit := do
  let s ← get
  match s.keys.lookup s.flowLevel with
  | some k =>
    let pos := k.tokenNumber - s.taken
    let insert := fun (s : Scanner) (t : Token) =>
      { s with pending := s.pending.take pos ++ [t] ++ s.pending.drop pos }
    let s := insert { s with keys := s.keys.filter (·.1 != s.flowLevel) } ⟨.key, k.mark, k.mark⟩
    set s
    if s.flowLevel == 0 then
      if ← addIndent k.mark.column then
        modify fun s => insert s ⟨.blockMappingStart, k.mark, k.mark⟩
    allowKey false
  | none =>
    if s.flowLevel == 0 then
      if !s.allowSimpleKey then fail none none "mapping values are not allowed here"
      if ← addIndent s.column then
        let m ← here
        emit .blockMappingStart m m
    allowKey (s.flowLevel == 0)
    removeKey
  single .value

def fetchAnchor (isAlias : Bool) : ScanM Unit := do
  saveKey
  allowKey false
  let start ← here
  let what := if isAlias then "alias" else "anchor"
  skip 1
  let s ← get
  let n := spanLength s.src isAnchorChar s.index
  let c := s.peekAt n
  if n == 0 || !"\x00 \t\r\n\x85\u2028\u2029?:,[]\x7b\x7d%@`".contains c then
    if n != 0 then skip n
    fail (some ("while scanning an " ++ what)) (some start)
      ("expected alphabetic or numeric character, but found " ++ quotePlain (String.singleton c))
  let name := s.ahead n
  skip n
  emit (if isAlias then .alias name else .anchor name) start (← here)

def fetchTag : ScanM Unit := do
  saveKey
  allowKey false
  let start ← here
  let s ← get
  let c1 := s.peekAt 1
  let (handle, suffix) ←
    if c1 == '<' then do
      skip 2
      let suffix ← tagUri "tag" start
      let c ← look 0
      if c != '>' then
        fail (some "while parsing a tag") (some start) ("expected '>', but found " ++ quotePlain (String.singleton c))
      skip 1
      pure (none, suffix)
    else if isBlankOrEnd c1 then do
      skip 1
      pure (none, "!")
    else do
      let n := spanLength s.src (fun c => !isSpaceOrEnd c && c != '!') (s.index + 1)
      if s.peekAt (n + 1) == '!' then
        let handle ← tagHandle "tag" start
        pure (some handle, ← tagUri "tag" start)
      else
        skip 1
        pure (some "!", ← tagUri "tag" start)
  let c ← look 0
  if !isSpaceOrEnd c then
    fail (some "while scanning a tag") (some start) ("expected ' ', but found " ++ quotePlain (String.singleton c))
  emit (.tag handle suffix) start (← here)

/-- Line breaks and indentation inside a block scalar, up to the column `indent`: the breaks and
the place after the last one. -/
def blockBreaks (indent : Nat) : ScanM (String × Mark) := do
  let mut chunks := ""
  let mut stop ← here
  modify (·.skipIndent indent)
  for _ in [0:(← get).src.size + 1] do
    if !isBreak (← look 0) then break
    chunks := chunks ++ (← lineBreak)
    stop ← here
    modify (·.skipIndent indent)
  return (chunks, stop)

/-- The leading empty lines of a block scalar whose indentation is not given: the breaks, the
deepest column reached, and the place after the last break. -/
def blockIndentation : ScanM (String × Nat × Mark) := do
  let mut chunks := ""
  let mut deepest := 0
  let mut stop ← here
  for _ in [0:(← get).src.size + 1] do
    let c ← look 0
    if c == ' ' then
      skip 1
      deepest := max deepest (← get).column
    else if isBreak c then
      chunks := chunks ++ (← lineBreak)
      stop ← here
    else break
  return (chunks, deepest, stop)

def indentDigit (start : Mark) (c : Char) : ScanM Nat := do
  let d := c.toNat - '0'.toNat
  if d == 0 then
    fail (some "while scanning a block scalar") (some start)
      "expected indentation indicator in the range 1-9, but found 0"
  else
    skip 1
    pure d

/-- The header of a block scalar: its chomping (`+` keep, `-` strip) and indentation indicator,
in either order, then a comment or the line's end. -/
def blockHeader (start : Mark) : ScanM (Option Bool × Option Nat) := do
  let context := some "while scanning a block scalar"
  let digit := indentDigit start
  let mut chomping : Option Bool := none
  let mut increment : Option Nat := none
  let c ← look 0
  if c == '+' || c == '-' then
    chomping := some (c == '+')
    skip 1
    let c ← look 0
    if c.isDigit then increment := some (← digit c)
  else if c.isDigit then
    increment := some (← digit c)
    let c ← look 0
    if c == '+' || c == '-' then
      chomping := some (c == '+')
      skip 1
  let c ← look 0
  if !isSpaceOrEnd c then
    fail context (some start) ("expected chomping or indentation indicators, but found " ++
      quotePlain (String.singleton c))
  modify (·.skipWhile (· == ' '))
  if (← look 0) == '#' then modify (·.skipWhile (!isLineEnd ·))
  let c ← look 0
  if !isLineEnd c then
    fail context (some start) ("expected a comment or a line break, but found " ++
      quotePlain (String.singleton c))
  let _ ← lineBreak
  return (chomping, increment)

def fetchBlockScalar (folded : Bool) : ScanM Unit := do
  allowKey true
  removeKey
  let start ← here
  skip 1
  let (chomping, increment) ← blockHeader start
  let minIndent : Nat := ((← get).indent + 1).toNat
  let (indent, breaks0, stop0) ← match increment with
    | none => do
      let (breaks, deepest, stop) ← blockIndentation
      pure (max minIndent deepest, breaks, stop)
    | some inc => do
      let indent := max minIndent 1 + inc - 1
      let (breaks, stop) ← blockBreaks indent
      pure (indent, breaks, stop)
  let mut chunks := ""
  let mut breaks := breaks0
  let mut stop := stop0
  let mut lastBreak := ""
  for _ in [0:(← get).src.size + 1] do
    let s ← get
    if !(s.column == indent && !s.atEnd) then break
    chunks := chunks ++ breaks
    let leadingNonSpace := !(s.peekAt 0 == ' ' || s.peekAt 0 == '\t')
    let n := spanLength s.src (!isLineEnd ·) s.index
    chunks := chunks ++ keepText (s.ahead n)
    skip n
    lastBreak ← lineBreak
    let (b, e) ← blockBreaks indent
    breaks := b
    stop := e
    let s ← get
    if minIndent == 0 && s.column == 0 && s.markerAhead then break
    if s.column == indent && !s.atEnd then
      if folded && lastBreak == "\n" && leadingNonSpace && !(s.peekAt 0 == ' ' || s.peekAt 0 == '\t') then
        if breaks.isEmpty then chunks := chunks ++ " "
      else chunks := chunks ++ lastBreak
    else break
  if chomping != some false then chunks := chunks ++ lastBreak
  if chomping == some true then chunks := chunks ++ breaks
  emit (.scalar chunks (if folded then .folded else .literal)) start stop

def quotedBreaks (start : Mark) : ScanM String := do
  let mut chunks := ""
  for _ in [0:(← get).src.size + 1] do
    if (← get).markerAhead then
      fail (some "while scanning a quoted scalar") (some start) "found unexpected document separator"
    modify (·.skipWhile fun c => c == ' ' || c == '\t')
    if isBreak (← look 0) then chunks := chunks ++ (← lineBreak)
    else break
  return chunks

/-- The text that the code of an escape names, kept as scalar text is kept (a lone surrogate
stays one); a code beyond U+10FFFF names no character. -/
def escapedCode (code : Nat) : ScanM String :=
  if code > 0x10FFFF then throw (.unexpected "ValueError" "chr() arg not in range(0x110000)")
  else return ofCodePoints [code]

/-- The text of a quoted scalar up to a blank, a break or its closing quote, with escapes read
(in double quotes) and doubled single quotes read as one (in single quotes). -/
def quotedText (double : Bool) (start : Mark) : ScanM String := do
  let mut chunks := ""
  let context := some "while scanning a double-quoted scalar"
  for _ in [0:(← get).src.size + 1] do
    let s ← get
    let n := spanLength s.src (fun c => !"'\"\\\x00 \t\r\n\x85\u2028\u2029".contains c) s.index
    chunks := chunks ++ keepText (s.ahead n)
    skip n
    let s ← get
    let c := s.peekAt 0
    if !double && c == '\'' && s.peekAt 1 == '\'' then
      chunks := chunks.push '\''
      skip 2
    else if (double && c == '\'') || (!double && (c == '"' || c == '\\')) then
      chunks := chunks.push c
      skip 1
    else if double && c == '\\' then
      skip 1
      let c ← look 0
      match escapeReplacement c with
      | some r =>
        chunks := chunks.push r
        skip 1
      | none =>
        match escapeLength c with
        | some length =>
          skip 1
          let s ← get
          for k in [0:length] do
            if !isHexDigit (s.peekAt k) then
              fail context (some start) ("expected escape sequence of " ++ toString length ++
                " hexdecimal numbers, but found " ++ quotePlain (String.singleton (s.peekAt k)))
          let code := (s.ahead length).foldl (fun acc d => 16 * acc + hexValue d) 0
          chunks := chunks ++ (← escapedCode code)
          skip length
        | none =>
          if isBreak c then
            let _ ← lineBreak
            chunks := chunks ++ (← quotedBreaks start)
          else
            fail context (some start) ("found unknown escape character " ++ quotePlain (String.singleton c))
    else break
  return chunks

/-- Blanks and line breaks inside a quoted scalar, folded: blanks before text stay; a single
line break becomes a space, and further breaks stay. -/
def quotedSpaces (start : Mark) : ScanM String := do
  let s ← get
  let n := spanLength s.src (fun c => c == ' ' || c == '\t') s.index
  let blanks := s.ahead n
  skip n
  let s ← get
  let c := s.peekAt 0
  if s.atEnd then
    fail (some "while scanning a quoted scalar") (some start) "found unexpected end of stream"
  else if isBreak c then
    let first ← lineBreak
    let breaks ← quotedBreaks start
    return (if first != "\n" then first else if breaks.isEmpty then " " else "") ++ breaks
  else return blanks

def fetchQuoted (double : Bool) : ScanM Unit := do
  saveKey
  allowKey false
  let start ← here
  let quote ← look 0
  skip 1
  let mut chunks ← quotedText double start
  for _ in [0:(← get).src.size + 1] do
    if (← look 0) == quote then break
    chunks := chunks ++ (← quotedSpaces start)
    chunks := chunks ++ (← quotedText double start)
  skip 1
  emit (.scalar chunks (if double then .doubleQuoted else .singleQuoted)) start (← here)

/-- Blanks and line breaks after a stretch of a plain scalar, folded as in quoted scalars;
`none` when a document marker follows a break. -/
def plainSpaces : ScanM (Option String) := do
  let s ← get
  let n := spanLength s.src (· == ' ') s.index
  let blanks := s.ahead n
  skip n
  if isBreak (← look 0) then
    let first ← lineBreak
    allowKey true
    if (← get).markerAhead then return none
    let mut breaks := ""
    for _ in [0:(← get).src.size + 1] do
      let c ← look 0
      if c == ' ' then skip 1
      else if isBreak c then
        breaks := breaks ++ (← lineBreak)
        if (← get).markerAhead then return none
      else break
    return some ((if first != "\n" then first else if breaks.isEmpty then " " else "") ++ breaks)
  else return some blanks

/-- A plain scalar: stretches of text joined by their folded blanks, ending before a comment,
at a line left of the block's indentation (in block context), or where a stretch is empty. -/
def fetchPlain : ScanM Unit := do
  saveKey
  allowKey false
  let start ← here
  let indent := (← get).indent + 1
  let mut chunks := ""
  let mut spaces := ""
  let mut stop := start
  for _ in [0:(← get).src.size + 1] do
    let s ← get
    if s.peekAt 0 == '#' then break
    let n := s.plainLength 0
    if n == 0 then break
    allowKey false
    chunks := chunks ++ spaces ++ keepText (s.ahead n)
    skip n
    stop ← here
    match ← plainSpaces with
    | none => break
    | some sp =>
      let s ← get
      if sp.isEmpty || s.peekAt 0 == '#' || (s.flowLevel == 0 && (s.column : Int) < indent) then break
      spaces := sp
  emit (.scalar chunks .plain) start stop

def fetchMore : ScanM Unit := do
  toNextToken
  staleKeys
  modify fun s => s.unwind s.column
  let s ← get
  let c := s.peekAt 0
  let c1 := s.peekAt 1
  if s.atEnd then fetchStreamEnd
  else if c == '%' && s.column == 0 then fetchDirective
  else if c == '-' && s.column == 0 && s.markerAhead then fetchDocumentMarker .documentStart
  else if c == '.' && s.column == 0 && s.markerAhead then fetchDocumentMarker .documentEnd
  else if c == '[' then fetchFlowStart '[' .flowSequenceStart
  else if c == '\x7b' then fetchFlowStart '\x7b' .flowMappingStart
  else if c == ']' then fetchFlowEnd .flowSequenceEnd
  else if c == '\x7d' then fetchFlowEnd .flowMappingEnd
  else if c == ',' then fetchFlowEntry
  else if c == '-' && isBlankOrEnd c1 then fetchBlockEntry
  else if c == '?' && (s.flowLevel > 0 || isBlankOrEnd c1) then fetchKey
  else if c == ':' && s.checkValue then fetchValue
  else if c == '*' then fetchAnchor true
  else if c == '&' then fetchAnchor false
  else if c == '!' then fetchTag
  else if c == '|' && s.flowLevel == 0 then fetchBlockScalar false
  else if c == '>' && s.flowLevel == 0 then fetchBlockScalar true
  else if c == '\'' then fetchQuoted false
  else if c == '"' then fetchQuoted true
  else if s.checkPlain then fetchPlain
  else
    fail (some "while scanning for the next token") none
      ("found character " ++ quotePlain (String.singleton c) ++ " that cannot start any token")

/-- Whether more must be scanned before the next token can be handed out: nothing is waiting,
or the first waiting token could still get a key inserted before it. -/
def needMore : ScanM Bool := do
  let s ← get
  if s.done then return false
  if s.pending.isEmpty then return true
  staleKeys
  let s ← get
  return s.nextKeyNumber == some s.taken

def fill : ScanM Unit := do
  for _ in [0:3 * (← get).src.size + 16] do
    if ← needMore then fetchMore else break

/-- The next token, left in place. -/
def peekToken : ScanM (Option Token) := do
  fill
  return (← get).pending.head?

/-- The next token, taken. -/
def takeToken : ScanM (Option Token) := do
  fill
  let s ← get
  match s.pending with
  | t :: rest =>
    set { s with pending := rest, taken := s.taken + 1 }
    return some t
  | [] => return none

end Scanner

end Stencil.Yaml

import Stencil.Yaml.Token
/-!
# Implicit types of YAML scalars

A plain scalar without a tag gets its type from its text. The rules are tried in a fixed order,
each only for texts starting with one of its characters (the empty text has rules of its own),
and the first that matches the whole text (a final line feed aside) wins; a text no rule takes
is a string, as is every quoted scalar. By YAML 1.2:

* `true`, `True`, `TRUE`, `false`, `False`, `FALSE` are booleans;
* decimals with a point or an exponent, `.inf` and `.nan` in three spellings, are floats;
* decimal, binary (`0b`), octal (`0o`, or a leading `0`) and hexadecimal (`0x`) integers, with
  an optional sign and `_` between digits, are integers;
* `<<` merges mappings;
* `~`, `null`, `Null`, `NULL` and the empty text are null;
* `YYYY-MM-DD` is a date, and a date with a time of day after `T` or blanks (one-digit month,
  day and hour allowed there), optional fraction and time zone, is a timestamp;
* `=` is the value key, and `!`, `&`, `*` stand for the YAML tag itself.

YAML 1.1 adds `y`, `yes`, `n`, `no`, `on`, `off` in three spellings to the booleans; writes
octal with a leading `0` only, decimals without leading zeros, and adds base-60 integers
(`1:30`) and floats (`1:30.5`); and allows no sign before a float that starts with its point.

* `yamlTag` : the full name of a standard tag.
* `resolveScalar` : the tag of a scalar from its text.
* `Stamp`, `readStamp?` : the parts of a timestamp.
-/

namespace Stencil.Yaml

/-- The full name of a standard tag. -/
def yamlTag (name : String) : String := "tag:yaml.org,2002:" ++ name

def isDigitOrUnderscore (c : Char) : Bool := c.isDigit || c == '_'

def unsigned : List Char → List Char
  | c :: rest => if c == '-' || c == '+' then rest else c :: rest
  | [] => []

def boolTexts : List String := ["true", "True", "TRUE", "false", "False", "FALSE"]

def boolTextsOneOne : List String :=
  ["y", "Y", "yes", "Yes", "YES", "n", "N", "no", "No", "NO", "true", "True", "TRUE", "false", "False",
   "FALSE", "on", "On", "ON", "off", "Off", "OFF"]

def nullTexts : List String := ["~", "null", "Null", "NULL", ""]

/-- An optional exponent `e` or `E`, a sign (required when `signed`) and digits, and nothing
after it. -/
def exponentTail (signed : Bool) : List Char → Bool
  | [] => true
  | e :: rest =>
    (e == 'e' || e == 'E') &&
      match rest with
      | s :: ds =>
        if s == '-' || s == '+' then !ds.isEmpty && ds.all Char.isDigit
        else !signed && rest.all Char.isDigit
      | [] => false

/-- Base-60 places after the first, read from state `state`: at 0 a `:` must come, at 1 a digit
after a `:`, at 2 a digit up to 5 was read (a second digit may follow), at 3 a greater digit or
at 4 a second digit was read. The places end after a place of one or two digits. -/
def sexagesimalFrom (state : Nat) : List Char → Bool
  | [] => state ≥ 2
  | c :: rest =>
    if c == ':' then (state == 0 || state ≥ 2) && sexagesimalFrom 1 rest
    else if c.isDigit then
      if state == 1 then sexagesimalFrom (if c ≤ '5' then 2 else 3) rest
      else state == 2 && sexagesimalFrom 4 rest
    else false

/-- Base-60 places after the first: one or more `:` each followed by one digit or by two with
the first at most 5. -/
def sexagesimalPlaces (cs : List Char) : Bool := sexagesimalFrom 0 cs

/-- A base-60 number: a first place of digits and underscores starting with a digit (`first`
says which), then base-60 places. -/
def isSexagesimal (first : Char → Bool) : List Char → Bool
  | c :: rest => first c && sexagesimalPlaces (rest.dropWhile isDigitOrUnderscore)
  | [] => false

/-- Texts of floats: digits with a point, digits with an exponent, a point with digits (and a
signed exponent; by YAML 1.1 without a sign in front), base-60 numbers with a point by YAML
1.1, infinity and not-a-number. -/
def isFloatText (oneOne : Bool) (s : String) : Bool :=
  let cs := s.toList
  if [".nan", ".NaN", ".NAN"].contains s then true
  else
    let body := unsigned cs
    if [".inf", ".Inf", ".INF"].contains (String.ofList body) then true
    else
      let pointFirst := match (if oneOne then cs else body) with
        | '.' :: rest =>
          let frac := rest.takeWhile isDigitOrUnderscore
          !frac.isEmpty && exponentTail true (rest.drop frac.length)
        | _ => false
      let digitsFirst := match body with
        | c :: rest =>
          c.isDigit &&
            let after := rest.dropWhile isDigitOrUnderscore
            match after with
            | '.' :: tail => exponentTail false (tail.dropWhile isDigitOrUnderscore)
            | _ => !after.isEmpty && exponentTail false after
        | [] => false
      let sexagesimal := oneOne &&
        let lastPoint := body.reverse.takeWhile (· != '.')
        let whole := (body.reverse.drop (lastPoint.length + 1)).reverse
        lastPoint.length < body.length && lastPoint.all isDigitOrUnderscore &&
          isSexagesimal Char.isDigit whole
      pointFirst || digitsFirst || sexagesimal

/-- Texts of integers by YAML 1.2: binary after `0b`, octal after `0o` or `0`, decimal, or
hexadecimal after `0x`, with underscores anywhere among the digits. -/
def isIntText (s : String) : Bool :=
  let body := unsigned s.toList
  let allOf := fun (ok : Char → Bool) (cs : List Char) => !cs.isEmpty && cs.all ok
  let binary := fun (c : Char) => c == '0' || c == '1' || c == '_'
  let octal := fun (c : Char) => ('0' ≤ c && c ≤ '7') || c == '_'
  let hex := fun (c : Char) =>
    c.isDigit || ('a' ≤ c && c ≤ 'f') || ('A' ≤ c && c ≤ 'F') || c == '_'
  match body with
  | '0' :: 'b' :: rest => allOf binary rest
  | '0' :: 'x' :: rest => allOf hex rest
  | '0' :: 'o' :: rest => allOf octal rest || allOf isDigitOrUnderscore body
  | _ => allOf isDigitOrUnderscore body || (body.head? == some '0' && allOf octal body.tail)

/-- Texts of integers by YAML 1.1: binary after `0b`, octal digits (with or without a leading
`0`), `0` or decimals without a leading zero, hexadecimal after `0x`, or base-60 numbers. -/
def isIntTextOneOne (s : String) : Bool :=
  let body := unsigned s.toList
  let allOf := fun (ok : Char → Bool) (cs : List Char) => !cs.isEmpty && cs.all ok
  let binary := fun (c : Char) => c == '0' || c == '1' || c == '_'
  let octal := fun (c : Char) => ('0' ≤ c && c ≤ '7') || c == '_'
  let hex := fun (c : Char) =>
    c.isDigit || ('a' ≤ c && c ≤ 'f') || ('A' ≤ c && c ≤ 'F') || c == '_'
  let nonZero := fun (c : Char) => c.isDigit && c != '0'
  match body with
  | '0' :: 'b' :: rest => allOf binary rest
  | '0' :: 'x' :: rest => allOf hex rest
  | _ =>
    allOf octal body || body == ['0'] ||
      (body.head?.any nonZero && body.tail.all isDigitOrUnderscore) || isSexagesimal nonZero body

/-- A time zone: none, `Z`, or an offset with a sign, hours and minutes, and its text. -/
inductive Zone where
  | none
  | utc
  | offset (negative : Bool) (hours minutes : Nat) (text : String)
deriving Inhabited, Repr

/-- The time of a timestamp: hours, minutes, seconds, the digits of the fraction, and the zone. -/
structure StampTime where
  hour : Nat
  minute : Nat
  second : Nat
  fraction : List Char
  zone : Zone
deriving Inhabited, Repr

/-- The parts of a timestamp: year, month, day, and the time when there is one. -/
structure Stamp where
  year : Nat
  month : Nat
  day : Nat
  time : Option StampTime
deriving Inhabited, Repr

def digitsValue (ds : List Char) : Nat := ds.foldl (fun n d => 10 * n + (d.toNat - '0'.toNat)) 0

def oneOrTwoDigits : List Char → Option (Nat × List Char)
  | a :: b :: rest =>
    if a.isDigit && b.isDigit then some (digitsValue [a, b], rest)
    else if a.isDigit then some (digitsValue [a], b :: rest)
    else none
  | [a] => if a.isDigit then some (digitsValue [a], []) else none
  | [] => none

def twoDigits : List Char → Option (Nat × List Char)
  | a :: b :: rest => if a.isDigit && b.isDigit then some (digitsValue [a, b], rest) else none
  | _ => none

/-- A time zone that makes up the whole rest: after blanks, `Z` or a signed offset of one or
two hour digits and optional `:` with two minute digits. -/
def readZone (cs : List Char) : Option Zone :=
  let zone := cs.dropWhile (fun c => c == ' ' || c == '\t')
  match zone with
  | ['Z'] => some .utc
  | s :: rest =>
    if s == '-' || s == '+' then do
      let (h, rest) ← oneOrTwoDigits rest
      match rest with
      | [] => some (.offset (s == '-') h 0 (String.ofList zone))
      | ':' :: rest =>
        let (m, rest) ← twoDigits rest
        if rest.isEmpty then some (.offset (s == '-') h m (String.ofList zone)) else none
      | _ => none
    else none
  | [] => none

/-- The parts of a timestamp text: four-digit year, one- or two-digit month and day, and
optionally a time after `T`, `t` or blanks with one- or two-digit hour, two-digit minute and
second, a fraction and a zone; a final line feed is left out. -/
def readStamp? (s : String) : Option Stamp := do
  let cs := if s.toList.getLast? == some '\n' then s.toList.dropLast else s.toList
  let year := cs.take 4
  if !(year.length == 4 && year.all Char.isDigit) then none
  let rest := cs.drop 4
  let rest ← match rest with
    | '-' :: r => some r
    | _ => none
  let (month, rest) ← oneOrTwoDigits rest
  let rest ← match rest with
    | '-' :: r => some r
    | _ => none
  let (day, rest) ← oneOrTwoDigits rest
  match rest with
  | [] => return ⟨digitsValue year, month, day, none⟩
  | sep :: afterSep =>
    let rest ←
      if sep == 'T' || sep == 't' then some afterSep
      else if sep == ' ' || sep == '\t' then some (afterSep.dropWhile fun c => c == ' ' || c == '\t')
      else none
    let (hour, rest) ← oneOrTwoDigits rest
    let rest ← match rest with
      | ':' :: r => some r
      | _ => none
    let (minute, rest) ← twoDigits rest
    let rest ← match rest with
      | ':' :: r => some r
      | _ => none
    let (second, rest) ← twoDigits rest
    let (fraction, rest) := match rest with
      | '.' :: r => (r.takeWhile Char.isDigit, r.dropWhile Char.isDigit)
      | r => ([], r)
    let zone ← if rest.isEmpty then some Zone.none else readZone rest
    return ⟨digitsValue year, month, day, some ⟨hour, minute, second, fraction, zone⟩⟩

def isTimestampText (s : String) : Bool :=
  s.toList.getLast? != some '\n' &&
  let cs := s.toList
  let dateOnly := cs.length == 10 && cs[4]? == some '-' && cs[7]? == some '-' &&
    ((cs.take 4) ++ (cs.drop 5).take 2 ++ cs.drop 8).all Char.isDigit
  dateOnly || ((readStamp? s).bind (·.time)).isSome

/-- The rules that a text starting with `first` is tried by, in order (`none` for the empty
text), each a tag and a test of the whole text. -/
def implicitRules (version : Version) (first : Option Char) : List (String × (String → Bool)) :=
  let oneOne := version == .v11
  let is := fun (cs : String) => match first with
    | some c => cs.toList.contains c
    | none => false
  (if oneOne then
      (if is "yYnNtTfFoO" then [("bool", fun v => boolTextsOneOne.contains v)] else [])
    else (if is "tTfF" then [("bool", fun v => boolTexts.contains v)] else [])) ++
  (if is "-+0123456789." then [("float", isFloatText oneOne)] else []) ++
  (if is "-+0123456789" then [("int", if oneOne then isIntTextOneOne else isIntText)] else []) ++
  (if is "<" then [("merge", (· == "<<"))] else []) ++
  (if is "~nN" || first.isNone then [("null", fun v => nullTexts.contains v)] else []) ++
  (if is "0123456789" then [("timestamp", isTimestampText)] else []) ++
  (if is "=" then [("value", (· == "="))] else []) ++
  (if is "!&*" then [("yaml", fun v => v == "!" || v == "&" || v == "*")] else [])

/-- The tag of a scalar from its text, by the rules of a version: only a plain scalar (without a
tag, or with `!`) gets one other than string. A final line feed does not keep a rule from
matching. -/
def resolveScalar (version : Version) (value : String) (plainImplicit : Bool) : String :=
  if !plainImplicit then yamlTag "str"
  else
    let cs := value.toList
    let matched := String.ofList (if cs.getLast? == some '\n' then cs.dropLast else cs)
    match (implicitRules version cs.head?).find? (fun (_, test) => test matched) with
    | some (tag, _) => yamlTag tag
    | none => yamlTag "str"

example : resolveScalar .v12 "yes" true = yamlTag "str" ∧ resolveScalar .v11 "yes" true = yamlTag "bool" ∧
    resolveScalar .v11 "190:20:30" true = yamlTag "int" := by
  decide

end Stencil.Yaml

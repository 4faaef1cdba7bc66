import Stencil.Display.Repr
import Stencil.Number.Nearest
import Stencil.Text.Base64
import Stencil.Text.Blank
import Stencil.Text.Case
import Stencil.Text.Digit
import Stencil.Text.Integer
import Stencil.Yaml.Node
/-!
# Values of YAML scalars

A scalar with one of the scalar tags becomes a value by its text: a string, null, a boolean, an
integer, a float, a date or date-time, or the bytes of base64 text. The number rules depend on
the version the text is read by: YAML 1.1 reads a leading `0` as octal and `:` as base-60 places.

Numbers are read the way whole-number and decimal literals are: blanks around, a sign, digits
of any script; integers of more than 4300 decimal digits are refused. A date-time keeps the
offset of its time zone; an offset must lie strictly within a day, and a fraction that rounds up
to a whole second adds a second.

* `readWhole` : the integer of a literal in a base.
* `constructInt`, `constructFloat`, `constructTimestamp`, `constructBinary` : the values.
* `constructScalar` : the value of a scalar with a tag.
-/

namespace Stencil.Yaml

open Stencil.Text

def scalarTags : List String := ["str", "null", "bool", "int", "float", "timestamp", "binary"].map yamlTag

def boolWords : List (String × Bool) :=
  [("yes", true), ("no", false), ("y", true), ("n", false), ("true", true), ("false", false),
   ("on", true), ("off", false)]

def colonPieces : List Char → List (List Char)
  | [] => [[]]
  | c :: r =>
    match colonPieces r with
    | [] => [[c]]
    | p :: ps => if c = ':' then [] :: p :: ps else (c :: p) :: ps

def baseDigit? (c : Char) : Option Nat :=
  match digitValue? c with
  | some d => some d
  | none =>
    if 'a' ≤ c ∧ c ≤ 'z' then some (c.toNat - 'a'.toNat + 10)
    else if 'A' ≤ c ∧ c ≤ 'Z' then some (c.toNat - 'A'.toNat + 10)
    else none

def badIntMessage (base : Nat) (text : String) : String :=
  "invalid literal for int() with base " ++ toString base ++ ": " ++
    String.ofList ((quoteText text).toList.take 200)

/-- The integer a literal names in a base: blanks around, an optional sign, in bases 2, 8 and 16
an optional `0b`, `0o` or `0x`, then one or more digits of the base; in base 10 at most 4300
digits. -/
def readWhole (base : Nat) (text : String) : Except YamlError Int := do
  let cs := trimBlankList text.toList
  let (negative, body) := match cs with
    | '-' :: r => (true, r)
    | '+' :: r => (false, r)
    | r => (false, r)
  let marker := if base == 2 then some 'b' else if base == 8 then some 'o' else if base == 16 then some 'x'
    else none
  let body := match body, marker with
    | '0' :: m :: r, some x => if m.toLower == x then r else body
    | _, _ => body
  let bad := YamlError.badValue (badIntMessage base text)
  let some ds := body.mapM fun c => (baseDigit? c).bind fun d => if d < base then some d else none
    | throw bad
  if ds.isEmpty then throw bad
  if base == 10 && ds.length > literalDigitLimit then
    throw (.badValue ("Exceeds the limit (" ++ toString literalDigitLimit ++
      " digits) for integer string conversion: value has " ++ toString ds.length ++
      " digits; use sys.set_int_max_str_digits() to increase the limit"))
  let n : Nat := ds.foldl (fun acc d => acc * base + d) 0
  return if negative then -(n : Int) else n

/-- An integer from its text: underscores are dropped, then a sign, then `0b`, `0x` or `0o` with
binary, hexadecimal or octal digits, or decimal digits; by YAML 1.1 a leading `0` means octal and
`:` separates base-60 places, the most significant first. -/
def constructInt (version : Version) (text : String) : Except YamlError Value := do
  match text.toList.filter (· != '_') with
  | [] => throw (.unexpected "IndexError" "string index out of range")
  | c :: rest =>
    let negative := c == '-'
    let body := if c == '-' || c == '+' then rest else c :: rest
    let signed := fun (n : Int) => Value.int (if negative then -n else n)
    match body with
    | ['0'] => return .int 0
    | '0' :: 'b' :: ds => return signed (← readWhole 2 (String.ofList ds))
    | '0' :: 'x' :: ds => return signed (← readWhole 16 (String.ofList ds))
    | '0' :: 'o' :: ds => return signed (← readWhole 8 (String.ofList ds))
    | _ =>
      if version == .v11 then
        match body with
        | [] => throw (.unexpected "IndexError" "string index out of range")
        | '0' :: _ => return signed (← readWhole 8 (String.ofList body))
        | _ =>
          if body.contains ':' then
            let places ← (colonPieces body).mapM fun p => readWhole 10 (String.ofList p)
            return signed (places.foldl (fun acc d => acc * 60 + d) 0)
          else return signed (← readWhole 10 (String.ofList body))
      else return signed (← readWhole 10 (String.ofList body))

def readDecimal (cs : List Char) : Option (Nat × Int) := do
  let intPart := cs.takeWhile Char.isDigit
  let rest := cs.drop intPart.length
  let (frac, rest) := match rest with
    | '.' :: r => (r.takeWhile Char.isDigit, r.dropWhile Char.isDigit)
    | r => ([], r)
  if intPart.isEmpty && frac.isEmpty then none
  let e : Int ← match rest with
    | [] => some 0
    | 'e' :: r | 'E' :: r =>
      let (negative, ds) := match r with
        | '-' :: ds => (true, ds)
        | '+' :: ds => (false, ds)
        | ds => (false, ds)
      if ds.isEmpty || !ds.all Char.isDigit then none
      else some (if negative then -(digitsValue ds : Int) else digitsValue ds)
    | _ => none
  return (digitsValue (intPart ++ frac), e - frac.length)

/-- The double a decimal literal names: blanks around, an optional sign, then a decimal number,
or infinity or not-a-number in any case. -/
def readDouble (text : String) : Except YamlError Float := do
  let cs := trimBlankList text.toList
  let (negative, body) := match cs with
    | '-' :: r => (true, r)
    | '+' :: r => (false, r)
    | r => (false, r)
  let word := lowerText (String.ofList body)
  if word == "inf" || word == "infinity" then
    return if negative then -(1.0 / 0.0) else 1.0 / 0.0
  if word == "nan" then return 0.0 / 0.0
  match readDecimal body with
  | some (m, e) => return Number.decimalToFloat negative m e
  | none => throw (.badValue ("could not convert string to float: " ++ quoteText text))

/-- A float from its text: underscores are dropped and letters lowered, then a sign, then
`.inf`, `.nan` or a decimal number; by YAML 1.1 `:` separates base-60 places, added up from the
least significant. -/
def constructFloat (version : Version) (text : String) : Except YamlError Value := do
  match (lowerText text).toList.filter (· != '_') with
  | [] => throw (.unexpected "IndexError" "string index out of range")
  | c :: rest =>
    let negative := c == '-'
    let body := if c == '-' || c == '+' then rest else c :: rest
    let signed := fun (x : Float) => Value.float (if negative then -x else x)
    if body == ".inf".toList then return signed (1.0 / 0.0)
    if body == ".nan".toList then return .float (0.0 / 0.0)
    if version != .v12 && body.contains ':' then
      let places ← (colonPieces body).mapM fun p => readDouble (String.ofList p)
      let (total, _) := places.reverse.foldl (fun (acc : Float × Nat) d =>
        (acc.1 + d * Float.ofNat acc.2, acc.2 * 60)) (0.0, 1)
      return signed total
    return signed (← readDouble (String.ofList body))

/-- The microseconds of a fraction: its first six digits, rounded up by the seventh from 5 on;
a fraction that rounds up to a whole second counts as zero. -/
def microseconds (fraction : List Char) : Nat :=
  let six := digitsValue ((fraction.take 6) ++ List.replicate (6 - fraction.length) '0')
  let up := match fraction[6]? with
    | some d => if d > '4' then 1 else 0
    | none => 0
  if six + up > 999999 then 0 else six + up

def fractionCarries (fraction : List Char) : Bool :=
  let six := digitsValue ((fraction.take 6) ++ List.replicate (6 - fraction.length) '0')
  let up := match fraction[6]? with
    | some d => if d > '4' then 1 else 0
    | none => 0
  six + up > 999999

def checkDay (year month day : Nat) : Except YamlError Date := do
  if year < 1 || year > 9999 then throw (.badValue ("year " ++ toString year ++ " is out of range"))
  if month < 1 || month > 12 then throw (.badValue "month must be in 1..12")
  if day < 1 || day > Date.daysInMonth year month then throw (.badValue "day is out of range for month")
  return ⟨year, month, day⟩

/-- The time zone of a timestamp: `Z` is universal time, and an offset must lie strictly within
a day. -/
def timeZoneOf : Zone → Except YamlError (Option TimeZone)
  | .none => pure none
  | .utc => pure (some ⟨0, "Z"⟩)
  | .offset negative h m text =>
    let minutes : Int := (if negative then -1 else 1) * ((h * 60 + m : Nat) : Int)
    if minutes.natAbs ≥ 1440 then
      throw (.badValue ("offset must be a timedelta strictly between -timedelta(hours=24) and " ++
        "timedelta(hours=24), not " ++ durationLiteral (minutes * 60) ++ "."))
    else pure (some ⟨minutes, text⟩)

def nextSecond (t : DateTime) : Except YamlError DateTime := do
  let total : Int := t.date.toDays * 86400 + (t.hour * 3600 + t.minute * 60 + t.second : Nat) + 1
  let day := Date.ofDays (total.fdiv 86400)
  let secs := (total.fmod 86400).toNat
  if day.year < 1 || day.year > 9999 then throw (.unexpected "OverflowError" "date value out of range")
  return { t with date := day, hour := secs / 3600, minute := secs % 3600 / 60, second := secs % 60 }

/-- A date or date-time from a timestamp's text. The time zone is checked first, then the date
and the time; a fraction that rounds up to a whole second becomes no microseconds and one second
more. -/
def constructTimestamp (text : String) (start : Mark) : Except YamlError Value := do
  let some st := readStamp? text
    | throw (.marked none none ("failed to construct timestamp from \"" ++ text ++ "\"") start none)
  match st.time with
  | none => return .date (← checkDay st.year st.month st.day)
  | some t =>
    let zone ← timeZoneOf t.zone
    let date ← checkDay st.year st.month st.day
    if t.hour > 23 then throw (.badValue "hour must be in 0..23")
    if t.minute > 59 then throw (.badValue "minute must be in 0..59")
    if t.second > 59 then throw (.badValue "second must be in 0..59")
    let moment : DateTime := ⟨date, t.hour, t.minute, t.second, microseconds t.fraction, zone⟩
    if fractionCarries t.fraction then return .datetime (← nextSecond moment)
    return .datetime moment

/-- The message for characters that are not ASCII at `first`: one by its code, a run by its
places. -/
def nonAsciiMessage (cs : List Char) (first : Nat) : String :=
  let run := ((cs.drop first).takeWhile fun c => c.toNat ≥ 128).length
  let c := cs.getD first ' '
  let code := if c.toNat < 0x100 then "\\x" ++ hexDigits 2 c.toNat
    else if c.toNat < 0x10000 then "\\u" ++ hexDigits 4 c.toNat
    else "\\U" ++ hexDigits 8 c.toNat
  if run == 1 then
    "'ascii' codec can't encode character '" ++ code ++ "' in position " ++ toString first ++
      ": ordinal not in range(128)"
  else
    "'ascii' codec can't encode characters in position " ++ toString first ++ "-" ++
      toString (first + run - 1) ++ ": ordinal not in range(128)"

/-- The bytes of a base64 scalar; its text must be ASCII. -/
def constructBinary (text : String) (start : Mark) : Except YamlError Value :=
  let cs := text.toList
  match cs.findIdx? (fun c => c.toNat ≥ 128) with
  | some i =>
    .error (.marked none none ("failed to convert base64 data into ascii: " ++ nonAsciiMessage cs i)
      start none)
  | none =>
    match decodeBase64 cs with
    | .ok bytes => .ok (.bytes bytes)
    | .error e => .error (.marked none none ("failed to decode base64 data: " ++ e) start none)

/-- The value of a scalar with one of the scalar tags, by the rules of a version. -/
def constructScalar (version : Version) (tag text : String) (start : Mark) : Except YamlError Value :=
  if tag == yamlTag "str" then pure (.str text)
  else if tag == yamlTag "null" then pure .null
  else if tag == yamlTag "bool" then
    match boolWords.lookup (lowerText text) with
    | some b => pure (.bool b)
    | none => throw (.unexpected "KeyError" (quoteText (lowerText text)))
  else if tag == yamlTag "int" then constructInt version text
  else if tag == yamlTag "float" then constructFloat version text
  else if tag == yamlTag "timestamp" then constructTimestamp text start
  else if tag == yamlTag "binary" then constructBinary text start
  else throw (.marked none none ("could not determine a constructor for the tag " ++ quoteText tag) start none)

end Stencil.Yaml

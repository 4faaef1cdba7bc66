import Stencil.Data.Value
import Stencil.Number.Nearest
import Stencil.Text.Blank
import Stencil.Text.Case
import Stencil.Text.Digit
/-!
# Dates in data

A value is read as a calendar day when it is a date or a date-time, a number of milliseconds
since 1970-01-01 UTC, or a text `YYYY-MM-DD` (separators `-`, `.` or `/`, month and day of one
or two digits, an optional time and zone after `T` or a space). Days are written with a short
pattern chosen by a language tag.

* `Date.ofEpochSeconds?` : the UTC day of an instant given in seconds as a double.
* `Date.read?` : the day a text names.
* `Value.toDate?` : the day a value stands for.
* `datePattern` : the pattern of a language tag.
* `Date.format` : a day written with a pattern.
-/

namespace Stencil

open Stencil.Text Stencil.Number

namespace Date

/-! ## Instants -/

def roundHalfEven (x : Float) : Float :=
  let r := x.round
  if (x - r).abs == 0.5 then 2.0 * (x / 2.0).round else r

/-- The whole seconds of an instant: the whole part of the double, moved by one when its
fraction rounds to a full second at microsecond precision or stays below zero. -/
def wholeSeconds (t : Float) : Float :=
  let whole := if t ≥ 0.0 then t.floor else t.ceil
  let micros := roundHalfEven ((t - whole) * 1000000.0)
  if micros ≥ 1000000.0 then whole + 1.0
  else if micros < 0.0 then whole - 1.0
  else whole

/-- The UTC day of an instant given in seconds since 1970-01-01, when that day has a year from 1
to 9999. -/
def ofEpochSeconds? (t : Float) : Option Date :=
  match classify (wholeSeconds t) with
  | .finite neg b =>
    if b.ltPow10 19 then
      let secs : Int := if neg then -(b.toNat : Int) else b.toNat
      let d := ofDays (secs.fdiv 86400)
      if 1 ≤ d.year ∧ d.year ≤ 9999 then some d else none
    else none
  | _ => none

/-! ## Texts -/

def digitsValue (ds : List Char) : Nat :=
  ds.foldl (fun acc c => acc * 10 + (digitValue? c).getD 0) 0

def takeDigits (n : Nat) (cs : List Char) : List Char × List Char :=
  let ds := (cs.take n).takeWhile isDigit
  (ds, cs.drop ds.length)

def isClockChar (c : Char) : Bool := c.isDigit || c = ':' || c = '.' || c = ','

def afterZone : List Char → Option (List Char)
  | 'Z' :: r => some r
  | s :: a :: b :: r =>
    if (s = '+' ∨ s = '-') ∧ isDigit a ∧ isDigit b then
      let r := match r with
        | ':' :: r' => r'
        | _ => r
      match r with
      | c :: d :: r' => if isDigit c ∧ isDigit d then some r' else none
      | _ => none
    else none
  | _ => none

/-- What may follow the day: white space only, or a time after `T` or a space, with an
optional zone, then white space. -/
def isDayEnd (cs : List Char) : Bool :=
  cs.all isBlank ||
    match cs with
    | c :: r =>
      (c = 'T' ∨ c = ' ') &&
        let clock := r.takeWhile isClockChar
        let rest := r.dropWhile isClockChar
        !clock.isEmpty && (rest.all isBlank || ((afterZone rest).map (·.all isBlank)).getD false)
    | [] => false

def isDateSeparator (c : Char) : Bool := c = '-' ∨ c = '.' ∨ c = '/'

/-- The day a text names: optional white space, four digits of year, a separator, one or two
digits of month, a separator, one or two digits of day, then what `isDayEnd` allows; the day
must exist. -/
def read? (s : String) : Option Date :=
  let cs := dropBlank s.toList
  let (ys, r) := takeDigits 4 cs
  match r with
  | s1 :: r =>
    let (ms, r) := takeDigits 2 r
    match r with
    | s2 :: r =>
      let (ds, r) := takeDigits 2 r
      if ys.length = 4 ∧ isDateSeparator s1 ∧ !ms.isEmpty ∧ isDateSeparator s2 ∧ !ds.isEmpty ∧
          isDayEnd r then
        valid? (digitsValue ys) (digitsValue ms) (digitsValue ds)
      else none
    | [] => none
  | [] => none

/-! ## Patterns -/

/-- A day written with a pattern: `%Y` the year, `%m` and `%d` the month and day with two
digits, `%%` a percent sign; other characters stand for themselves. -/
def formatChars (d : Date) : List Char → List Char
  | '%' :: 'Y' :: r => (toString d.year).toList ++ formatChars d r
  | '%' :: 'm' :: r => (pad 2 d.month).toList ++ formatChars d r
  | '%' :: 'd' :: r => (pad 2 d.day).toList ++ formatChars d r
  | '%' :: '%' :: r => '%' :: formatChars d r
  | c :: r => c :: formatChars d r
  | [] => []

/-- A day written with a pattern. -/
def format (d : Date) (pattern : String) : String := String.ofList (formatChars d pattern.toList)

end Date

/-! ## Values -/

/-- The day a value stands for: a date itself, the day of a date-time, the UTC day of a number
of milliseconds since 1970-01-01, or the day a text names. Booleans, and integers too large for
a double, stand for none. -/
def Value.toDate? : Value → Option Date
  | .date d => some d
  | .datetime t => some t.date
  | .int n => (intToFloat? n).bind fun x => Date.ofEpochSeconds? (x / 1000.0)
  | .float x => Date.ofEpochSeconds? (x / 1000.0)
  | .str s => Date.read? s
  | _ => none

/-! ## Languages -/

def datePatterns : List (String × String) :=
  [("en", "%m/%d/%Y"), ("en-us", "%m/%d/%Y"), ("en-gb", "%d/%m/%Y"), ("de", "%d.%m.%Y"),
   ("ru", "%d.%m.%Y"), ("fr", "%d/%m/%Y"), ("es", "%d/%m/%Y"), ("it", "%d/%m/%Y"),
   ("nl", "%d-%m-%Y"), ("ja", "%Y/%m/%d"), ("zh", "%Y/%m/%d")]

def defaultDatePattern : String := "%m/%d/%Y"

/-- The pattern of a language tag: the tag is trimmed, lower-cased and written with `-`; its own
pattern if it has one, else the pattern of its primary subtag, else the default. -/
def datePattern (language : Option String) : String :=
  match language with
  | none => defaultDatePattern
  | some s =>
    if s.isEmpty then defaultDatePattern
    else
      let tag := (lowerText (trimBlank s)).map fun c => if c = '_' then '-' else c
      match datePatterns.lookup tag with
      | some p => p
      | none =>
        let primary := String.ofList (tag.toList.takeWhile (· ≠ '-'))
        (datePatterns.lookup primary).getD defaultDatePattern

def formatDate (v : Value) (language : Option String) : Option String :=
  v.toDate?.map (·.format (datePattern language))

end Stencil

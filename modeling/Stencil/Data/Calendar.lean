/-!
# Calendar dates and times

Dates of the proleptic Gregorian calendar with years 1 to 9999, and date-times with
microseconds, either naive or at a fixed offset from universal time. Days are counted from
1970-01-01 (`Date.ofDays`, `Date.toDays`).

* `Date`, `TimeZone`, `DateTime` : the values.
* `Date.valid?` : a date from year, month and day, if it exists.
* `Date.ofDays` : the date a number of days after 1970-01-01.
* `Date.iso`, `DateTime.iso`, `DateTime.text` : the ISO texts, the offset last.
* `TimeZone.offsetText` : an offset as `+HH:MM`.
-/

namespace Stencil

/-- A calendar day. -/
structure Date where
  year : Nat
  month : Nat
  day : Nat
deriving DecidableEq, Repr

/-- A fixed offset from universal time, in minutes east, with the text that named it. -/
structure TimeZone where
  minutes : Int
  name : String
deriving DecidableEq, Repr

/-- A calendar day with a time of day, and the offset of its time zone when it has one. -/
structure DateTime where
  date : Date
  hour : Nat
  minute : Nat
  second : Nat
  micro : Nat
  zone : Option TimeZone
deriving DecidableEq, Repr

namespace Date

def isLeap (y : Nat) : Bool := (y % 4 == 0 && y % 100 != 0) || y % 400 == 0

def daysInMonth (y m : Nat) : Nat :=
  match m with
  | 1 | 3 | 5 | 7 | 8 | 10 | 12 => 31
  | 4 | 6 | 9 | 11 => 30
  | 2 => if isLeap y then 29 else 28
  | _ => 0

/-- The date with these parts, when it exists and its year lies in 1 to 9999. -/
def valid? (y m d : Nat) : Option Date :=
  if 1 ≤ y ∧ y ≤ 9999 ∧ 1 ≤ m ∧ m ≤ 12 ∧ 1 ≤ d ∧ d ≤ daysInMonth y m then some ⟨y, m, d⟩
  else none

/-- The date `n` days after 1970-01-01 (before it for negative `n`), by eras of 400 years. -/
def ofDays (n : Int) : Date :=
  let z := n + 719468
  let era := z.fdiv 146097
  let doe := z - era * 146097
  let yoe := (doe - doe / 1460 + doe / 36524 - doe / 146096) / 365
  let y := yoe + era * 400
  let doy := doe - (365 * yoe + yoe / 4 - yoe / 100)
  let mp := (5 * doy + 2) / 153
  let d := doy - (153 * mp + 2) / 5 + 1
  let m := if mp < 10 then mp + 3 else mp - 9
  let y := if m ≤ 2 then y + 1 else y
  ⟨y.toNat, m.toNat, d.toNat⟩

/-- The number of days from 1970-01-01 to the date. -/
def toDays (dt : Date) : Int :=
  let y : Int := if dt.month ≤ 2 then (dt.year : Int) - 1 else dt.year
  let era := y.fdiv 400
  let yoe := y - era * 400
  let m : Int := dt.month
  let mp := if m > 2 then m - 3 else m + 9
  let doy := (153 * mp + 2) / 5 + dt.day - 1
  let doe := yoe * 365 + yoe / 4 - yoe / 100 + doy
  era * 146097 + doe - 719468

def pad (w n : Nat) : String :=
  let s := toString n
  String.ofList (List.replicate (w - s.length) '0') ++ s

/-- `YYYY-MM-DD`. -/
def iso (d : Date) : String := pad 4 d.year ++ "-" ++ pad 2 d.month ++ "-" ++ pad 2 d.day

end Date

/-- An offset as a sign and two-digit hours and minutes: `-05:00`, `+00:00`. -/
def TimeZone.offsetText (z : TimeZone) : String :=
  let m := z.minutes.natAbs
  (if z.minutes < 0 then "-" else "+") ++ Date.pad 2 (m / 60) ++ ":" ++ Date.pad 2 (m % 60)

namespace DateTime

/-- The time of day `HH:MM:SS`, with `.ffffff` when there are microseconds, and the offset when
there is a time zone. -/
def clock (t : DateTime) : String :=
  Date.pad 2 t.hour ++ ":" ++ Date.pad 2 t.minute ++ ":" ++ Date.pad 2 t.second ++
    (if t.micro = 0 then "" else "." ++ Date.pad 6 t.micro) ++
    (match t.zone with
     | some z => z.offsetText
     | none => "")

/-- The ISO text with a `T` between date and time. -/
def iso (t : DateTime) : String := t.date.iso ++ "T" ++ t.clock

/-- The text with a space between date and time. -/
def text (t : DateTime) : String := t.date.iso ++ " " ++ t.clock

def instant (t : DateTime) : Int :=
  t.date.toDays * 86400 + (t.hour * 3600 + t.minute * 60 + t.second : Nat) -
    (match t.zone with
     | some z => z.minutes * 60
     | none => 0)

end DateTime

example : Date.ofDays 0 = ⟨1970, 1, 1⟩ ∧ Date.toDays ⟨1, 1, 1⟩ = -719162 := by decide

end Stencil

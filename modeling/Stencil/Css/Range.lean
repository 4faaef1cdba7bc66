import Stencil.Css.Lexical
import Stencil.Number.Nearest
/-!
# Values of bounded form controls

`:in-range` and `:out-of-range` compare the `value` of an input with its `min` and `max`, each
read by the input's type: a date `YYYY-MM-DD`, a month `YYYY-MM`, a week `YYYY-Www`, a time
`hh:mm`, a local date and time `YYYY-MM-DDThh:mm`, or a number (for `number` and `range`, taken
as the nearest double). Years have four digits or more and are positive; the other parts have
two digits and must name a real month, day, week, hour and minute. One line feed may end the
text. A text of another form has no value.

The last week of a year is its week 52 or 53, except that a year whose December 31 falls on a
Monday, Tuesday or Wednesday may have 53 weeks; checking a week needs a year of exactly four
digits, and fails otherwise.

* `ControlValue` : a value, compared part by part.
* `controlValue?` : the value of a text for an input type.
-/

namespace Stencil.Css

open Stencil.Number

/-- The value of a bounded control, compared part by part from the first (a number is one part:
the order key of its double). -/
abbrev ControlValue := List Int

def digitsValue? (atLeast : Bool) (n : Nat) (cs : List Char) : Option Nat :=
  if cs.all isDigitChar ∧ (if atLeast then n ≤ cs.length else cs.length = n) then
    some (decimalValue cs)
  else none

def splitAt (seps : List Char) (cs : List Char) : Option (List (List Char)) :=
  match seps with
  | [] => some [cs]
  | s :: rest =>
    let before := cs.takeWhile (· ≠ s)
    if before.length = cs.length then none
    else (splitAt rest (cs.drop (before.length + 1))).map (before :: ·)

def daysInMonth (year month : Nat) : Nat :=
  if month = 2 then
    (if (year % 4 = 0 ∧ year % 100 ≠ 0) ∨ year % 400 = 0 then 29 else 28)
  else if month = 4 ∨ month = 6 ∨ month = 9 ∨ month = 11 then 30
  else 31

def lastDayOfWeek (year : Nat) : Nat :=
  let d := (year + year / 4 - year / 100 + year / 400) % 7
  if d = 0 then 7 else d

/-- The number of weeks of a year by ISO weeks: 53 when it ends on a Thursday, or on a Friday in a
leap year. -/
def isoWeeks (year : Nat) : Nat :=
  let d := lastDayOfWeek year
  let leap := (year % 4 = 0 ∧ year % 100 ≠ 0) ∨ year % 400 = 0
  if d = 4 ∨ (d = 5 ∧ leap) then 53 else 52

/-- The last week a week value may name in a year: 53 when December 31 is in the first week of
the next year, else the year's number of weeks. Years that are not written with exactly four
digits cannot be checked, and fail with the message of the check. -/
def lastWeek (year : Nat) : Except String Nat :=
  let text := toString year
  if text.length < 4 then
    .error ("time data '12-31-" ++ text ++ "' does not match format '%m-%d-%Y'")
  else if text.length > 4 then
    .error ("unconverted data remains: " ++ String.ofList (text.toList.drop 4))
  else if lastDayOfWeek year ≤ 3 then .ok 53
  else .ok (isoWeeks year)

/-- The order key of a double given by its bits' sign and magnitude: the magnitude's bits, negated
for a negative double; both zeros have the key zero. -/
def doubleKey (negative : Bool) (magnitude : UInt64) : Int :=
  if negative then -(magnitude.toNat : Int) else magnitude.toNat

def numberValue? (cs : List Char) : Option ControlValue :=
  let (negative, r) := match cs with
    | '-' :: r => (true, r)
    | r => (false, r)
  let whole := r.takeWhile isDigitChar
  let rest := r.drop whole.length
  let frac? : Option (List Char) := match rest with
    | [] => some []
    | '.' :: f => if !f.isEmpty ∧ f.all isDigitChar then some f else none
    | _ => none
  match frac? with
  | none => none
  | some frac =>
    if whole.isEmpty ∧ frac.isEmpty then none
    else
      let num := decimalValue (whole ++ frac)
      let den := Nat.pow 10 frac.length
      some [doubleKey negative (nearestBits num den)]

/-- The value of a text for an input type, if it has one; checking a week may fail. -/
def controlValue? (kind : String) (text : String) : Except String (Option ControlValue) :=
  let cs0 := text.toList
  let cs := if cs0.getLast? = some '\n' then cs0.dropLast else cs0
  let year? (y : List Char) : Option Nat :=
    (digitsValue? true 4 y).bind fun v => if 1 ≤ v then some v else none
  let two? (x : List Char) : Option Nat := digitsValue? false 2 x
  let time? (h m : List Char) : Option (Nat × Nat) :=
    (two? h).bind fun h => (two? m).bind fun m => if h ≤ 23 ∧ m ≤ 59 then some (h, m) else none
  let date? (y mo d : List Char) : Option (Nat × Nat × Nat) :=
    (year? y).bind fun y => (two? mo).bind fun mo => (two? d).bind fun d =>
      if 1 ≤ mo ∧ mo ≤ 12 ∧ 1 ≤ d ∧ d ≤ daysInMonth y mo then some (y, mo, d) else none
  match kind with
  | "date" =>
    .ok <| match splitAt ['-', '-'] cs with
      | some [y, mo, d] => (date? y mo d).map fun (y, mo, d) => [y, mo, d]
      | _ => none
  | "month" =>
    .ok <| match splitAt ['-'] cs with
      | some [y, mo] =>
        (year? y).bind fun y => (two? mo).bind fun mo =>
          if 1 ≤ mo ∧ mo ≤ 12 then some [y, mo] else none
      | _ => none
  | "week" =>
    match splitAt ['-'] cs with
    | some [y, 'W' :: w] =>
      match digitsValue? true 4 y, two? w with
      | some yv, some wv =>
        if 1 ≤ yv then do
          let top ← lastWeek yv
          return if 1 ≤ wv ∧ wv ≤ top then some [(yv : Int), wv] else none
        else .ok none
      | _, _ => .ok none
    | _ => .ok none
  | "time" =>
    .ok <| match splitAt [':'] cs with
      | some [h, m] => (time? h m).map fun (h, m) => [h, m]
      | _ => none
  | "datetime-local" =>
    .ok <| match splitAt ['-', '-', 'T', ':'] cs with
      | some [y, mo, d, h, m] =>
        (date? y mo d).bind fun (y, mo, d) => (time? h m).map fun (h, m) => [y, mo, d, h, m]
      | _ => none
  | "number" | "range" => .ok (numberValue? cs)
  | _ => .ok none

example : (controlValue? "date" "2020-02-29").toOption = some (some [2020, 2, 29]) ∧
    (controlValue? "date" "2019-02-29").toOption = some none := by
  decide

end Stencil.Css

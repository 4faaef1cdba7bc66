import Stencil.Text.Blank
import Stencil.Text.Digit
/-!
# Whole-number literals

A whole-number literal is a text of decimal digits of any script, single underscores allowed
between digits, with an optional sign in front and white space around. Literals of more than
4300 digits are refused, as are empty digit runs and underscores at either end of the run.

* `underscoredDigits` : the digits of a run with single underscores between them.
* `readInteger?` : the integer a literal names.
* `digitLimitMessage`, `decimalLimitMessage` : the refusals to read or write a decimal literal
  of more than 4300 digits.
* `decimalWritable` : the integers that can be written in decimal.
-/

namespace Stencil.Text

def digitsAfter (acc : List Nat) : List Char → Option (List Nat)
  | [] => some acc.reverse
  | '_' :: c :: r => do
    let d ← digitValue? c
    digitsAfter (d :: acc) r
  | c :: r => do
    let d ← digitValue? c
    digitsAfter (d :: acc) r

/-- The digit values of a run of digits with single underscores between them. -/
def underscoredDigits : List Char → Option (List Nat)
  | [] => none
  | c :: r => do
    let d ← digitValue? c
    digitsAfter [d] r

def literalDigitLimit : Nat := 4300

/-- The refusal to read a decimal literal of more digits than `literalDigitLimit`. -/
def digitLimitMessage (digits : Nat) : String :=
  "Exceeds the limit (4300 digits) for integer string conversion: value has " ++ toString digits ++
    " digits; use sys.set_int_max_str_digits() to increase the limit"

/-- The refusal to write an integer of more decimal digits than `literalDigitLimit`. -/
def decimalLimitMessage : String :=
  "Exceeds the limit (4300 digits) for integer string conversion; " ++
    "use sys.set_int_max_str_digits() to increase the limit"

/-- An integer that can be written in decimal: at most `literalDigitLimit` digits, the sign not
counted. -/
def decimalWritable (n : Int) : Bool := n.natAbs < Nat.pow 10 literalDigitLimit

/-- The integer a whole-number literal names: white space, an optional sign, digits. -/
def readInteger? (s : String) : Option Int := do
  let cs := trimBlankList s.toList
  let (negative, body) := match cs with
    | '-' :: r => (true, r)
    | '+' :: r => (false, r)
    | r => (false, r)
  let ds ← underscoredDigits body
  if ds.length > literalDigitLimit then none
  else
    let n : Nat := ds.foldl (fun acc d => acc * 10 + d) 0
    some (if negative then -(n : Int) else n)

example : readInteger? " -1_0 " = some (-10) ∧ readInteger? "1_" = none := by decide +kernel

end Stencil.Text

import Stencil.Data.Number
import Stencil.Data.Value
import Stencil.Markup.Render
import Stencil.Text.Integer
import Stencil.Text.Quote
/-!
# Values in messages

Messages show a value the way it is written as a literal: `None`, `True`, `False`, numbers in
their shortest form, texts quoted (`quoteText`), byte strings as `b'…'`, lists in brackets,
tuples in parentheses (a single item followed by a comma), sets in braces (`set()` when empty),
mappings in braces with their keys as literals, dates as constructor calls (a date-time leaves
out zero seconds and microseconds, and names its time zone by offset and name), elements and
documents as their markup and string nodes as quoted texts.

* `bytesLiteral` : a byte string as a literal.
* `Value.literal` : a value as a literal.
* `Value.literalWritable` : whether every integer in a value can be written, and so its literal.
* `Value.plainText` : a value as plain text.
* `Value.typeName` : the name of the type of a value.
-/

namespace Stencil

open Stencil.Markup Stencil.Text

/-- A byte string as a literal: in single quotes, or in double quotes when it holds a single
quote and no double quote; the quote and the backslash escaped, tab, newline and carriage
return as `\t`, `\n`, `\r`, and bytes outside the printable ASCII range as `\xhh`. -/
def bytesLiteral (bs : List UInt8) : String :=
  let q : Nat := if bs.contains 39 ∧ !bs.contains 34 then 34 else 39
  let byte := fun (b : UInt8) =>
    let n := b.toNat
    if n = q ∨ n = 92 then "\\" ++ String.singleton (Char.ofNat n)
    else if n = 9 then "\\t"
    else if n = 10 then "\\n"
    else if n = 13 then "\\r"
    else if n < 32 ∨ n ≥ 127 then "\\x" ++ hexDigits 2 n
    else String.singleton (Char.ofNat n)
  "b" ++ String.singleton (Char.ofNat q) ++ String.join (bs.map byte) ++ String.singleton (Char.ofNat q)

/-- A span of seconds as a constructor call: its days and the seconds left, those that are not
zero. -/
def durationLiteral (seconds : Int) : String :=
  let days := seconds.fdiv 86400
  let rest := seconds.fmod 86400
  let parts := (if days ≠ 0 then ["days=" ++ toString days] else []) ++
    (if rest ≠ 0 then ["seconds=" ++ toString rest] else [])
  "datetime.timedelta(" ++ (if parts.isEmpty then "0" else ", ".intercalate parts) ++ ")"

/-- The constructor call of a date-time: year to minute always, then seconds and microseconds
unless they are zero from the end, then the time zone as its offset and name. -/
def dateTimeLiteral (t : DateTime) : String :=
  let parts := [t.date.year, t.date.month, t.date.day, t.hour, t.minute]
  let tail := if t.micro ≠ 0 then [t.second, t.micro] else if t.second ≠ 0 then [t.second] else []
  let zone := match t.zone with
    | some z => ", tzinfo=datetime.timezone(" ++ durationLiteral (z.minutes * 60) ++ ", " ++
        quoteText z.name ++ ")"
    | none => ""
  "datetime.datetime(" ++ ", ".intercalate ((parts ++ tail).map toString) ++ zone ++ ")"

namespace Value

/-- A value written as a literal. -/
def literal (f : Forest) : Value → String
  | .null => "None"
  | .bool b => if b then "True" else "False"
  | .int n => toString n
  | .float x => floatText x
  | .str s => quoteText s
  | .bytes bs => bytesLiteral bs
  | .list xs => "[" ++ ", ".intercalate (xs.attach.map fun ⟨v, _⟩ => literal f v) ++ "]"
  | .set xs =>
    if xs.isEmpty then "set()"
    else "\x7b" ++ ", ".intercalate (xs.attach.map fun ⟨v, _⟩ => literal f v) ++ "\x7d"
  | .tuple xs =>
    match xs.attach.map fun ⟨v, _⟩ => literal f v with
    | [one] => "(" ++ one ++ ",)"
    | items => "(" ++ ", ".intercalate items ++ ")"
  | .dict kvs =>
    "\x7b" ++ ", ".intercalate (kvs.attach.map fun ⟨kv, _⟩ => literal f kv.1 ++ ": " ++ literal f kv.2) ++
      "\x7d"
  | .date d =>
    "datetime.date(" ++ toString d.year ++ ", " ++ toString d.month ++ ", " ++ toString d.day ++ ")"
  | .datetime t => dateTimeLiteral t
  | .node n =>
    match f.stringContent? n with
    | some s => quoteText s
    | none => f.render n
termination_by v => sizeOf v
decreasing_by
  all_goals simp_wf
  all_goals
    first
    | (rename_i h; have hlt := List.sizeOf_lt_of_mem h; simp_all; omega)
    | (rename_i h; have hlt := List.sizeOf_lt_of_mem h; cases kv; simp_all; omega)

/-- Whether every integer a value holds, at any depth, can be written in decimal, so that the
value's literal can be written. -/
def literalWritable : Value → Bool
  | .int n => decimalWritable n
  | .list xs | .tuple xs | .set xs => xs.attach.all fun ⟨v, _⟩ => literalWritable v
  | .dict kvs => kvs.attach.all fun ⟨kv, _⟩ => literalWritable kv.1 && literalWritable kv.2
  | _ => true
termination_by v => sizeOf v
decreasing_by
  all_goals simp_wf
  all_goals
    first
    | (rename_i h; have hlt := List.sizeOf_lt_of_mem h; simp_all; omega)
    | (rename_i h; have hlt := List.sizeOf_lt_of_mem h; cases kv; simp_all; omega)

/-- A value as plain text: a string itself, a date in ISO form, a date-time with a space
between date and time, anything else as its literal. -/
def plainText (f : Forest) : Value → String
  | .str s => s
  | .date d => d.iso
  | .datetime t => t.text
  | v => v.literal f

/-- The name of the type of a value. -/
def typeName (f : Forest) : Value → String
  | .null => "NoneType"
  | .bool _ => "bool"
  | .int _ => "int"
  | .float _ => "float"
  | .str _ => "str"
  | .bytes _ => "bytes"
  | .list _ => "list"
  | .set _ => "set"
  | .tuple _ => "tuple"
  | .dict _ => "dict"
  | .date _ => "date"
  | .datetime _ => "datetime"
  | .node n =>
    match f.kind n with
    | .document => "BeautifulSoup"
    | .element .. => "Tag"
    | .string .comment _ => "Comment"
    | .string _ _ => "NavigableString"

end Value

end Stencil

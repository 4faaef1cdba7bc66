import Stencil.Data.Value
import Stencil.Data.Number
/-!
# Writing JSON

A `Value` written as JSON text. Texts keep every character that needs no escape, non-ASCII
included; the quote, the backslash and the control characters are escaped, the usual ones by
their letter (`\n`) and the others as `\u00xx`. Doubles are written as in `floatText`, with NaN
and the infinities as the bare words `NaN`, `Infinity` and `-Infinity`. Tuples are written as
lists and dates as their ISO text; a key that is not a text is written as the text of its JSON
form (null, a boolean or a number). A markup node, a byte string and a set have no JSON form and
are written as null.

The layout is either compact (`, ` between items and `: ` after keys) or indented by a number of
spaces per level, one item per line.

* `quoteJson` : a text as a JSON string.
* `keyJson` : a key as a JSON string.
* `writeJson` : a value as JSON text.
-/

namespace Stencil.Json

def hex4 (n : Nat) : String :=
  let ds := Nat.toDigits 16 n
  String.ofList (List.replicate (4 - ds.length) '0' ++ ds)

def escapeChar (c : Char) : String :=
  if c == '"' then "\\\""
  else if c == '\\' then "\\\\"
  else if c == '\n' then "\\n"
  else if c == '\r' then "\\r"
  else if c == '\t' then "\\t"
  else if c.toNat == 8 then "\\b"
  else if c.toNat == 12 then "\\f"
  else if c.toNat < 0x20 then "\\u" ++ hex4 c.toNat
  else String.singleton c

/-- A text as a JSON string. -/
def quoteJson (s : String) : String :=
  "\"" ++ String.join (s.toList.map escapeChar) ++ "\""

def floatJson (x : Float) : String :=
  if x.isNaN then "NaN"
  else if x.isInf then (if x > 0 then "Infinity" else "-Infinity")
  else floatText x

/-- A key as a JSON text: a text itself, and null, booleans and numbers by their JSON text. -/
def keyJson : Value → String
  | .str s => quoteJson s
  | .null => quoteJson "null"
  | .bool b => quoteJson (if b then "true" else "false")
  | .int n => quoteJson (toString n)
  | .float x => quoteJson (floatJson x)
  | _ => quoteJson ""

def layoutItems (indent : Option Nat) (level : Nat) (openB closeB : String) (items : List String) :
    String :=
  match items with
  | [] => openB ++ closeB
  | _ =>
    match indent with
    | none => openB ++ ", ".intercalate items ++ closeB
    | some step =>
      let inner := "\n" ++ String.ofList (List.replicate (step * (level + 1)) ' ')
      let outer := "\n" ++ String.ofList (List.replicate (step * level) ' ')
      openB ++ inner ++ ("," ++ inner).intercalate items ++ outer ++ closeB

def writeAt (indent : Option Nat) (level : Nat) : Value → String
  | .null => "null"
  | .bool b => if b then "true" else "false"
  | .int n => toString n
  | .float x => floatJson x
  | .str s => quoteJson s
  | .list xs => layoutItems indent level "[" "]" (xs.map (writeAt indent (level + 1)))
  | .tuple xs => layoutItems indent level "[" "]" (xs.map (writeAt indent (level + 1)))
  | .dict kvs =>
    layoutItems indent level "\x7b" "\x7d"
      (kvs.attach.map (fun ⟨kv, _⟩ => keyJson kv.1 ++ ": " ++ writeAt indent (level + 1) kv.2))
  | .date d => quoteJson d.iso
  | .datetime t => quoteJson t.iso
  | .node _ | .bytes _ | .set _ => "null"
termination_by v => sizeOf v
decreasing_by
  all_goals simp_wf
  all_goals
    first
    | (rename_i h; have hlt := List.sizeOf_lt_of_mem h; simp_all; omega)
    | (rename_i h; have hlt := List.sizeOf_lt_of_mem h; cases kv; simp_all; omega)

/-- A value as JSON text: compact, or indented by `indent` spaces per level. -/
def writeJson (indent : Option Nat) (v : Value) : String := writeAt indent 0 v

end Stencil.Json

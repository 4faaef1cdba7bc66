import Stencil.Data.Number
import Stencil.Display.Date
import Stencil.Display.Repr
import Stencil.Markup.Render
/-!
# Values as text

Values are written into templates the way a browser joins them into a string: null as `null`,
booleans as `true` and `false`, a whole double below `10^21` without a fraction, NaN and the
infinities as `NaN`, `Infinity` and `-Infinity`, sequences as their items joined by commas (a
null item as nothing), mappings as `[object Object]`, a date as `YYYY-MM-DD` and a date-time with
a space before its clock (and its offset last), byte strings and sets as their literals. A node of markup stands for its text; a string node is a text itself.

* `Value.stringIn?` : the text of a value that is a string: a text or a string node.
* `Value.display` : a value as text.
* `Value.tryDisplay` : a value as text, or the refusal to write an integer too long for it.
* `Value.formatted` : a value as text, a string value staying itself.
* `Value.isPrimitiveIn` : texts (string nodes included), numbers and booleans.
* `Value.dateIn?` : the day a value stands for, string nodes read as texts.
-/

namespace Stencil

open Stencil.Markup

/-- A double as text: the JavaScript names of NaN and the infinities, a whole number below
`10^21` in magnitude as an integer, and otherwise its shortest form. -/
def floatDisplay (x : Float) : String :=
  if x.isNaN then "NaN"
  else if x.isInf then (if x > 0 then "Infinity" else "-Infinity")
  else
    match integralOf? x with
    | some n => toString n
    | none => floatText x

namespace Value

/-- The text of a value that is a string: a text, or a string node of any kind. -/
def stringIn? (f : Forest) : Value → Option String
  | .str s => some s
  | .node n => f.stringContent? n
  | _ => none

/-- A value as text. -/
def display (f : Forest) : Value → String
  | .null => "null"
  | .bool b => if b then "true" else "false"
  | .int n => toString n
  | .float x => floatDisplay x
  | .str s => s
  | .node n => (f.stringContent? n).getD (f.textOf n)
  | .list xs | .tuple xs =>
    ",".intercalate (xs.attach.map fun ⟨v, _⟩ =>
      match v with
      | .null => ""
      | v => display f v)
  | .dict _ => "[object Object]"
  | .date d => d.iso
  | .datetime t => t.text
  | v@(.bytes _) | v@(.set _) => v.literal f
termination_by v => sizeOf v
decreasing_by
  all_goals simp_wf
  all_goals (rename_i h; have := List.sizeOf_lt_of_mem h; omega)

/-- Whether a value can be written as text: an integer within the decimal limit, the items of a
sequence each, and a set by its literal. -/
def displayWritable : Value → Bool
  | .int n => Text.decimalWritable n
  | .list xs | .tuple xs => xs.attach.all fun ⟨v, _⟩ => displayWritable v
  | v@(.set _) => v.literalWritable
  | _ => true
termination_by v => sizeOf v
decreasing_by
  all_goals simp_wf
  all_goals (rename_i h; have := List.sizeOf_lt_of_mem h; omega)

/-- A value as text, or the refusal to write an integer of it that has more decimal digits than
the limit allows. -/
def tryDisplay (f : Forest) (v : Value) : Except String String :=
  if v.displayWritable then .ok (v.display f) else .error Text.decimalLimitMessage

/-- A value as text, where a string value (a text or a string node) stays itself. -/
def formatted (f : Forest) (v : Value) : Value :=
  match v.stringIn? f with
  | some _ => v
  | none => .str (v.display f)

/-- Texts (string nodes included), numbers and booleans. -/
def isPrimitiveIn (f : Forest) (v : Value) : Bool := v.isPrimitive || (v.stringIn? f).isSome

/-- The day a value stands for, a string node read as the text it holds. -/
def dateIn? (f : Forest) (v : Value) : Option Date :=
  match v with
  | .node n => (f.stringContent? n).bind Date.read?
  | v => v.toDate?

def formatDateIn (f : Forest) (v : Value) (language : Option String) : Option String :=
  (v.dateIn? f).map (·.format (datePattern language))

end Value

example : floatDisplay 3.0 = "3" := by decide

end Stencil

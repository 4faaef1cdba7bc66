import Stencil.Data.Calendar
import Stencil.Data.Number
import Stencil.Markup.NodeId
/-!
# Data values

The data that templates are filled with: the values of JSON (null, booleans, integers of any
size, doubles, texts, lists and mappings in insertion order), and besides them what YAML can
hold: byte strings, tuples (sequences that renderers do not expand), sets, mappings whose keys
are not texts, calendar dates and date-times; and nodes of markup documents.

Keys compare as values do: numbers by value whatever their kind (a boolean counting as 0 or 1),
date-times with an offset by the instant they name, and the rest by content.

* `Value` : the values.
* `Value.sameKey` : equality of keys.
* `Value.entry?`, `Value.setEntry` : reading and writing a mapping by key.
* `Value.isSequence`, `Value.isMapping` : the container kinds.
* `Value.neverMatches` : null and false, which no selector selects.
* `Value.isPrimitive` : texts, numbers and booleans.
* `Value.isFalsy` : the values that count as false.
* `Value.same` : one and the same value.
-/

namespace Stencil

/-- A data value. -/
inductive Value where
  | null
  | bool (b : Bool)
  | int (n : Int)
  | float (x : Float)
  | str (s : String)
  | bytes (data : List UInt8)
  | list (items : List Value)
  | tuple (items : List Value)
  | set (items : List Value)
  | dict (entries : List (Value × Value))
  | date (d : Date)
  | datetime (t : DateTime)
  | node (n : NodeId)
deriving Inhabited

namespace Value

/-- Lists and tuples. -/
def isSequence : Value → Bool
  | .list _ | .tuple _ => true
  | _ => false

/-- Mappings. -/
def isMapping : Value → Bool
  | .dict _ => true
  | _ => false

def items? : Value → Option (List Value)
  | .list xs | .tuple xs => some xs
  | _ => none

/-- Null and false are never selected. -/
def neverMatches : Value → Bool
  | .null | .bool false => true
  | _ => false

def node? : Value → Option NodeId
  | .node n => some n
  | _ => none

/-- Texts, numbers and booleans. -/
def isPrimitive : Value → Bool
  | .str _ | .int _ | .float _ | .bool _ => true
  | _ => false

/-- The values that count as false: null, false, zero, and empty texts, byte strings, sequences,
sets and mappings. -/
def isFalsy : Value → Bool
  | .null | .bool false | .int 0 | .str "" | .bytes [] | .list [] | .tuple [] | .set [] | .dict [] =>
    true
  | .float x => x == 0.0
  | _ => false

/-- Two values are one and the same value, not merely equal: the same node, or equal shared
constants (null, the booleans, integers from -5 to 256, and texts of at most one character below
U+0100, of which only one copy exists). -/
def same : Value → Value → Bool
  | .null, .null => true
  | .bool a, .bool b => a == b
  | .int a, .int b => a == b && decide (-5 ≤ a ∧ a ≤ 256)
  | .str a, .str b => a == b && decide (a.length ≤ 1) && a.toList.all fun (c : Char) => c.toNat < 256
  | .node a, .node b => a == b
  | _, _ => false

def numberKey? : Value → Option (Sum Int Float)
  | .int n => some (.inl n)
  | .bool b => some (.inl (if b then 1 else 0))
  | .float x => some (.inr x)
  | _ => none

/-- The containers a key can be made of, when written as pieces. -/
inductive KeyShape where
  | tuple
  | list
  | set
  | mapping
  | entry
deriving DecidableEq

/-- One piece of a key as it is compared: texts, byte strings, null and calendar values by
content, numbers by their exact value (whole doubles, integers and booleans alike; another
double by its bits; every NaN as the one NaN object that loading YAML makes), date-times with an
offset by their instant; a container opens, its items follow, and it closes. -/
inductive KeyPiece where
  | null
  | text (s : String)
  | bytes (data : List UInt8)
  | whole (n : Int)
  | fraction (bits : UInt64)
  | infinity (negative : Bool)
  | nan
  | date (d : Date)
  | aware (instant : Int) (micro : Nat)
  | naive (t : DateTime)
  | node (n : NodeId)
  | start (shape : KeyShape)
  | stop
deriving DecidableEq

/-- The piece of a double: its whole value when it is whole, else its bits, infinities by sign,
and NaN. -/
def doublePiece (x : Float) : KeyPiece :=
  match Number.classify x with
  | .nan => .nan
  | .infinite neg => .infinity neg
  | .finite _ _ =>
    match wholeOf? x with
    | some n => .whole n
    | none => .fraction x.toBits

mutual

def keyForm : Value → List KeyPiece
  | .null => [.null]
  | .bool b => [.whole (if b then 1 else 0)]
  | .int n => [.whole n]
  | .float x => [doublePiece x]
  | .str s => [.text s]
  | .bytes d => [.bytes d]
  | .list xs => .start .list :: keyForms xs ++ [.stop]
  | .tuple xs => .start .tuple :: keyForms xs ++ [.stop]
  | .set xs => .start .set :: keyForms xs ++ [.stop]
  | .dict kvs => .start .mapping :: entryForms kvs ++ [.stop]
  | .date d => [.date d]
  | .datetime t =>
    match t.zone with
    | some _ => [.aware t.instant t.micro]
    | none => [.naive t]
  | .node n => [.node n]

def keyForms : List Value → List KeyPiece
  | [] => []
  | v :: vs => keyForm v ++ keyForms vs

def entryForms : List (Value × Value) → List KeyPiece
  | [] => []
  | (k, v) :: kvs => .start .entry :: keyForm k ++ keyForm v ++ .stop :: entryForms kvs

end

/-- Two keys are equal: numbers by value across integers, doubles and booleans; texts, byte
strings, null, dates and date-times by content (date-times with an offset by their instant,
and never equal to naive ones); tuples item by item. A NaN key is the one NaN object that
loading YAML makes, so it equals every NaN key, though not by value. -/
def sameKey (a b : Value) : Bool := a.keyForm == b.keyForm

/-- The value of the text key `key` in a mapping, the last entry of that key winning. -/
def entry? (entries : List (Value × Value)) (key : String) : Option Value :=
  entries.foldl (fun acc kv => if kv.1.sameKey (.str key) then some kv.2 else acc) none

/-- Insert or replace `key` in a mapping; a replaced key keeps its place (and its first
spelling) and takes the new value. -/
def setEntry (entries : List (Value × Value)) (key v : Value) : List (Value × Value) :=
  if entries.any (·.1.sameKey key) then entries.map (fun kv => if kv.1.sameKey key then (kv.1, v) else kv)
  else entries ++ [(key, v)]

def record (entries : List (String × Value)) : Value := .dict (entries.map fun (k, v) => (.str k, v))

def textKey? : Value → Option String
  | .str s => some s
  | _ => none

end Value

end Stencil

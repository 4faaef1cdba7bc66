import Stencil.Data.Value
import Stencil.Number.Nearest
import Stencil.Text.Surrogate
/-!
# Reading JSON

JSON text becomes a `Value`. Integers (no fraction, no exponent) are exact; other numbers are
doubles rounded to nearest; the words `NaN`, `Infinity` and `-Infinity` are read as doubles too.
A key given twice keeps its first place and its last value. White space is space, tab, line feed
and carriage return.

A text that is no JSON is refused with the fault and the character position where reading
stopped (`JsonError`); its message gives line and column as well.

* `JsonFault`, `JsonError`, `JsonError.message` : why and where reading stopped.
* `readJson`, `readJsonNested` : the reader, and the reader with a bound on nesting.
-/

namespace Stencil.Json

/-- Why a text is not JSON. -/
inductive JsonFault where
  | expectingValue
  | expectingPropertyName
  | expectingColon
  | expectingComma
  | unterminatedString
  | controlCharacter
  | badEscape
  | badUnicodeEscape
  | extraData
  | byteOrderMark
  | integerTooLong (digits : Nat)
  | tooDeep
  | nestedTooDeep (container : String)
deriving Repr, DecidableEq

/-- A fault and the character position where it was found. -/
structure JsonError where
  fault : JsonFault
  pos : Nat
deriving Repr

def JsonFault.words : JsonFault → String
  | .expectingValue => "Expecting value"
  | .expectingPropertyName => "Expecting property name enclosed in double quotes"
  | .expectingColon => "Expecting ':' delimiter"
  | .expectingComma => "Expecting ',' delimiter"
  | .unterminatedString => "Unterminated string starting at"
  | .controlCharacter => "Invalid control character at"
  | .badEscape => "Invalid \\escape"
  | .badUnicodeEscape => "Invalid \\uXXXX escape"
  | .extraData => "Extra data"
  | .byteOrderMark => "Unexpected UTF-8 BOM (decode using utf-8-sig)"
  | .integerTooLong _ => ""
  | .tooDeep => "maximum recursion depth exceeded while decoding a JSON document"
  | .nestedTooDeep c => "maximum recursion depth exceeded while decoding a JSON " ++ c ++ " from a unicode string"

def JsonFault.exhaustsStack : JsonFault → Bool
  | .tooDeep | .nestedTooDeep _ => true
  | _ => false

/-- The message of an error in `text`: the fault, then line, column and character position. -/
def JsonError.message (e : JsonError) (text : String) : String :=
  match e.fault with
  | .integerTooLong n =>
    "Exceeds the limit (4300 digits) for integer string conversion: value has " ++ toString n ++
      " digits; use sys.set_int_max_str_digits() to increase the limit"
  | .tooDeep | .nestedTooDeep _ => e.fault.words
  | f =>
    let before := text.toList.take e.pos
    let line := before.count '\n' + 1
    let lastNl := (before.zipIdx.filter (·.1 == '\n')).getLast?.map (·.2)
    let col := match lastNl with
      | some i => e.pos - i
      | none => e.pos + 1
    f.words ++ ": line " ++ toString line ++ " column " ++ toString col ++ " (char " ++
      toString e.pos ++ ")"

/-- The rest of the input and its position in the whole text. -/
structure Cursor where
  rest : List Char
  pos : Nat

def isJsonSpace (c : Char) : Bool := c == ' ' || c == '\t' || c == '\n' || c == '\r'

def Cursor.skipSpace (c : Cursor) : Cursor :=
  let n := (c.rest.takeWhile isJsonSpace).length
  ⟨c.rest.drop n, c.pos + n⟩

def hexValue? (c : Char) : Option Nat :=
  if '0' ≤ c ∧ c ≤ '9' then some (c.toNat - '0'.toNat)
  else if 'a' ≤ c ∧ c ≤ 'f' then some (c.toNat - 'a'.toNat + 10)
  else if 'A' ≤ c ∧ c ≤ 'F' then some (c.toNat - 'A'.toNat + 10)
  else none

def hex4? (a b c d : Char) : Option Nat := do
  let a ← hexValue? a
  let b ← hexValue? b
  let c ← hexValue? c
  let d ← hexValue? d
  return ((a * 16 + b) * 16 + c) * 16 + d

/-- The characters that keep the code point an escape names (`charsOfCode`): a surrogate that
stands alone is kept as such. -/
def codeChars (n : Nat) : Array Char := (Stencil.Text.charsOfCode n).toArray

/-- The body of a text after its opening quote (found at `start`): the characters up to the
closing quote, and the input after it. `pos` is the position of the head of `cs`. -/
def readTextBody (start : Nat) (acc : Array Char) : List Char → Nat → Except JsonError (String × Cursor)
  | [], _ => .error ⟨.unterminatedString, start⟩
  | '"' :: rest, pos => .ok (String.ofList acc.toList, ⟨rest, pos + 1⟩)
  | '\\' :: [], _ => .error ⟨.unterminatedString, start⟩
  | '\\' :: 'u' :: a :: b :: c :: d :: '\\' :: 'u' :: e :: f :: g :: h :: x :: rest, pos =>
    match hex4? a b c d with
    | none => .error ⟨.badUnicodeEscape, pos + 1⟩
    | some hi =>
      if 0xD800 ≤ hi ∧ hi ≤ 0xDBFF then
        match hex4? e f g h with
        | none => .error ⟨.badUnicodeEscape, pos + 7⟩
        | some lo =>
          if 0xDC00 ≤ lo ∧ lo ≤ 0xDFFF then
            readTextBody start (acc ++ codeChars (0x10000 + (hi - 0xD800) * 0x400 + (lo - 0xDC00)))
              (x :: rest) (pos + 12)
          else
            readTextBody start (acc ++ codeChars hi) ('\\' :: 'u' :: e :: f :: g :: h :: x :: rest)
              (pos + 6)
      else
        readTextBody start (acc ++ codeChars hi) ('\\' :: 'u' :: e :: f :: g :: h :: x :: rest)
          (pos + 6)
  | '\\' :: 'u' :: a :: b :: c :: d :: x :: rest, pos =>
    match hex4? a b c d with
    | none => .error ⟨.badUnicodeEscape, pos + 1⟩
    | some hi => readTextBody start (acc ++ codeChars hi) (x :: rest) (pos + 6)
  | '\\' :: 'u' :: _, pos => .error ⟨.badUnicodeEscape, pos + 1⟩
  | '\\' :: e :: rest, pos =>
    let decoded : Option Char := match e with
      | '"' => some '"'
      | '\\' => some '\\'
      | '/' => some '/'
      | 'b' => some (Char.ofNat 8)
      | 'f' => some (Char.ofNat 12)
      | 'n' => some '\n'
      | 'r' => some '\r'
      | 't' => some '\t'
      | _ => none
    match decoded with
    | some d => readTextBody start (acc.push d) rest (pos + 2)
    | none => .error ⟨.badEscape, pos⟩
  | c :: d :: rest, pos =>
    if c.toNat ≤ 0x1F then .error ⟨.controlCharacter, pos⟩
    else if Stencil.Text.keptPair c d then readTextBody start ((acc.push c).push d) rest (pos + 1)
    else readTextBody start (acc.push c) (d :: rest) (pos + 1)
  | [c], pos =>
    if c.toNat ≤ 0x1F then .error ⟨.controlCharacter, pos⟩
    else readTextBody start (acc.push c) [] (pos + 1)
termination_by cs => cs.length
decreasing_by all_goals simp only [List.length_cons]; omega

def isAsciiDigit (c : Char) : Bool := '0' ≤ c && c ≤ '9'

def digitsValue (ds : List Char) : Nat := ds.foldl (fun n c => 10 * n + (c.toNat - '0'.toNat)) 0

/-- A number at the head of the input, if one starts there: an optional minus, an integer part
without leading zeros, an optional fraction and an optional exponent. -/
def readNumber (c : Cursor) : Option (Except JsonError (Value × Cursor)) :=
  let (neg, cs, n0) := match c.rest with
    | '-' :: r => (true, r, 1)
    | r => (false, r, 0)
  let intPart : Option (List Char) := match cs with
    | '0' :: _ => some ['0']
    | d :: r => if '1' ≤ d ∧ d ≤ '9' then some (d :: r.takeWhile isAsciiDigit) else none
    | [] => none
  match intPart with
  | none => none
  | some ip =>
    let afterInt := cs.drop ip.length
    let frac : List Char := match afterInt with
      | '.' :: d :: r => if isAsciiDigit d then d :: r.takeWhile isAsciiDigit else []
      | _ => []
    let afterFrac := if frac.isEmpty then afterInt else afterInt.drop (frac.length + 1)
    let expo : Option (Bool × List Char × Nat) := match afterFrac with
      | e :: r@(_ :: _) =>
        if e == 'e' || e == 'E' then
          let (eneg, r', signLen) := match r with
            | '-' :: r'@(_ :: _) => (true, r', 1)
            | '+' :: r'@(_ :: _) => (false, r', 1)
            | r' => (false, r', 0)
          let ds := r'.takeWhile isAsciiDigit
          if ds.isEmpty then none else some (eneg, ds, 1 + signLen + ds.length)
        else none
      | _ => none
    let fracLen := if frac.isEmpty then 0 else frac.length + 1
    let expLen := match expo with | some (_, _, k) => k | none => 0
    let total := n0 + ip.length + fracLen + expLen
    let next : Cursor := ⟨c.rest.drop total, c.pos + total⟩
    if frac.isEmpty && expo.isNone then
      if ip.length > 4300 then some (.error ⟨.integerTooLong ip.length, c.pos⟩)
      else
        let v : Int := digitsValue ip
        some (.ok (.int (if neg then -v else v), next))
    else
      let m := digitsValue (ip ++ frac)
      let e : Int := match expo with
        | some (eneg, ds, _) => if eneg then -(digitsValue ds : Int) else digitsValue ds
        | none => 0
      some (.ok (.float (Number.decimalToFloat neg m (e - frac.length)), next))

mutual

/-- A value at the cursor, inside which at most `room` arrays and objects may nest. `fuel` bounds
the nesting and the number of items read. -/
def readValue (fuel room : Nat) (c : Cursor) : Except JsonError (Value × Cursor) :=
  match fuel with
  | 0 => .error ⟨.tooDeep, c.pos⟩
  | fuel + 1 =>
    match c.rest with
    | '"' :: rest => do
      let (s, c') ← readTextBody c.pos #[] rest (c.pos + 1)
      return (.str s, c')
    | '{' :: rest =>
      if room = 0 then .error ⟨.nestedTooDeep "object", c.pos⟩
      else
        let c' := (Cursor.mk rest (c.pos + 1)).skipSpace
        match c'.rest with
        | '}' :: rest' => .ok (.dict [], ⟨rest', c'.pos + 1⟩)
        | _ => readMembers fuel (room - 1) [] c'
    | '[' :: rest =>
      if room = 0 then .error ⟨.nestedTooDeep "array", c.pos⟩
      else
        let c' := (Cursor.mk rest (c.pos + 1)).skipSpace
        match c'.rest with
        | ']' :: rest' => .ok (.list [], ⟨rest', c'.pos + 1⟩)
        | _ => readItems fuel (room - 1) #[] c'
    | 'n' :: 'u' :: 'l' :: 'l' :: rest => .ok (.null, ⟨rest, c.pos + 4⟩)
    | 't' :: 'r' :: 'u' :: 'e' :: rest => .ok (.bool true, ⟨rest, c.pos + 4⟩)
    | 'f' :: 'a' :: 'l' :: 's' :: 'e' :: rest => .ok (.bool false, ⟨rest, c.pos + 5⟩)
    | 'N' :: 'a' :: 'N' :: rest => .ok (.float (0.0 / 0.0), ⟨rest, c.pos + 3⟩)
    | 'I' :: 'n' :: 'f' :: 'i' :: 'n' :: 'i' :: 't' :: 'y' :: rest =>
      .ok (.float (1.0 / 0.0), ⟨rest, c.pos + 8⟩)
    | '-' :: 'I' :: 'n' :: 'f' :: 'i' :: 'n' :: 'i' :: 't' :: 'y' :: rest =>
      .ok (.float (-1.0 / 0.0), ⟨rest, c.pos + 9⟩)
    | _ =>
      match readNumber c with
      | some r => r
      | none => .error ⟨.expectingValue, c.pos⟩

def readItems (fuel room : Nat) (acc : Array Value) (c : Cursor) : Except JsonError (Value × Cursor) :=
  match fuel with
  | 0 => .error ⟨.tooDeep, c.pos⟩
  | fuel + 1 => do
    let (v, c') ← readValue fuel room c
    let c' := c'.skipSpace
    match c'.rest with
    | ']' :: rest => return (.list (acc.push v).toList, ⟨rest, c'.pos + 1⟩)
    | ',' :: rest => readItems fuel room (acc.push v) (Cursor.mk rest (c'.pos + 1)).skipSpace
    | _ => .error ⟨.expectingComma, c'.pos⟩

/-- The entries of a mapping after its first key starts at the cursor, each value with `room` for
nesting. -/
def readMembers (fuel room : Nat) (acc : List (Value × Value)) (c : Cursor) :
    Except JsonError (Value × Cursor) :=
  match fuel with
  | 0 => .error ⟨.tooDeep, c.pos⟩
  | fuel + 1 =>
    match c.rest with
    | '"' :: rest => do
      let (k, c') ← readTextBody c.pos #[] rest (c.pos + 1)
      let c' := c'.skipSpace
      match c'.rest with
      | ':' :: rest' =>
        let (v, c'') ← readValue fuel room (Cursor.mk rest' (c'.pos + 1)).skipSpace
        let acc := Value.setEntry acc (.str k) v
        let c'' := c''.skipSpace
        match c''.rest with
        | '}' :: rest'' => return (.dict acc, ⟨rest'', c''.pos + 1⟩)
        | ',' :: rest'' => readMembers fuel room acc (Cursor.mk rest'' (c''.pos + 1)).skipSpace
        | _ => .error ⟨.expectingComma, c''.pos⟩
      | _ => .error ⟨.expectingColon, c'.pos⟩
    | _ => .error ⟨.expectingPropertyName, c.pos⟩

end

/-- Read a whole JSON text in which arrays and objects nest at most `room` deep: one value with
white space around it. A byte order mark in front is refused. -/
def readJsonNested (room : Nat) (text : String) : Except JsonError Value :=
  let cs := text.toList
  if cs.head?.map Char.toNat = some 0xFEFF then .error ⟨.byteOrderMark, 0⟩
  else do
    let c := (Cursor.mk cs 0).skipSpace
    let (v, c') ← readValue (2 * cs.length + 2) room c
    let c' := c'.skipSpace
    if c'.rest.isEmpty then return v else .error ⟨.extraData, c'.pos⟩

/-- Read a whole JSON text, nested as deep as it is. -/
def readJson (text : String) : Except JsonError Value := readJsonNested text.length text

example : (readJsonNested 1 "[[1]]").toOption.isNone ∧ (readJsonNested 2 "[[1]]").toOption.isSome := by
  decide

end Stencil.Json

/-!
# Reading base64

Base64 text is read leniently, four characters to three bytes. Characters outside the alphabet
`A-Z a-z 0-9 + /` are skipped. A `=` ends the data when two or three characters of a group have
been read and, counting the `=` signs since the last character of the alphabet, the group is
full; any other `=` is skipped. Data that ends inside a group is refused: after one character,
since no bytes are ever written so, and after two or three, for its missing padding.

* `base64Digit?` : the value of a character of the alphabet, below 64 (`base64Digit?_lt`).
* `decodeBase64` : the bytes of a text, or why it has none.
-/

namespace Stencil.Text

/-- The value of a character of the base64 alphabet. -/
def base64Digit? (c : Char) : Option Nat :=
  if 'A' ≤ c ∧ c ≤ 'Z' then some (c.toNat - 'A'.toNat)
  else if 'a' ≤ c ∧ c ≤ 'z' then some (c.toNat - 'a'.toNat + 26)
  else if '0' ≤ c ∧ c ≤ '9' then some (c.toNat - '0'.toNat + 52)
  else if c = '+' then some 62
  else if c = '/' then some 63
  else none

/-- Every character of the alphabet stands for six bits. -/
theorem base64Digit?_lt {c : Char} {v : Nat} (h : base64Digit? c = some v) : v < 64 := by
  have hZ : ('Z' : Char).toNat = 90 := rfl
  have hz : ('z' : Char).toNat = 122 := rfl
  have h9 : ('9' : Char).toNat = 57 := rfl
  have hA : ('A' : Char).toNat = 65 := rfl
  have ha : ('a' : Char).toNat = 97 := rfl
  have h0 : ('0' : Char).toNat = 48 := rfl
  unfold base64Digit? at h
  split at h
  · next hc =>
    have : c.toNat ≤ ('Z' : Char).toNat := hc.2
    injection h with h
    omega
  · split at h
    · next hc =>
      have : c.toNat ≤ ('z' : Char).toNat := hc.2
      injection h with h
      omega
    · split at h
      · next hc =>
        have : c.toNat ≤ ('9' : Char).toNat := hc.2
        injection h with h
        omega
      · split at h
        · injection h with h
          omega
        · split at h
          · injection h with h
            omega
          · contradiction

/-- Where reading stands: the bytes written, the place in the current group of four, the bits
left over from its last character, and the `=` signs since the last character of the alphabet. -/
structure Base64Reading where
  bytes : Array UInt8
  place : Nat
  left : Nat
  pads : Nat

def Base64Reading.push (r : Base64Reading) (v : Nat) : Base64Reading :=
  match r.place with
  | 0 => { r with place := 1, left := v, pads := 0 }
  | 1 => { bytes := r.bytes.push (UInt8.ofNat (r.left * 4 + v / 16)), place := 2, left := v % 16, pads := 0 }
  | 2 => { bytes := r.bytes.push (UInt8.ofNat (r.left * 16 + v / 4)), place := 3, left := v % 4, pads := 0 }
  | _ => { bytes := r.bytes.push (UInt8.ofNat (r.left * 64 + v)), place := 0, left := 0, pads := 0 }

/-- The reading after the rest of a text: `.ok` when a padding ended the data, else where it
stands at the end. -/
def readBase64 (r : Base64Reading) : List Char → Sum (List UInt8) Base64Reading
  | [] => .inr r
  | c :: rest =>
    if c = '=' then
      if r.place ≥ 2 ∧ r.place + (r.pads + 1) ≥ 4 then .inl r.bytes.toList
      else readBase64 (if r.place ≥ 2 then { r with pads := r.pads + 1 } else r) rest
    else
      match base64Digit? c with
      | some v => readBase64 (r.push v) rest
      | none => readBase64 r rest

/-- The bytes a base64 text stands for, or why it stands for none. -/
def decodeBase64 (text : List Char) : Except String (List UInt8) :=
  match readBase64 ⟨#[], 0, 0, 0⟩ text with
  | .inl bytes => .ok bytes
  | .inr r =>
    if r.place = 0 then .ok r.bytes.toList
    else if r.place = 1 then
      .error ("Invalid base64-encoded string: number of data characters (" ++
        toString (r.bytes.size / 3 * 4 + 1) ++ ") cannot be 1 more than a multiple of 4")
    else .error "Incorrect padding"

example : (decodeBase64 "aGVsbG8=".toList).toOption = some [104, 101, 108, 108, 111] ∧
    (decodeBase64 "aGk".toList).toOption = none := by
  decide

end Stencil.Text

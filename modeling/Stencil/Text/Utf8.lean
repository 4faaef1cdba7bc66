import Stencil.Text.Quote
/-!
# Decoding UTF-8

Bytes are read as UTF-8 text, strictly: a sequence must start with a byte that can start one,
continue with the right number of continuation bytes, and name neither a surrogate, nor a code
point beyond U+10FFFF, nor one that a shorter sequence could name. The first fault is reported
by the bytes it covers and its reason: an invalid start byte, an invalid continuation byte (the
valid part of the sequence before it is covered too), or an unexpected end of data (covering the
valid bytes left).

* `Utf8Fault` : a fault and the bytes it covers.
* `decodeUtf8` : the text of some bytes, or the first fault.
-/

namespace Stencil.Text

/-- A fault in UTF-8 bytes: the offsets of the first and last byte it covers, the first byte, and
the reason. -/
structure Utf8Fault where
  first : Nat
  last : Nat
  byte : Nat
  reason : String
deriving Repr

def Utf8Fault.message (e : Utf8Fault) : String :=
  if e.first == e.last then
    "'utf-8' codec can't decode byte 0x" ++ hexDigits 2 e.byte ++ " in position " ++
      toString e.first ++ ": " ++ e.reason
  else
    "'utf-8' codec can't decode bytes in position " ++ toString e.first ++ "-" ++ toString e.last ++
      ": " ++ e.reason

def isContinuation (b : Nat) : Bool := 0x80 ≤ b && b < 0xC0

/-- The number of continuation bytes after a start byte and the range the first of them must lie
in, or `none` for a byte that starts no sequence. -/
def sequenceShape (b : Nat) : Option (Nat × Nat × Nat) :=
  if b < 0xC2 then none
  else if b < 0xE0 then some (1, 0x80, 0xBF)
  else if b == 0xE0 then some (2, 0xA0, 0xBF)
  else if b == 0xED then some (2, 0x80, 0x9F)
  else if b < 0xF0 then some (2, 0x80, 0xBF)
  else if b == 0xF0 then some (3, 0x90, 0xBF)
  else if b < 0xF4 then some (3, 0x80, 0xBF)
  else if b == 0xF4 then some (3, 0x80, 0x8F)
  else none

def validPrefix (lo hi : Nat) : List Nat → Nat
  | [] => 0
  | b :: rest =>
    if lo ≤ b && b ≤ hi then 1 + (rest.takeWhile isContinuation).length else 0

def decodeFrom (pos : Nat) : List Nat → Except Utf8Fault (List Char)
  | [] => .ok []
  | b :: rest =>
    if b < 0x80 then (Char.ofNat b :: ·) <$> decodeFrom (pos + 1) rest
    else
      match sequenceShape b with
      | none => .error ⟨pos, pos, b, "invalid start byte"⟩
      | some (n, lo, hi) =>
        let good := validPrefix lo hi (rest.take n)
        if good < n then
          if good == (rest.take n).length then
            .error ⟨pos, pos + good, b, "unexpected end of data"⟩
          else .error ⟨pos, pos + good, b, "invalid continuation byte"⟩
        else
          let cont := rest.take n
          let top := if n == 1 then b % 0x20 else if n == 2 then b % 0x10 else b % 0x08
          let code := cont.foldl (fun acc c => acc * 64 + c % 0x40) top
          (Char.ofNat code :: ·) <$> decodeFrom (pos + 1 + n) (rest.drop n)
termination_by bs => bs.length
decreasing_by all_goals simp only [List.length_drop, List.length_cons]; omega

/-- The text of some bytes read as UTF-8, or the first fault. -/
def decodeUtf8 (bytes : List Nat) : Except Utf8Fault String := String.ofList <$> decodeFrom 0 bytes

example : (decodeUtf8 [0xC3, 0xA9]).toOption = some "é" ∧ ((decodeUtf8 [0xFF]).toOption).isNone := by
  decide +kernel

end Stencil.Text

import Stencil.Text.Surrogate
import Stencil.Text.Word
/-!
# Cutting a kept text by code points

A kept text counts its characters in code points: a kept high half U+DBFE or U+DBFF followed by a
kept low half is one code point (`codePoints`), and `takeCodes` and `dropCodes` cut a text after
a number of them. Where the second of two texts starts with a plain character, one that keeps no
surrogate, no pair straddles the joint, and the joined text is cut there exactly.

* `PlainHead` : a text that is empty or starts with a plain character.
* `codePoints_append` : the code points of two texts joined at a plain character.
* `cut_append`, `dropCodes_add` : cutting at such a joint.
* `isWord_of_high` : no character from the last word range on is a word character.
-/

namespace Stencil.Text

/-! ## Plain characters -/

/-- A text that is empty or starts with a character that keeps no surrogate. -/
def PlainHead (cs : List Char) : Prop := ∀ d ∈ cs.head?, surrogateOf? d = none

theorem plainHead_nil : PlainHead [] := by simp [PlainHead]

theorem plainHead_cons {c : Char} {cs : List Char} (h : surrogateOf? c = none) : PlainHead (c :: cs) := by
  simpa [PlainHead] using h

theorem PlainHead.of_append {a b : List Char} (h : PlainHead (a ++ b)) : PlainHead a := by
  cases a with
  | nil => exact plainHead_nil
  | cons c a => exact plainHead_cons (h c rfl)

theorem PlainHead.append {a b : List Char} (ha : PlainHead a) (hb : PlainHead b) : PlainHead (a ++ b) := by
  cases a with
  | nil => exact hb
  | cons c a => exact plainHead_cons (ha c rfl)

theorem toNat_valid (c : Char) : c.toNat < 0xD800 ∨ (0xDFFF < c.toNat ∧ c.toNat < 0x110000) := c.valid

theorem isSurrogate_toNat (c : Char) : isSurrogate c.toNat = false := by
  have hv := toNat_valid c
  simp only [isSurrogate, Bool.and_eq_false_iff, decide_eq_false_iff_not]
  omega

theorem isSurrogate_of_surrogateOf? {c : Char} {n : Nat} (h : surrogateOf? c = some n) : isSurrogate n = true := by
  have hv := toNat_valid c
  have hbase : surrogateBase = 0x10F800 := rfl
  unfold surrogateOf? at h
  rw [hbase] at h
  split at h
  · cases h
    simp only [isSurrogate, Bool.and_eq_true, decide_eq_true_eq]
    omega
  · cases h

theorem surrogateOf?_of_lt {c : Char} (h : c.toNat < 0x10F800) : surrogateOf? c = none := by
  have hbase : surrogateBase = 0x10F800 := rfl
  simp [surrogateOf?, hbase, Nat.not_le.mpr h]

/-! ## Code points of joined texts -/

theorem codePoints_cons (c : Char) (cs : List Char) : codePoints (c :: cs) = pushCode c (codePoints cs) := rfl

theorem pushCode_ne_nil (c : Char) (after : List Nat) : pushCode c after ≠ [] := by
  unfold pushCode
  split
  · split <;> simp
  · simp
  · simp

theorem pushCode_append (c : Char) {x : List Nat} (hx : x ≠ []) (y : List Nat) :
    pushCode c (x ++ y) = pushCode c x ++ y := by
  obtain ⟨a, x, rfl⟩ := List.exists_cons_of_ne_nil hx
  cases hc : surrogateOf? c with
  | none => simp [pushCode, hc]
  | some hi =>
    simp only [pushCode, hc, List.cons_append]
    split <;> simp

theorem pushCode_plain (c d : Char) (y : List Nat) :
    pushCode c (d.toNat :: y) = pushCode c [] ++ d.toNat :: y := by
  cases hc : surrogateOf? c with
  | none => simp [pushCode, hc]
  | some hi => simp [pushCode, hc, isSurrogate_toNat]

theorem codePoints_cons_plain {d : Char} (hd : surrogateOf? d = none) (cs : List Char) :
    codePoints (d :: cs) = d.toNat :: codePoints cs := by
  simp [codePoints_cons, pushCode, hd]

theorem codePoints_ne_nil {cs : List Char} (h : cs ≠ []) : codePoints cs ≠ [] := by
  obtain ⟨c, cs, rfl⟩ := List.exists_cons_of_ne_nil h
  exact pushCode_ne_nil c _

/-- Two texts joined where the second starts plain have the code points of each, in order. -/
theorem codePoints_append (w : List Char) {r : List Char} (hr : PlainHead r) :
    codePoints (w ++ r) = codePoints w ++ codePoints r := by
  induction w with
  | nil => rfl
  | cons c w ih =>
    rw [List.cons_append, codePoints_cons, ih, codePoints_cons]
    cases w with
    | cons _ _ => exact pushCode_append c (codePoints_ne_nil (List.cons_ne_nil _ _)) _
    | nil =>
      cases r with
      | nil => simp [codePoints]
      | cons d r =>
        rw [codePoints_cons_plain (hr d rfl)]
        exact pushCode_plain c d _

/-! ## Cutting at a joint -/

theorem length_codePoints_singleton (c : Char) : (codePoints [c]).length = 1 := by
  cases h : surrogateOf? c <;> simp [codePoints, pushCode, h]

theorem length_codePoints_cons_cons (c d : Char) (w : List Char) :
    (codePoints (c :: d :: w)).length =
      (if keptPair c d then codePoints w else codePoints (d :: w)).length + 1 := by
  show (pushCode c (pushCode d (codePoints w))).length = _
  cases hc : surrogateOf? c with
  | none => simp [pushCode, keptPair, hc, codePoints]
  | some hi =>
    cases hd : surrogateOf? d with
    | none => simp [pushCode, keptPair, hc, hd, isSurrogate_toNat, codePoints]
    | some lo =>
      -- the second character keeps a surrogate; whether it pairs with the first depends on
      -- whether it already joined the code point after it
      have hlo := isSurrogate_of_surrogateOf? hd
      have hw : codePoints (d :: w) = pushCode d (codePoints w) := rfl
      rw [hw]
      cases codePoints w with
      | nil =>
        simp only [pushCode, keptPair, hc, hd, hlo, Bool.and_eq_true, decide_eq_true_eq]
        grind
      | cons x y =>
        simp only [pushCode, keptPair, hc, hd, Bool.and_eq_true, decide_eq_true_eq]
        grind [isSurrogate]

theorem dropCodes_nil (n : Nat) : dropCodes n [] = [] := by
  cases n <;> rfl

theorem dropCodes_add (m n : Nat) (l : List Char) : dropCodes (m + n) l = dropCodes n (dropCodes m l) := by
  fun_induction dropCodes m l with
  | case1 => rw [Nat.zero_add]
  | case2 => simp [dropCodes_nil]
  | case3 => simp [Nat.succ_add, dropCodes, dropCodes_nil]
  | case4 m c d rest hk ih => simp only [Nat.succ_add, dropCodes, hk, if_true, ih]
  | case5 m c d rest hk ih => simp only [Nat.succ_add, dropCodes, hk, if_false, Bool.false_eq_true, ih]

/-- Cutting after the code points of a text drops exactly that text, and keeps exactly it, when
what follows starts plain. The recursion takes one code point at a time, as the cutting does. -/
theorem cut_append {r : List Char} (hr : PlainHead r) : ∀ w : List Char,
    dropCodes (codePoints w).length (w ++ r) = r ∧ takeCodes (codePoints w).length (w ++ r) = w
  | [] => by cases r <;> simp [codePoints, dropCodes, takeCodes]
  | [c] => by
    rw [length_codePoints_singleton]
    cases r with
    | nil => exact ⟨rfl, rfl⟩
    | cons d r =>
      have hk : keptPair c d = false := by simp [keptPair, hr d rfl]
      simp [dropCodes, takeCodes, hk]
  | c :: d :: w => by
    rw [length_codePoints_cons_cons]
    by_cases hk : keptPair c d = true
    · obtain ⟨h1, h2⟩ := cut_append hr w
      simp only [hk, if_true, List.cons_append, dropCodes, takeCodes, h1, h2, and_self]
    · obtain ⟨h1, h2⟩ := cut_append hr (d :: w)
      simp only [List.cons_append] at h1 h2
      simp only [hk, if_false, Bool.false_eq_true, List.cons_append, dropCodes, takeCodes, h1, h2, and_self]

/-! ## Word characters are plain -/

theorem countAtMostFrom_of_le {bs : Array Nat} {n : Nat} (h : ∀ i, bs.getD i 0 ≤ n) (lo hi : Nat)
    (hlo : lo ≤ hi) : countAtMostFrom bs n lo hi = hi := by
  fun_induction countAtMostFrom bs n lo hi with
  | case1 lo hi hlt mid hmid ih => exact ih (by omega)
  | case2 lo hi hlt mid hmid => exact absurd (h mid) hmid
  | case3 lo hi hge => omega

theorem wordBounds_getD_le (i : Nat) : wordBounds.getD i 0 ≤ 0x3134B := by
  have hall : wordBounds.toList.all (· ≤ 0x3134B) = true := by decide +kernel
  unfold Array.getD
  split
  · next hi =>
    have hmem : wordBounds[i] ∈ wordBounds.toList := Array.getElem_mem_toList hi
    simpa using List.all_eq_true.mp hall _ hmem
  · exact Nat.zero_le _

/-- No character from the last word range on is a word character: past every boundary, the
count of boundaries is even. -/
theorem isWord_of_high {c : Char} (h : 0x3134B ≤ c.toNat) : isWord c = false := by
  have hsize : wordBounds.size % 2 = 0 := by decide +kernel
  have hcount : countAtMost wordBounds c.toNat = wordBounds.size :=
    countAtMostFrom_of_le (fun i => Nat.le_trans (wordBounds_getD_le i) h) 0 _ (Nat.zero_le _)
  simp [isWord, inRanges, codeInRanges, hcount, hsize]

end Stencil.Text

import Mathlib
import Stencil.Proofs.Selector.Cutting
import Stencil.Proofs.Text.CodePoints
/-!
# Where each token stands in its text

The lexer cuts a text into tokens in order, each at the position where the code points before it
end. `Spells cs pos ts` says this of a stream: the texts of `ts` make up `cs`, each token sits at
its position, and each is read off the text as the lexer reads it before whatever follows it
(`Token.ReadBefore`). The lexer's own stream spells its text (`tokenize_spells`).

Two things follow for a run of tokens in a stream that spells a text `src` (`Placed`): the
characters of `src` from the run's first position to its end are the run's texts
(`Spells.run`, `Placed.slice`), so a compound selector's source is the text of its tokens; and
each word the lexer cut, other than white space, is cut the same way before any delimiter
(`Token.ReadBefore.solid`).

* `scanToken_cases` : what a scan can return; `scanToken_le`, `scanToken_plain`,
  `scanToken_delimits` follow from it.
* `Token.ReadBefore`, `Spells`, `tokenize_spells` : the lexer's stream spells its text.
* `Placed`, `Placed.drop`, `Placed.slice` : runs of a spelled stream.
* `Token.ReadBefore.solid` : lexed words end by themselves.
-/

namespace Stencil.Selector

open Stencil.Text

/-! ## What a scan returns -/

theorem ite_some_imp {α : Type} {P p : Prop} [Decidable p] {a b : Option α} {x : α}
    (ha : p → a = some x → P) (hb : ¬p → b = some x → P) : (if p then a else b) = some x → P := by
  by_cases hp : p
  · rw [if_pos hp]
    exact ha hp
  · rw [if_neg hp]
    exact hb hp

theorem map_scan_some {kind k : TokenKind} {n : Nat} {x : Option Nat} (h : x.map (kind, ·) = some (k, n)) :
    kind = k ∧ x = some n := by
  obtain ⟨m, hm, heq⟩ := Option.map_eq_some_iff.mp h
  obtain ⟨rfl, rfl⟩ := Prod.mk.inj heq
  exact ⟨rfl, hm⟩

/-- What a scan can return, one case per kind of first character: white space takes every blank
after it; `( ) , > + ~ *` take nothing after them; `.`, `#`, `[` and `:` take what their scanner
finds; a name character takes the name characters after it. -/
theorem scanToken_cases {c : Char} {r : List Char} {k : TokenKind} {n : Nat} (h : scanToken c r = some (k, n)) :
    (isBlank c = true ∧ k = .space ∧ n = (r.takeWhile isBlank).length) ∨
    (c.toNat < 128 ∧ k ≠ .space ∧ k.continuesCompound = false ∧ n = 0) ∨
    (c = '.' ∧ k = .key ∧ keyRest r = some n) ∨
    (c = '#' ∧ k = .hash ∧ hashRest r = some n) ∨
    (c = '[' ∧ k = .attr ∧ attrRest none r = some n) ∨
    (c = ':' ∧ k = .pseudo ∧ pseudoRest r = some n) ∨
    (isNameChar c = true ∧ k = .ident ∧ n = nameLength r) := by
  unfold scanToken at h
  revert h
  -- one step per branch of the scanner, in its order
  refine ite_some_imp (fun hb h => ?_) fun _ => ?_
  · cases h
    exact .inl ⟨hb, rfl, rfl⟩
  iterate 4
    refine ite_some_imp (fun hc h => ?_) fun _ => ?_
    · cases h
      subst hc
      exact .inr (.inl ⟨by decide, by decide, rfl, rfl⟩)
  refine ite_some_imp (fun hc h => ?_) fun _ => ?_
  · cases h
    refine .inr (.inl ⟨?_, by decide, rfl, rfl⟩)
    rcases hc with rfl | rfl <;> decide
  refine ite_some_imp (fun hc h => ?_) fun _ => ?_
  · cases h
    subst hc
    exact .inr (.inl ⟨by decide, by decide, rfl, rfl⟩)
  refine ite_some_imp (fun hc h => ?_) fun _ => ?_
  · obtain ⟨rfl, hn⟩ := map_scan_some h
    exact .inr (.inr (.inl ⟨hc, rfl, hn⟩))
  refine ite_some_imp (fun hc h => ?_) fun _ => ?_
  · obtain ⟨rfl, hn⟩ := map_scan_some h
    exact .inr (.inr (.inr (.inl ⟨hc, rfl, hn⟩)))
  refine ite_some_imp (fun hc h => ?_) fun _ => ?_
  · obtain ⟨rfl, hn⟩ := map_scan_some h
    exact .inr (.inr (.inr (.inr (.inl ⟨hc, rfl, hn⟩))))
  refine ite_some_imp (fun hc h => ?_) fun _ => ?_
  · obtain ⟨rfl, hn⟩ := map_scan_some h
    exact .inr (.inr (.inr (.inr (.inr (.inl ⟨hc, rfl, hn⟩)))))
  refine ite_some_imp (fun hn h => ?_) fun _ h => by cases h
  cases h
  exact .inr (.inr (.inr (.inr (.inr (.inr ⟨hn, rfl, rfl⟩)))))

/-! ## Scans stay inside the text -/

theorem map_add_le {x : Option Nat} {k n len : Nat} (ih : ∀ m, x = some m → m ≤ len)
    (h : x.map (· + k) = some n) : n ≤ len + k := by
  obtain ⟨m, hm, rfl⟩ := Option.map_eq_some_iff.mp h
  exact Nat.add_le_add_right (ih m hm) k

theorem quotedRest_le (q : Char) (l : List Char) : ∀ n, quotedRest q l = some n → n ≤ l.length := by
  fun_induction quotedRest q l with
  | case1 | case2 => simp
  | case3 x rest ih => exact fun n h => by simpa using map_add_le ih h
  | case4 rest => simp
  | case5 c rest _ _ _ ih => exact fun n h => by simpa using map_add_le ih h

theorem attrRest_le (q : Option Char) (l : List Char) : ∀ n, attrRest q l = some n → n ≤ l.length := by
  fun_induction attrRest q l with
  | case1 => simp
  | case5 => simp
  | case2 _ _ _ ih | case3 _ _ _ ih | case4 _ _ _ _ _ ih | case6 _ _ _ _ ih | case7 _ _ _ _ ih =>
    exact fun n h => by simpa using map_add_le ih h

theorem argsRest_le (nested : Bool) (q : Option Char) (l : List Char) :
    ∀ n, argsRest nested q l = some n → n ≤ l.length := by
  fun_induction argsRest nested q l with
  | case1 | case6 => simp
  | case9 => simp
  | case2 _ _ _ _ ih | case3 _ _ _ _ ih | case4 _ _ _ _ _ _ ih | case5 _ _ _ _ ih | case7 _ _ _ _ ih
    | case8 _ _ _ ih | case10 _ _ _ _ _ _ ih =>
    exact fun n h => by simpa using map_add_le ih h

theorem quotedLength_le {l : List Char} {n : Nat} (h : quotedLength l = some n) : n ≤ l.length := by
  unfold quotedLength at h
  split at h
  · simpa using map_add_le (quotedRest_le _ _) h
  · simpa using map_add_le (quotedRest_le _ _) h
  · cases h

theorem keyRest_le {r : List Char} {n : Nat} (h : keyRest r = some n) : n ≤ r.length := by
  unfold keyRest at h
  split at h
  · next hq =>
    cases h
    exact quotedLength_le hq
  · simp only at h
    split at h
    · cases h
    · cases h
      exact (List.takeWhile_prefix _).length_le

theorem hashRest_le {r : List Char} {n : Nat} (h : hashRest r = some n) : n ≤ r.length := by
  unfold hashRest nameLength at h
  simp only at h
  split at h
  · cases h
  · cases h
    exact (List.takeWhile_prefix _).length_le

theorem pseudoRest_le {r : List Char} {n : Nat} (h : pseudoRest r = some n) : n ≤ r.length := by
  have hname : nameLength r ≤ r.length := (List.takeWhile_prefix _).length_le
  unfold pseudoRest at h
  simp only at h
  split at h
  · cases h
  · split at h
    · next r' hdrop =>
      have hlen : (r.drop (nameLength r)).length = r'.length + 1 := by rw [hdrop]; rfl
      rw [List.length_drop] at hlen
      split at h
      · next m hm =>
        cases h
        have := argsRest_le false none r' m hm
        omega
      · cases h
        exact hname
    · cases h
      exact hname

/-- A scan takes no more characters than there are. -/
theorem scanToken_le {c : Char} {r : List Char} {k : TokenKind} {n : Nat} (h : scanToken c r = some (k, n)) :
    n ≤ r.length := by
  rcases scanToken_cases h with ⟨-, -, rfl⟩ | ⟨-, -, -, rfl⟩ | ⟨-, -, hn⟩ | ⟨-, -, hn⟩ | ⟨-, -, hn⟩ |
    ⟨-, -, hn⟩ | ⟨-, -, rfl⟩
  · exact (List.takeWhile_prefix _).length_le
  · exact Nat.zero_le _
  · exact keyRest_le hn
  · exact hashRest_le hn
  · exact attrRest_le none r n hn
  · exact pseudoRest_le hn
  · exact (List.takeWhile_prefix _).length_le

/-- A character that starts a token keeps no surrogate. -/
theorem scanToken_plain {c : Char} {r : List Char} {k : TokenKind} {n : Nat} (h : scanToken c r = some (k, n)) :
    surrogateOf? c = none := by
  apply surrogateOf?_of_lt
  rcases scanToken_cases h with ⟨hb, -⟩ | ⟨hc, -⟩ | ⟨rfl, -⟩ | ⟨rfl, -⟩ | ⟨rfl, -⟩ | ⟨rfl, -⟩ | ⟨hn, -⟩
  · simp only [isBlank, Bool.or_eq_true, Bool.and_eq_true, decide_eq_true_eq, beq_iff_eq] at hb
    omega
  · omega
  all_goals try decide
  by_contra hhigh
  have hw : isWord c = false := isWord_of_high (by omega)
  have hc : c = '-' := by simpa [isNameChar, hw] using hn
  rw [hc] at hhigh
  exact hhigh (by decide)

/-- A token that continues a compound selector starts with a delimiter. -/
theorem scanToken_delimits {c : Char} {r : List Char} {k : TokenKind} {n : Nat} (h : scanToken c r = some (k, n))
    (hk : k.continuesCompound = true) : Delimits c := by
  rcases scanToken_cases h with ⟨-, rfl, -⟩ | ⟨-, -, hk', -⟩ | ⟨rfl, -⟩ | ⟨rfl, -⟩ | ⟨rfl, -⟩ | ⟨rfl, -⟩ |
    ⟨-, rfl, -⟩
  · simp [TokenKind.continuesCompound] at hk
  · rw [hk] at hk'
    cases hk'
  all_goals first | exact ⟨by decide +kernel, by decide⟩ | simp [TokenKind.continuesCompound] at hk

/-! ## The stream spells its text -/

/-- How a token is read off the text in front of `after`: the end of input reads nothing, and
any other token is a word the lexer cuts at its first character, with the kind it gets. -/
def Token.ReadBefore (t : Token) (after : List Char) : Prop :=
  (t.kind = .eof ∧ t.text = "") ∨
    ∃ c body k, t.text.toList = c :: body ∧ classify k t.text = t.kind ∧
      scanToken c (body ++ after) = some (k, body.length)

/-- The tokens `ts` spell the characters `cs`, the first token at position `pos`: each token
stands where the code points before it end, its text is the next piece of `cs`, and it is read
off that piece as the lexer reads it. -/
def Spells : List Char → Nat → List Token → Prop
  | cs, _, [] => cs = []
  | cs, pos, t :: ts => t.pos = pos ∧ ∃ rest, cs = t.text.toList ++ rest ∧ t.ReadBefore rest ∧
      Spells rest (pos + codeLength t.text) ts

theorem tokenizeFrom_spells {cs : List Char} {pos : Nat} {acc arr : Array Token} {n : Nat}
    (h : tokenizeFrom cs pos acc = .ok (arr, n)) :
    ∃ fresh, arr.toList = acc.toList ++ fresh ∧ Spells cs pos (fresh ++ [⟨.eof, "", n⟩]) := by
  induction cs, pos, acc using tokenizeFrom.induct generalizing arr n with
  | case1 pos acc =>
    rw [tokenizeFrom] at h
    simp only [Except.ok.injEq, Prod.mk.injEq] at h
    obtain ⟨rfl, rfl⟩ := h
    exact ⟨[], by simp, rfl, [], rfl, .inl ⟨rfl, rfl⟩, rfl⟩
  | case2 c r pos acc hscan =>
    rw [tokenizeFrom, hscan] at h
    cases h
  | case3 c r pos acc k m hscan =>
    rename_i taken text ih
    rw [tokenizeFrom, hscan] at h
    obtain ⟨fresh, harr, hsp⟩ := ih h
    have hm : (r.take m).length = m := List.length_take_of_le (scanToken_le hscan)
    refine ⟨⟨classify k text, text, pos⟩ :: fresh, by simp [harr], rfl, r.drop m, ?_, ?_, ?_⟩
    · simp [text, taken]
    · refine .inr ⟨c, r.take m, k, by simp [text, taken], rfl, ?_⟩
      rw [List.take_append_drop, hm, hscan]
    · simpa [codeLength, text, taken] using hsp

/-- The lexer's stream spells its text from position 0. -/
theorem tokenize_spells {s : String} {ts : List Token} (h : tokenize s = .ok ts) : Spells s.toList 0 ts := by
  unfold tokenize at h
  cases hgo : tokenizeFrom s.toList 0 #[] with
  | error e => rw [hgo] at h; cases h
  | ok p =>
    obtain ⟨arr, n⟩ := p
    rw [hgo] at h
    simp only [bind, Except.bind, pure, Except.pure, Except.ok.injEq] at h
    obtain ⟨fresh, harr, hsp⟩ := tokenizeFrom_spells hgo
    simp only [List.nil_append] at harr
    rwa [← h, Array.toList_push, harr]

theorem Token.ReadBefore.plainHead {t : Token} {after : List Char} (h : t.ReadBefore after) :
    PlainHead t.text.toList := by
  rcases h with ⟨-, htext⟩ | ⟨c, body, k, htext, -, hscan⟩
  · rw [htext]
    exact plainHead_nil
  · rw [htext]
    exact plainHead_cons (scanToken_plain hscan)

theorem Spells.plainHead {cs : List Char} {pos : Nat} {ts : List Token} (h : Spells cs pos ts) : PlainHead cs := by
  induction ts generalizing cs pos with
  | nil =>
    rw [show cs = [] from h]
    exact plainHead_nil
  | cons t ts ih =>
    obtain ⟨-, rest, rfl, hread, hrest⟩ := h
    exact hread.plainHead.append (ih hrest)

/-- A run of tokens at the head of a spelled stream spells the front of the text, and ends where
the code points of its texts end. -/
theorem Spells.run {cs : List Char} {pos : Nat} {t : Token} {tail rest : List Token}
    (h : Spells cs pos (t :: tail ++ rest)) :
    ∃ more, cs = (t :: tail).flatMap (·.text.toList) ++ more ∧ PlainHead more ∧
      (tail.getLastD t).stop = pos + (codePoints ((t :: tail).flatMap (·.text.toList))).length := by
  induction tail generalizing t cs pos with
  | nil =>
    obtain ⟨htp, more, rfl, -, hmore⟩ := h
    exact ⟨more, by simp, hmore.plainHead, by simp [Token.stop, htp, codeLength]⟩
  | cons u tail ih =>
    obtain ⟨htp, cs', rfl, hread, hrest⟩ := h
    obtain ⟨more, rfl, hmore, hstop⟩ := ih hrest
    have hplain : PlainHead ((u :: tail).flatMap (·.text.toList)) := hrest.plainHead.of_append
    have hcp : codePoints ((t :: u :: tail).flatMap (·.text.toList)) =
        codePoints t.text.toList ++ codePoints ((u :: tail).flatMap (·.text.toList)) := by
      rw [List.flatMap_cons, codePoints_append _ hplain]
    refine ⟨more, by simp, hmore, ?_⟩
    rw [List.getLastD_cons, hstop, hcp, List.length_append]
    simp only [codeLength]
    omega

/-! ## Runs of a spelled stream -/

/-- `ts` spells the text `src` from the position of its first token on. -/
def Placed (src : List Char) (ts : List Token) : Prop := ∃ pos, Spells (dropCodes pos src) pos ts

theorem Placed.tail {src : List Char} {t : Token} {ts : List Token} (h : Placed src (t :: ts)) : Placed src ts := by
  obtain ⟨pos, -, rest, hcs, -, hrest⟩ := h
  refine ⟨pos + codeLength t.text, ?_⟩
  rw [dropCodes_add, hcs, codeLength, (cut_append hrest.plainHead _).1]
  exact hrest

theorem Placed.drop {src : List Char} {pre ts : List Token} (h : Placed src (pre ++ ts)) : Placed src ts := by
  induction pre with
  | nil => exact h
  | cons t pre ih => exact ih h.tail

theorem Spells.placed {src : List Char} {ts : List Token} (h : Spells src 0 ts) : Placed src ts :=
  ⟨0, by simpa [dropCodes] using h⟩

/-- The characters of the text from a run's first position to its end are the run's texts. -/
theorem Placed.slice {src : List Char} {t : Token} {tail rest : List Token} (h : Placed src (t :: tail ++ rest)) :
    slice src t.pos (tail.getLastD t).stop = String.ofList ((t :: tail).flatMap (·.text.toList)) := by
  obtain ⟨pos, hsp⟩ := h
  have htp : t.pos = pos := hsp.1
  obtain ⟨more, hcs, hmore, hstop⟩ := hsp.run
  rw [Selector.slice, hstop, htp, hcs, Nat.add_sub_cancel_left, (cut_append hmore _).2]

/-- A lexed word other than white space ends by itself. -/
theorem Token.ReadBefore.solid {t : Token} {after : List Char} (h : t.ReadBefore after) (he : t.kind ≠ .eof)
    (hs : t.kind ≠ .space) : t.Solid := by
  rcases h with ⟨heof, -⟩ | ⟨c, body, k, htext, hk, hscan⟩
  · exact absurd heof he
  · have hks : k ≠ .space := fun hks => hs (by rw [← hk, classify_eq_space.mpr hks])
    exact ⟨c, body, k, htext, hk, fun r hr => scanToken_stable hscan hks hr⟩

end Stencil.Selector

import Mathlib
import Stencil.Proofs.Selector.Recognition
/-!
# How the lexer cuts a text

The lexer reads a text as a sequence of words: each word is a character that starts a token and
the characters its scanner takes after it. `Cut cs ws` says the lexer cuts `cs` into the words
`ws`, and then its tokens are the words in order (`Cut.tokenize`). `Cuts ok cs ws` says more: the
text `cs` is cut into `ws` whatever follows it, as long as what follows starts with a character
`ok` allows. This is what lets a text printed from pieces be lexed piece by piece (`Cuts.append`).

A word that ends by itself (`Token.Solid`) is cut the same way before any delimiter: a scanner that
returned a length read no further than that length (`quotedRest_prefix`, `attrRest_prefix`,
`argsRest_prefix`), and a run of name characters stops at the first character that is not one
(`scanToken_stable`).

* `Cut`, `tokensOf`, `Cut.tokenize` : cutting a whole text.
* `Cuts`, `Cuts.append`, `cuts_space`, `cuts_single`, `cuts_name` : cutting pieces.
* `Delimits`, `scanToken_stable`, `Token.Solid` : words that end by themselves.
-/

namespace Stencil.Selector

open Stencil.Text

/-! ## Cutting a whole text -/

/-- The lexer cuts `cs` into the words `ws`: each word is a starting character and the characters
its scanner takes after it, with the kind its token gets. -/
inductive Cut : List Char → List (TokenKind × List Char) → Prop where
  | nil : Cut [] []
  | cons {c : Char} {body rest : List Char} {k kind : TokenKind} {ws : List (TokenKind × List Char)}
      (hscan : scanToken c (body ++ rest) = some (k, body.length))
      (hk : classify k (String.ofList (c :: body)) = kind) (h : Cut rest ws) :
      Cut (c :: body ++ rest) ((kind, c :: body) :: ws)

/-- The tokens of words, the first at `pos`, each after the code points of the ones before. -/
def tokensOf : Nat → List (TokenKind × List Char) → List Token
  | _, [] => []
  | pos, (kind, w) :: ws => ⟨kind, String.ofList w, pos⟩ :: tokensOf (pos + (codePoints w).length) ws

theorem tokensOf_append (pos : Nat) (ws1 ws2 : List (TokenKind × List Char)) :
    ∃ pos', tokensOf pos (ws1 ++ ws2) = tokensOf pos ws1 ++ tokensOf pos' ws2 := by
  induction ws1 generalizing pos with
  | nil => exact ⟨pos, rfl⟩
  | cons w ws1 ih =>
    obtain ⟨pos', h⟩ := ih (pos + (codePoints w.2).length)
    exact ⟨pos', by simp [tokensOf, h]⟩

theorem Cut.tokenizeFrom {cs : List Char} {ws : List (TokenKind × List Char)} (h : Cut cs ws)
    (pos : Nat) (acc : Array Token) :
    ∃ n, Selector.tokenizeFrom cs pos acc = .ok (⟨acc.toList ++ tokensOf pos ws⟩, n) := by
  induction h generalizing pos acc with
  | nil => exact ⟨pos, by rw [Selector.tokenizeFrom]; simp [tokensOf]⟩
  | @cons c body rest k kind ws hscan hk _ ih =>
    obtain ⟨n, hn⟩ := ih (pos + (codePoints (c :: body)).length) (acc.push ⟨kind, String.ofList (c :: body), pos⟩)
    refine ⟨n, ?_⟩
    rw [List.cons_append, Selector.tokenizeFrom, hscan]
    simp only [List.take_left', List.drop_left', hk]
    rw [hn]
    simp [tokensOf]

/-- A text cut into words lexes to their tokens, then the end of input. -/
theorem Cut.tokenize {s : String} {ws : List (TokenKind × List Char)} (h : Cut s.toList ws) :
    ∃ n, Selector.tokenize s = .ok (tokensOf 0 ws ++ [⟨.eof, "", n⟩]) := by
  obtain ⟨n, hn⟩ := h.tokenizeFrom 0 #[]
  exact ⟨n, by simp [Selector.tokenize, hn]⟩

/-! ## Cutting pieces -/

/-- The lexer cuts `cs` into the words `ws` whatever follows it, as long as what follows starts
with a character that `ok` allows. -/
def Cuts (ok : Char → Prop) (cs : List Char) (ws : List (TokenKind × List Char)) : Prop :=
  ∀ rest wr, Cut rest wr → (∀ d ∈ rest.head?, ok d) → Cut (cs ++ rest) (ws ++ wr)

theorem Cuts.cut {ok : Char → Prop} {cs : List Char} {ws : List (TokenKind × List Char)} (h : Cuts ok cs ws) :
    Cut cs ws := by
  simpa using h [] [] .nil (by simp)

theorem cuts_nil (ok : Char → Prop) : Cuts ok [] [] := fun _ _ h _ => h

/-- Two pieces one after the other, when whatever may follow the second leaves the first cut. -/
theorem Cuts.append {p q : Char → Prop} {a b : List Char} {wa wb : List (TokenKind × List Char)}
    (ha : Cuts p a wa) (hb : Cuts q b wb)
    (hab : ∀ r : List Char, (∀ d ∈ r.head?, q d) → ∀ d ∈ (b ++ r).head?, p d) :
    Cuts q (a ++ b) (wa ++ wb) := by
  intro rest wr hc hq
  simpa [List.append_assoc] using ha (b ++ rest) (wb ++ wr) (hb rest wr hc hq) (hab rest hq)

theorem head_append_of_head {p : Char → Prop} {c : Char} {b : List Char} (hc : p c) (r : List Char) :
    ∀ d ∈ (c :: b ++ r).head?, p d := by
  simpa using hc

theorem cuts_word {ok : Char → Prop} {c : Char} {body : List Char} {k kind : TokenKind}
    (hscan : ∀ r : List Char, (∀ d ∈ r.head?, ok d) → scanToken c (body ++ r) = some (k, body.length))
    (hk : classify k (String.ofList (c :: body)) = kind) : Cuts ok (c :: body) [(kind, c :: body)] :=
  fun rest _ hc hq => .cons (hscan rest hq) hk hc

/-- A blank followed by a character that is not one is a white-space token. -/
theorem cuts_space : Cuts (fun d => isBlank d = false) [' '] [(.space, [' '])] := by
  refine cuts_word (k := .space) (fun r hr => ?_) (by decide)
  have hb : isBlank ' ' = true := by decide
  simp [scanToken, hb, takeWhile_eq_nil_of_head hr]

/-- A character that is a token on its own is cut alone, whatever follows. -/
theorem cuts_single {c : Char} {k : TokenKind} (hc : ∀ r, scanToken c r = some (k, 0))
    (hk : classify k (String.ofList [c]) = k) : Cuts (fun _ => True) [c] [(k, [c])] :=
  cuts_word (fun r _ => hc r) hk

theorem scanToken_of_isNameChar {c : Char} (hb : isBlank c = false) (hn : isNameChar c = true) (r : List Char) :
    scanToken c r = some (.ident, nameLength r) := by
  have hne : ∀ x : Char, isNameChar x = false → c ≠ x := by
    rintro x hx rfl
    rw [hn] at hx
    cases hx
  simp [scanToken, hb, hn, hne '(' (by decide +kernel), hne ')' (by decide +kernel), hne ',' (by decide +kernel),
    hne '>' (by decide +kernel), hne '+' (by decide +kernel), hne '~' (by decide +kernel),
    hne '*' (by decide +kernel), hne '.' (by decide +kernel), hne '#' (by decide +kernel),
    hne '[' (by decide +kernel), hne ':' (by decide +kernel)]

/-- A run of name characters followed by a character that is not one is one name token. -/
theorem cuts_name {c : Char} {body : List Char} {kind : TokenKind} (hb : isBlank c = false)
    (hn : isNameChar c = true) (hbody : ∀ x ∈ body, isNameChar x = true)
    (hk : classify .ident (String.ofList (c :: body)) = kind) :
    Cuts (fun d => isNameChar d = false) (c :: body) [(kind, c :: body)] := by
  refine cuts_word (fun r hr => ?_) hk
  rw [scanToken_of_isNameChar hb hn, nameLength, List.takeWhile_append_of_pos hbody,
    takeWhile_eq_nil_of_head hr, List.append_nil]

/-! ## Words that end by themselves -/

/-- A character that ends a word after it: neither a character of a key or a name, nor an
opening parenthesis. -/
def Delimits (d : Char) : Prop := isKeyChar d = false ∧ d ≠ '('

theorem Delimits.not_name {d : Char} (h : Delimits d) : isNameChar d = false := by
  have := h.1
  simp only [isKeyChar, Bool.or_eq_false_iff] at this
  exact this.2

theorem ne_backslash {c : Char} {rest : List Char} (hesc : ∀ head r, c = '\\' → ¬rest = head :: r)
    (hne : rest ≠ []) : c ≠ '\\' := by
  rintro rfl
  obtain ⟨d, t, rfl⟩ := List.exists_cons_of_ne_nil hne
  exact hesc d t rfl rfl

theorem quotedRest_cons {q c : Char} (hc : c ≠ '\\') (x : List Char) :
    quotedRest q (c :: x) = if c = q then some 1 else (quotedRest q x).map (· + 1) := by
  cases x <;> simp [quotedRest, hc]

theorem attrRest_some_cons {q c : Char} (hc : c ≠ '\\') (x : List Char) :
    attrRest (some q) (c :: x) = if c = q then (attrRest none x).map (· + 1) else (attrRest (some q) x).map (· + 1) := by
  cases x <;> simp [attrRest, hc]

theorem argsRest_some_cons {nested : Bool} {q c : Char} (hc : c ≠ '\\') (x : List Char) :
    argsRest nested (some q) (c :: x) =
      if c = q then (argsRest nested none x).map (· + 1) else (argsRest nested (some q) x).map (· + 1) := by
  cases x <;> simp [argsRest, hc]

/-- A quoted literal's scan reads no further than the literal. -/
theorem quotedRest_prefix (q : Char) (l r : List Char) :
    ∀ n, quotedRest q l = some n → quotedRest q (l.take n ++ r) = some n := by
  fun_induction quotedRest q l with
  | case1 => simp
  | case2 => simp
  | case3 x rest ih =>
    intro n h
    simp only [Option.map_eq_some_iff] at h
    obtain ⟨m, hm, rfl⟩ := h
    simp [quotedRest, ih m hm]
  | case4 rest h1 h2 =>
    intro n h
    simp only [Option.some.injEq] at h
    subst h
    have hq : q ≠ '\\' := by intro hq; cases rest <;> simp_all
    simp [quotedRest_cons hq]
  | case5 c rest h1 h2 hne ih =>
    intro n h
    simp only [Option.map_eq_some_iff] at h
    obtain ⟨m, hm, rfl⟩ := h
    have hc : c ≠ '\\' := ne_backslash h2 (by rintro rfl; simp [quotedRest] at hm)
    simp [quotedRest_cons hc, hne, ih m hm]

/-- An attribute test's scan reads no further than the test. -/
theorem attrRest_prefix (q : Option Char) (l r : List Char) :
    ∀ n, attrRest q l = some n → attrRest q (l.take n ++ r) = some n := by
  fun_induction attrRest q l with
  | case1 => simp
  | case2 q x rest ih =>
    intro n h
    simp only [Option.map_eq_some_iff] at h
    obtain ⟨m, hm, rfl⟩ := h
    simp [attrRest, ih m hm]
  | case3 c rest hesc ih =>
    intro n h
    simp only [Option.map_eq_some_iff] at h
    obtain ⟨m, hm, rfl⟩ := h
    have hc : c ≠ '\\' := ne_backslash hesc (by rintro rfl; simp [attrRest] at hm)
    simp [attrRest_some_cons hc, ih m hm]
  | case4 q c rest hesc hne ih =>
    intro n h
    simp only [Option.map_eq_some_iff] at h
    obtain ⟨m, hm, rfl⟩ := h
    have hc : c ≠ '\\' := ne_backslash hesc (by rintro rfl; simp [attrRest] at hm)
    simp [attrRest_some_cons hc, hne, ih m hm]
  | case5 rest =>
    intro n h
    simp only [Option.some.injEq] at h
    subst h
    simp [attrRest]
  | case6 c rest hc hq ih =>
    intro n h
    simp only [Option.map_eq_some_iff] at h
    obtain ⟨m, hm, rfl⟩ := h
    simp [attrRest, hc, hq, ih m hm]
  | case7 c rest hc hq ih =>
    intro n h
    simp only [Option.map_eq_some_iff] at h
    obtain ⟨m, hm, rfl⟩ := h
    simp [attrRest, hc, hq, ih m hm]

/-- A pseudo-class argument's scan reads no further than the closing parenthesis. -/
theorem argsRest_prefix (nested : Bool) (q : Option Char) (l r : List Char) :
    ∀ n, argsRest nested q l = some n → argsRest nested q (l.take n ++ r) = some n := by
  fun_induction argsRest nested q l with
  | case1 => simp
  | case2 b q x rest ih =>
    intro n h
    simp only [Option.map_eq_some_iff] at h
    obtain ⟨m, hm, rfl⟩ := h
    simp [argsRest, ih m hm]
  | case3 b c rest hesc ih =>
    intro n h
    simp only [Option.map_eq_some_iff] at h
    obtain ⟨m, hm, rfl⟩ := h
    have hc : c ≠ '\\' := ne_backslash hesc (by rintro rfl; simp [argsRest] at hm)
    simp [argsRest_some_cons hc, ih m hm]
  | case4 b q c rest hesc hne ih =>
    intro n h
    simp only [Option.map_eq_some_iff] at h
    obtain ⟨m, hm, rfl⟩ := h
    have hc : c ≠ '\\' := ne_backslash hesc (by rintro rfl; simp [argsRest] at hm)
    simp [argsRest_some_cons hc, hne, ih m hm]
  | case5 b c rest hq ih =>
    intro n h
    simp only [Option.map_eq_some_iff] at h
    obtain ⟨m, hm, rfl⟩ := h
    simp [argsRest, hq, ih m hm]
  | case6 rest hq => simp
  | case7 b rest hb hq ih =>
    intro n h
    simp only [Option.map_eq_some_iff] at h
    obtain ⟨m, hm, rfl⟩ := h
    simp [argsRest, hb, ih m hm]
  | case8 rest hq hp ih =>
    intro n h
    simp only [Option.map_eq_some_iff] at h
    obtain ⟨m, hm, rfl⟩ := h
    simp [argsRest, ih m hm]
  | case9 b rest hb hq hp =>
    intro n h
    simp only [Option.some.injEq] at h
    subst h
    simp [argsRest, hb]
  | case10 b c rest hq hp hc ih =>
    intro n h
    simp only [Option.map_eq_some_iff] at h
    obtain ⟨m, hm, rfl⟩ := h
    simp [argsRest, hq, hp, hc, ih m hm]

theorem takeWhile_length_stable {p : Char → Bool} {a r0 r : List Char}
    (h : (List.takeWhile p (a ++ r0)).length = a.length) (hr : ∀ d ∈ r.head?, p d = false) :
    (List.takeWhile p (a ++ r)).length = a.length := by
  have hpre : List.takeWhile p (a ++ r0) = a :=
    (List.prefix_of_prefix_length_le (List.takeWhile_prefix p) (List.prefix_append a r0) h.le).eq_of_length h
  have hall : ∀ x ∈ a, p x = true := by
    intro x hx
    rw [← hpre] at hx
    exact List.mem_takeWhile_imp hx
  rw [List.takeWhile_append_of_pos hall, takeWhile_eq_nil_of_head hr, List.append_nil]

theorem quotedLength_prefix {l : List Char} {n : Nat} (h : quotedLength l = some n) (r : List Char) :
    quotedLength (l.take n ++ r) = some n := by
  unfold quotedLength at h
  split at h
  · simp only [Option.map_eq_some_iff] at h
    obtain ⟨m, hm, rfl⟩ := h
    simp [quotedLength, quotedRest_prefix _ _ r m hm]
  · simp only [Option.map_eq_some_iff] at h
    obtain ⟨m, hm, rfl⟩ := h
    simp [quotedLength, quotedRest_prefix _ _ r m hm]
  · cases h

theorem quotedLength_of_not_quote {c : Char} (h1 : c ≠ '"') (h2 : c ≠ '\'') (x : List Char) :
    quotedLength (c :: x) = none := by
  simp [quotedLength, h1, h2]

theorem keyRest_stable {a r0 r : List Char} (h : keyRest (a ++ r0) = some a.length)
    (hr : ∀ d ∈ r.head?, Delimits d) : keyRest (a ++ r) = some a.length := by
  unfold keyRest at h ⊢
  cases hq : quotedLength (a ++ r0) with
  | some n =>
    rw [hq] at h
    simp only [Option.some.injEq] at h
    subst h
    have := quotedLength_prefix hq r
    rw [List.take_left' rfl] at this
    rw [this]
  | none =>
    rw [hq] at h
    simp only at h
    split at h
    · cases h
    · next hn =>
      have hlen := Option.some.inj h
      obtain ⟨c, a', rfl⟩ : ∃ c a', a = c :: a' :=
        List.exists_cons_of_ne_nil (by rintro rfl; exact hn (by rw [hlen]; rfl))
      have hc : isKeyChar c = true := by
        by_contra hc
        simp [hc] at hlen
      have hq1 : c ≠ '"' := by rintro rfl; exact absurd hc (by decide +kernel)
      have hq2 : c ≠ '\'' := by rintro rfl; exact absurd hc (by decide +kernel)
      rw [List.cons_append, quotedLength_of_not_quote hq1 hq2]
      simp only
      rw [← List.cons_append, takeWhile_length_stable hlen (fun d hd => (hr d hd).1), if_neg (by simp)]

theorem hashRest_stable {a r0 r : List Char} (h : hashRest (a ++ r0) = some a.length)
    (hr : ∀ d ∈ r.head?, Delimits d) : hashRest (a ++ r) = some a.length := by
  unfold hashRest nameLength at h ⊢
  simp only at h ⊢
  split at h
  · cases h
  · next hn =>
    have hlen := Option.some.inj h
    rw [takeWhile_length_stable hlen (fun d hd => (hr d hd).not_name), if_neg (by omega)]

theorem takeWhile_append_of_lt {p : Char → Bool} {a r0 r : List Char}
    (h : (List.takeWhile p (a ++ r0)).length < a.length) :
    List.takeWhile p (a ++ r) = List.takeWhile p (a ++ r0) := by
  have hne : (List.takeWhile p a).length ≠ a.length := by
    intro heq
    rw [List.takeWhile_append, if_pos heq, List.length_append] at h
    omega
  rw [List.takeWhile_append, List.takeWhile_append, if_neg hne, if_neg hne]

theorem pseudoRest_stable {a r0 r : List Char} (h : pseudoRest (a ++ r0) = some a.length)
    (hr : ∀ d ∈ r.head?, Delimits d) : pseudoRest (a ++ r) = some a.length := by
  unfold pseudoRest at h ⊢
  simp only at h ⊢
  split at h
  · cases h
  · next hn0 =>
    by_cases hN : nameLength (a ++ r0) = a.length
    · -- the name is the whole word
      have hN' : nameLength (a ++ r) = a.length :=
        takeWhile_length_stable hN (fun d hd => (hr d hd).not_name)
      rw [hN', if_neg (by rw [← hN]; exact hn0), List.drop_left' rfl]
      cases r with
      | nil => rfl
      | cons d t =>
        have hd : d ≠ '(' := (hr d (by simp)).2
        simp [hd]
    · -- the name stops inside the word, at an argument that closes inside it
      split at h
      · next r' heq =>
        split at h
        · next m hm =>
          have hlen := Option.some.inj h
          have hlt : nameLength (a ++ r0) < a.length := by omega
          have hN' : nameLength (a ++ r) = nameLength (a ++ r0) := by
            unfold nameLength at hlt ⊢
            rw [takeWhile_append_of_lt hlt]
          obtain ⟨x, a'', hdrop⟩ : ∃ x a'', a.drop (nameLength (a ++ r0)) = x :: a'' :=
            List.exists_cons_of_ne_nil (by simp; omega)
          rw [List.drop_append_of_le_length hlt.le, hdrop, List.cons_append, List.cons.injEq] at heq
          obtain ⟨rfl, rfl⟩ := heq
          have ha'' : a''.length = m := by
            have := congrArg List.length hdrop
            simp only [List.length_drop, List.length_cons] at this
            omega
          have hargs := argsRest_prefix false none (a'' ++ r0) r m hm
          rw [List.take_left' ha''] at hargs
          rw [hN', if_neg hn0, List.drop_append_of_le_length hlt.le, hdrop, List.cons_append]
          simp only [hargs, hlen]
        · exact absurd (Option.some.inj h) hN
      · exact absurd (Option.some.inj h) hN

theorem attrRest_stable {a r0 : List Char} (h : attrRest none (a ++ r0) = some a.length) (r : List Char) :
    attrRest none (a ++ r) = some a.length := by
  simpa [List.take_left' rfl] using attrRest_prefix none (a ++ r0) r a.length h

theorem map_scan_stable {kind k : TokenKind} {n : Nat} {x y : Option Nat} (hxy : x = some n → y = some n)
    (h : x.map (kind, ·) = some (k, n)) : y.map (kind, ·) = some (k, n) := by
  obtain ⟨m, hm, heq⟩ := Option.map_eq_some_iff.mp h
  obtain ⟨rfl, rfl⟩ := Prod.mk.inj heq
  rw [hxy hm]
  rfl

theorem ite_some_stable {α : Type} {p : Prop} [Decidable p] {a a' b b' : Option α} {x : α}
    (ha : p → a = some x → a' = some x) (hb : ¬p → b = some x → b' = some x) :
    (if p then a else b) = some x → (if p then a' else b') = some x := by
  by_cases hp : p
  · rw [if_pos hp, if_pos hp]
    exact ha hp
  · rw [if_neg hp, if_neg hp]
    exact hb hp

/-- A word that is not white space, scanned before whatever followed it, is scanned the same
before a delimiter. -/
theorem scanToken_stable {c : Char} {body r0 r : List Char} {k : TokenKind}
    (h : scanToken c (body ++ r0) = some (k, body.length)) (hk : k ≠ .space)
    (hr : ∀ d ∈ r.head?, Delimits d) : scanToken c (body ++ r) = some (k, body.length) := by
  unfold scanToken at h ⊢
  revert h
  -- one step per branch of the scanner, in its order
  refine ite_some_stable (fun _ h => absurd (Prod.mk.inj (Option.some.inj h)).1.symm hk) fun _ => ?_
  iterate 6 refine ite_some_stable (fun _ => id) fun _ => ?_
  refine ite_some_stable (fun _ => map_scan_stable (keyRest_stable · hr)) fun _ => ?_
  refine ite_some_stable (fun _ => map_scan_stable (hashRest_stable · hr)) fun _ => ?_
  refine ite_some_stable (fun _ => map_scan_stable (attrRest_stable · r)) fun _ => ?_
  refine ite_some_stable (fun _ => map_scan_stable (pseudoRest_stable · hr)) fun _ => ?_
  refine ite_some_stable (fun _ h => ?_) fun _ => id
  simp only [Option.some.injEq, Prod.mk.injEq] at h ⊢
  exact ⟨h.1, takeWhile_length_stable h.2 (fun d hd => (hr d hd).not_name)⟩

/-- A token that ends by itself: its text is a word the lexer scans as one before any delimiter,
with the kind it gets. -/
def Token.Solid (t : Token) : Prop :=
  ∃ c body k, t.text.toList = c :: body ∧ classify k t.text = t.kind ∧
    ∀ r : List Char, (∀ d ∈ r.head?, Delimits d) → scanToken c (body ++ r) = some (k, body.length)

theorem Token.Solid.cuts {t : Token} (h : t.Solid) : Cuts Delimits t.text.toList [(t.kind, t.text.toList)] := by
  obtain ⟨c, body, k, htext, hk, hscan⟩ := h
  rw [htext]
  exact cuts_word hscan (by rw [← htext, String.ofList_toList, hk])

theorem Token.Solid.of_scan {t : Token} {c : Char} {body : List Char} {k : TokenKind}
    (htext : t.text.toList = c :: body) (hk : classify k t.text = t.kind) (hks : k ≠ .space)
    (hscan : scanToken c body = some (k, body.length)) : t.Solid :=
  ⟨c, body, k, htext, hk, fun _ hr =>
    scanToken_stable (show scanToken c (body ++ []) = some (k, body.length) by rw [List.append_nil]; exact hscan)
      hks hr⟩

end Stencil.Selector

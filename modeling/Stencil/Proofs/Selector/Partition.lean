import Mathlib
import Stencil.Proofs.Selector.Spelling
/-!
# The lexer partitions its text

`tokenize` either refuses a text or cuts all of it into tokens. It refuses exactly when, at a
place where a token starts (`Boundary`), no token starts with the character there; the error
names that character and the place, counted in code points (`RefusedAt`). Otherwise its stream
is a partition of the text (`Partition`): nonempty tokens, the first at position 0 and each
where the one before it stops, whose texts make up the text, then the end-of-input token at the
text's length; no two white-space tokens stand next to each other, and a token is a keyword
exactly when its text is `and`, `or` or `not`.

Proof. The places where a token starts are the ones the lexer passes through
(`tokenizeFrom_boundary`), and a refusal happens at one of them (`tokenizeFrom_refused`). A
successful stream spells its text (`tokenize_spells`), and each fact of `Partition` is read off
that: the positions by induction along the stream, the end-of-input position because no token
starts inside a pair of characters that keeps one code point (`Spells.last_pos`), and the
keywords from the scan that read each word (`Token.ReadBefore.keyword_iff`).
-/

namespace Stencil.Selector

open Stencil.Text

/-! ## Where tokens start -/

/-- The places where the lexer starts a token: the start of the text, and the end of each token
read at such a place. `Boundary pre rest` says that a token starts after `pre` in the text
`pre ++ rest`. -/
inductive Boundary : List Char → List Char → Prop where
  | start (cs : List Char) : Boundary [] cs
  | next {pre r : List Char} {c : Char} {k : TokenKind} {n : Nat} (h : Boundary pre (c :: r))
      (hscan : scanToken c r = some (k, n)) : Boundary (pre ++ c :: r.take n) (r.drop n)

/-- The lexer refuses `s` with `e`: at a place where a token starts, no token starts with the
character there, and `e` names that character and the place, counted in code points. -/
def RefusedAt (s : String) (e : LexError) : Prop :=
  ∃ pre c r, Boundary pre (c :: r) ∧ s.toList = pre ++ c :: r ∧ scanToken c r = none ∧
    e = ⟨String.ofList (takeCodes 1 (c :: r)), (codePoints pre).length⟩

/-- What the lexer's stream for `s` is: nonempty tokens, the first at position 0 and each where
the one before it stops, whose texts make up `s`, then the end-of-input token at the length of
`s`; no two white-space tokens next to each other; and a token is a keyword exactly when its
text is `and`, `or` or `not`. -/
structure Partition (s : String) (ts : List Token) : Prop where
  body : ∃ body, ts = body ++ [⟨.eof, "", codeLength s⟩] ∧ ∀ t ∈ body, t.kind ≠ .eof ∧ t.text ≠ ""
  starts : ∀ t ∈ ts.head?, t.pos = 0
  follows : ts.IsChain fun a b => b.pos = a.stop
  covers : ts.flatMap (·.text.toList) = s.toList
  singleSpaced : SingleSpaced ts
  keywords : ∀ t ∈ ts, t.kind = .keyword ↔ t.text = "and" ∨ t.text = "or" ∨ t.text = "not"

theorem codePoints_append_token {pre r : List Char} {c : Char} {k : TokenKind} {n : Nat}
    (hscan : scanToken c r = some (k, n)) :
    (codePoints (pre ++ c :: r.take n)).length = (codePoints pre).length + (codePoints (c :: r.take n)).length := by
  rw [codePoints_append pre (plainHead_cons (scanToken_plain hscan)), List.length_append]

/-- The lexer passes through every place where a token starts, with the position of that place. -/
theorem tokenizeFrom_boundary {pre rest : List Char} (h : Boundary pre rest) :
    ∃ acc, tokenizeFrom (pre ++ rest) 0 #[] = tokenizeFrom rest (codePoints pre).length acc := by
  induction h with
  | start cs => exact ⟨#[], rfl⟩
  | @next pre r c k n _ hscan ih =>
    obtain ⟨acc, hacc⟩ := ih
    refine ⟨acc.push ⟨classify k (String.ofList (c :: r.take n)), String.ofList (c :: r.take n),
      (codePoints pre).length⟩, ?_⟩
    rw [List.append_assoc, List.cons_append, List.take_append_drop, hacc, tokenizeFrom, hscan]
    simp only
    rw [codePoints_append_token hscan]

/-- A refusal happens at a place where a token starts. -/
theorem tokenizeFrom_refused {cs : List Char} {pos : Nat} {acc : Array Token} {e : LexError}
    (h : tokenizeFrom cs pos acc = .error e) {pre : List Char} (hb : Boundary pre cs)
    (hpos : pos = (codePoints pre).length) :
    ∃ p c r, Boundary p (c :: r) ∧ pre ++ cs = p ++ c :: r ∧ scanToken c r = none ∧
      e = ⟨String.ofList (takeCodes 1 (c :: r)), (codePoints p).length⟩ := by
  induction cs, pos, acc using tokenizeFrom.induct generalizing pre with
  | case1 pos acc =>
    rw [tokenizeFrom] at h
    cases h
  | case2 c r pos acc hscan =>
    rw [tokenizeFrom, hscan] at h
    cases h
    exact ⟨pre, c, r, hb, rfl, hscan, by rw [hpos]⟩
  | case3 c r pos acc k n hscan =>
    rename_i taken text ih
    rw [tokenizeFrom, hscan] at h
    obtain ⟨p, d, r', hb', heq, hnone, he⟩ :=
      ih h (hb.next hscan) (by rw [codePoints_append_token hscan, hpos])
    refine ⟨p, d, r', hb', ?_, hnone, he⟩
    rw [← heq, List.append_assoc, List.cons_append, List.take_append_drop]

theorem tokenize_error_iff (s : String) (e : LexError) : tokenize s = .error e ↔ RefusedAt s e := by
  constructor
  · intro h
    unfold tokenize at h
    cases hgo : tokenizeFrom s.toList 0 #[] with
    | ok p => rw [hgo] at h; cases h
    | error e' =>
      rw [hgo] at h
      cases h
      simpa only [RefusedAt, List.nil_append] using tokenizeFrom_refused hgo (.start s.toList) rfl
  · rintro ⟨pre, c, r, hb, hs, hnone, rfl⟩
    obtain ⟨acc, hacc⟩ := tokenizeFrom_boundary hb
    unfold tokenize
    rw [hs, hacc, tokenizeFrom, hnone]
    rfl

/-! ## A successful stream -/

theorem Spells.readBefore {cs : List Char} {pos : Nat} {ts : List Token} (h : Spells cs pos ts) :
    ∀ t ∈ ts, ∃ after, t.ReadBefore after := by
  induction ts generalizing cs pos with
  | nil => simp
  | cons u ts ih =>
    obtain ⟨-, rest, -, hread, hrest⟩ := h
    intro t ht
    rcases List.mem_cons.mp ht with rfl | ht
    · exact ⟨rest, hread⟩
    · exact ih hrest t ht

theorem Spells.flatMap_text {cs : List Char} {pos : Nat} {ts : List Token} (h : Spells cs pos ts) :
    ts.flatMap (·.text.toList) = cs := by
  induction ts generalizing cs pos with
  | nil => exact (show cs = [] from h).symm
  | cons u ts ih =>
    obtain ⟨-, rest, rfl, -, hrest⟩ := h
    rw [List.flatMap_cons, ih hrest]

theorem Spells.follows {cs : List Char} {pos : Nat} {ts : List Token} (h : Spells cs pos ts) :
    ts.IsChain fun a b => b.pos = a.stop := by
  induction ts generalizing cs pos with
  | nil => exact .nil
  | cons u ts ih =>
    obtain ⟨hu, rest, -, -, hrest⟩ := h
    refine (ih hrest).cons fun v hv => ?_
    cases ts with
    | nil => simp at hv
    | cons w ts =>
      simp only [List.head?_cons, Option.mem_def, Option.some.injEq] at hv
      subst hv
      rw [hrest.1, Token.stop, hu]

/-- The last token of a spelled stream, when it reads nothing, stands at the end of the text. -/
theorem Spells.last_pos {cs : List Char} {pos : Nat} {body : List Token} {z : Token}
    (h : Spells cs pos (body ++ [z])) (hz : z.text = "") : z.pos = pos + (codePoints cs).length := by
  induction body generalizing cs pos with
  | nil =>
    obtain ⟨hzp, rest, rfl, -, hrest⟩ := h
    rw [show rest = [] from hrest, hz]
    simp [hzp, codePoints]
  | cons u body ih =>
    obtain ⟨-, rest, rfl, -, hrest⟩ := h
    -- the text after a token starts plain, so no pair straddles the joint
    rw [ih hrest, codePoints_append _ hrest.plainHead, List.length_append, codeLength]
    omega

theorem scanToken_ne_keyword {c : Char} {r : List Char} {k : TokenKind} {n : Nat}
    (h : scanToken c r = some (k, n)) : k ≠ .keyword := by
  unfold scanToken at h
  revert h
  -- one step per branch of the scanner, in its order: each names a kind of its own
  iterate 7
    refine ite_some_imp (fun _ h => by cases h; decide) fun _ => ?_
  iterate 4
    refine ite_some_imp (fun _ h => by obtain ⟨rfl, -⟩ := map_scan_some h; decide) fun _ => ?_
  exact ite_some_imp (fun _ h => by cases h; decide) fun _ h => by cases h

theorem scanToken_keyword_letter {c : Char} (hc : c = 'a' ∨ c = 'o' ∨ c = 'n') (r : List Char) :
    scanToken c r = some (.ident, nameLength r) := by
  rcases hc with rfl | rfl | rfl
  · exact scanToken_of_isNameChar (by decide) (by decide +kernel) r
  · exact scanToken_of_isNameChar (by decide) (by decide +kernel) r
  · exact scanToken_of_isNameChar (by decide) (by decide +kernel) r

/-- A token read off the text is a keyword exactly when its text is `and`, `or` or `not`. -/
theorem Token.ReadBefore.keyword_iff {t : Token} {after : List Char} (h : t.ReadBefore after) :
    t.kind = .keyword ↔ t.text = "and" ∨ t.text = "or" ∨ t.text = "not" := by
  rcases h with ⟨heof, htext⟩ | ⟨c, body, k, htext, hk, hscan⟩
  · simp [heof, htext]
  · rw [← hk]
    by_cases hw : t.text = "and" ∨ t.text = "or" ∨ t.text = "not"
    · -- the word starts with `a`, `o` or `n`, so the scanner read a name
      have hc : c = 'a' ∨ c = 'o' ∨ c = 'n' := by
        rcases hw with hw | hw | hw <;> rw [hw] at htext <;> simp at htext <;> simp [← htext.1]
      have hident : k = .ident := by
        rw [scanToken_keyword_letter hc] at hscan
        exact (Prod.mk.inj (Option.some.inj hscan)).1.symm
      simp [classify, hident, hw]
    · simp [classify, hw, scanToken_ne_keyword hscan]

theorem tokenize_partition {s : String} {ts : List Token} (h : tokenize s = .ok ts) : Partition s ts := by
  have hsp := tokenize_spells h
  obtain ⟨body, n, rfl, hne, hsingle⟩ := tokenize_shape h
  have hn : n = codeLength s := by
    simpa [codeLength] using hsp.last_pos rfl
  refine ⟨⟨body, by rw [hn], fun t ht => ⟨hne t ht, ?_⟩⟩, ?_, hsp.follows, hsp.flatMap_text, hsingle,
    fun t ht => ?_⟩
  · -- a word other than the end of input reads at least its first character
    obtain ⟨after, hread⟩ := hsp.readBefore t (List.mem_append_left _ ht)
    rcases hread with ⟨heof, -⟩ | ⟨c, rest, -, htext, -, -⟩
    · exact absurd heof (hne t ht)
    · intro hempty
      rw [hempty] at htext
      simp at htext
  · intro t ht
    cases body with
    | nil =>
      simp only [List.nil_append, List.head?_cons, Option.mem_def, Option.some.injEq] at ht
      rw [← ht]
      exact hsp.1
    | cons u body =>
      simp only [List.cons_append, List.head?_cons, Option.mem_def, Option.some.injEq] at ht
      rw [← ht]
      exact hsp.1
  · obtain ⟨after, hread⟩ := hsp.readBefore t ht
    exact hread.keyword_iff

/-- The lexer partitions its text: it refuses the text exactly where, at a place a token starts,
no token starts with the character there, reporting that character and place; and otherwise its
stream is a partition of the text. -/
theorem tokenize_partitions (s : String) :
    (∀ e, tokenize s = .error e ↔ RefusedAt s e) ∧ ∀ ts, tokenize s = .ok ts → Partition s ts :=
  ⟨tokenize_error_iff s, fun _ => tokenize_partition⟩

theorem tokenize_partitions_keyword :
    tokenize "a and .b" = .ok [⟨.ident, "a", 0⟩, ⟨.space, " ", 1⟩, ⟨.keyword, "and", 2⟩,
      ⟨.space, " ", 5⟩, ⟨.key, ".b", 6⟩, ⟨.eof, "", 8⟩] ∧
    Partition "a and .b" [⟨.ident, "a", 0⟩, ⟨.space, " ", 1⟩, ⟨.keyword, "and", 2⟩,
      ⟨.space, " ", 5⟩, ⟨.key, ".b", 6⟩, ⟨.eof, "", 8⟩] := by
  have h : tokenize "a and .b" = .ok [⟨.ident, "a", 0⟩, ⟨.space, " ", 1⟩, ⟨.keyword, "and", 2⟩,
      ⟨.space, " ", 5⟩, ⟨.key, ".b", 6⟩, ⟨.eof, "", 8⟩] := by decide +kernel
  exact ⟨h, (tokenize_partitions _).2 _ h⟩

end Stencil.Selector

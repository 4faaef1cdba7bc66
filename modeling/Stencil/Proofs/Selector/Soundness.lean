import Mathlib
import Stencil.Proofs.Selector.Completeness
/-!
# What the parser reads, the grammar derives

When a parsing function returns a value and the rest of a stream, the tokens it read derive from
its nonterminal with that value, and the rest is what follows. The parser skips any run of white
space where the grammar writes one white-space token, so this holds of streams with single white
space, as the lexer makes them (`tokenize_shape`).

The theorems follow the recursion of the parser: those of the logical layer are mutual, with the
measures of the parser's own definitions.

* `Leaves` : a derivation reads a prefix of the stream, with no end-of-input token in it.
* `parseCompound_sound` … `parseSelectorList_sound` : the selector layer.
* `parseOr_sound` … `parsePrimary_sound` : the logical layer.
-/

namespace Stencil.Selector

open Stencil.Text

/-! ## What a derivation reads -/

/-- `rest` is `ts` after a prefix with no end-of-input token in it. -/
def Leaves (ts rest : List Token) : Prop := ∃ pre, ts = pre ++ rest ∧ ∀ t ∈ pre, t.kind ≠ .eof

theorem Leaves.refl (ts : List Token) : Leaves ts ts := ⟨[], rfl, by simp⟩

theorem Leaves.trans {ts ts1 rest : List Token} (h1 : Leaves ts ts1) (h2 : Leaves ts1 rest) :
    Leaves ts rest := by
  obtain ⟨p1, rfl, hp1⟩ := h1
  obtain ⟨p2, rfl, hp2⟩ := h2
  refine ⟨p1 ++ p2, by simp, fun t ht => ?_⟩
  rcases List.mem_append.mp ht with ht | ht
  · exact hp1 t ht
  · exact hp2 t ht

theorem Leaves.cons {t : Token} {ts rest : List Token} (ht : t.kind ≠ .eof) (h : Leaves ts rest) :
    Leaves (t :: ts) rest := by
  obtain ⟨pre, rfl, hpre⟩ := h
  refine ⟨t :: pre, rfl, fun u hu => ?_⟩
  rcases List.mem_cons.mp hu with rfl | hu
  · exact ht
  · exact hpre u hu

theorem Leaves.head {t : Token} {ts : List Token} (ht : t.kind ≠ .eof) : Leaves (t :: ts) ts :=
  (Leaves.refl ts).cons ht

theorem Leaves.length_le {ts rest : List Token} (h : Leaves ts rest) : rest.length ≤ ts.length := by
  obtain ⟨pre, rfl, -⟩ := h
  simp

theorem leaves_skipSpace (ts : List Token) : Leaves ts (skipSpace ts) := by
  induction ts with
  | nil => exact .refl []
  | cons t ts ih =>
    by_cases h : t.kind = .space
    · rw [skipSpace_cons_space h]
      exact ih.cons (by simp [h])
    · rw [skipSpace_cons_of_ne h]
      exact .refl _

theorem TokenKind.ne_eof_of_startsCompound {k : TokenKind} (h : k.startsCompound = true) : k ≠ .eof :=
  (TokenKind.ne_of_startsCompound h).2.2.2.2.2.2.2

theorem Token.IsKeyword.ne_eof {w : String} {k : Token} (h : k.IsKeyword w) : k.kind ≠ .eof := by
  simp [h.1]

theorem OptSpace.leaves {ts rest : List Token} (h : OptSpace ts rest) : Leaves ts rest := by
  cases h with
  | none => exact .refl _
  | one _ hw => exact .head (by simp [hw])

theorem CompoundRel.leaves {src : List Char} {ts rest : List Token} {k : Compound}
    (h : CompoundRel src ts k rest) : Leaves ts rest := by
  obtain ⟨t, tail, rfl, ht, hparts⟩ : ∃ t tail, ts = t :: tail ++ rest ∧ t.kind.startsCompound = true ∧
      ∀ u ∈ tail, u.kind.continuesCompound = true := by
    cases h with
    | named ht hparts =>
      exact ⟨_, _, rfl, by rcases ht with h | h <;> simp [h, TokenKind.startsCompound], hparts⟩
    | bare ht hparts => exact ⟨_, _, rfl, TokenKind.startsCompound_of_continues ht, hparts⟩
  refine ⟨t :: tail, rfl, fun u hu => ?_⟩
  rcases List.mem_cons.mp hu with rfl | hu
  · exact TokenKind.ne_eof_of_startsCompound ht
  · exact TokenKind.ne_eof_of_startsCompound (TokenKind.startsCompound_of_continues (hparts u hu))

theorem ComplexTail.leaves {src : List Char} {ts rest : List Token} {more : List (Combinator × Compound)}
    (h : ComplexTail src ts more rest) : Leaves ts rest := by
  induction h with
  | stop ts => exact .refl ts
  | @joined _ _ _ _ _ c _ _ h1 hc h2 hk _ ih =>
    have hne : c.kind ≠ .eof := by rcases hc with hc | hc <;> simp [hc]
    exact h1.leaves.trans ((Leaves.head hne).trans (h2.leaves.trans (hk.leaves.trans ih)))
  | descendant hw hk _ ih => exact (hk.leaves.trans ih).cons (by simp [hw])

theorem ComplexRel.leaves {src : List Char} {ts rest : List Token} {x : Selector.Complex}
    (h : ComplexRel src ts x rest) : Leaves ts rest := by
  cases h with
  | absolute hk hmore => exact hk.leaves.trans hmore.leaves
  | relative hg hs hk hmore => exact (hs.leaves.trans (hk.leaves.trans hmore.leaves)).cons (by simp [hg])

theorem ListTail.leaves {src : List Char} {ts rest : List Token} {xs : List Selector.Complex}
    (h : ListTail src ts xs rest) : Leaves ts rest := by
  induction h with
  | stop ts => exact .refl ts
  | comma h1 hc h2 hx _ ih =>
    exact h1.leaves.trans ((Leaves.head (by simp [hc])).trans (h2.leaves.trans (hx.leaves.trans ih)))

theorem ListRel.leaves {src : List Char} {ts rest : List Token} {xs : List Selector.Complex}
    (h : ListRel src ts xs rest) : Leaves ts rest := by
  cases h with
  | mk hx hmore => exact hx.leaves.trans hmore.leaves

mutual

theorem OrRel.leaves {src : List Char} {ts rest : List Token} {e : Expr} :
    OrRel src ts e rest → Leaves ts rest
  | .mk hl ht => (AndRel.leaves hl).trans (OrTail.leaves ht)

theorem OrTail.leaves {src : List Char} {acc e : Expr} {ts rest : List Token} :
    OrTail src acc ts e rest → Leaves ts rest
  | .stop => .refl _
  | .more h1 hk h2 hr ht =>
    h1.leaves.trans ((Leaves.head hk.ne_eof).trans (h2.leaves.trans ((AndRel.leaves hr).trans (OrTail.leaves ht))))

theorem AndRel.leaves {src : List Char} {ts rest : List Token} {e : Expr} :
    AndRel src ts e rest → Leaves ts rest
  | .mk hl ht => (NotRel.leaves hl).trans (AndTail.leaves ht)

theorem AndTail.leaves {src : List Char} {acc e : Expr} {ts rest : List Token} :
    AndTail src acc ts e rest → Leaves ts rest
  | .stop => .refl _
  | .more h1 hk h2 hr ht =>
    h1.leaves.trans ((Leaves.head hk.ne_eof).trans (h2.leaves.trans ((NotRel.leaves hr).trans (AndTail.leaves ht))))

theorem NotRel.leaves {src : List Char} {ts rest : List Token} {e : Expr} :
    NotRel src ts e rest → Leaves ts rest
  | .not h1 hk h2 he => h1.leaves.trans ((Leaves.head hk.ne_eof).trans (h2.leaves.trans (NotRel.leaves he)))
  | .primary he => PrimRel.leaves he

theorem PrimRel.leaves {src : List Char} {ts rest : List Token} {e : Expr} :
    PrimRel src ts e rest → Leaves ts rest
  | .group h1 ho he h2 hc =>
    h1.leaves.trans ((Leaves.head (by simp [ho])).trans
      ((OrRel.leaves he).trans (h2.leaves.trans (Leaves.head (by simp [hc])))))
  | .selectors h1 hl => h1.leaves.trans hl.leaves

end

/-! ## Single white space -/

theorem SingleSpaced.rest {ts rest : List Token} (hs : SingleSpaced ts) (h : Leaves ts rest) :
    SingleSpaced rest := by
  obtain ⟨pre, rfl, -⟩ := h
  exact List.IsChain.suffix hs (List.suffix_append pre rest)

theorem SingleSpaced.skipSpace_tail {w : Token} {ts : List Token} (hs : SingleSpaced (w :: ts))
    (hw : w.kind = .space) : skipSpace ts = ts := by
  cases ts with
  | nil => rfl
  | cons u r => exact skipSpace_cons_of_ne ((List.isChain_cons_cons.mp hs).1 hw)

theorem SingleSpaced.optSpace_skipSpace {ts : List Token} (hs : SingleSpaced ts) : OptSpace ts (skipSpace ts) := by
  cases ts with
  | nil => exact .none []
  | cons w r =>
    by_cases hw : w.kind = .space
    · rw [skipSpace_cons_space hw, hs.skipSpace_tail hw]
      exact .one r hw
    · rw [skipSpace_cons_of_ne hw]
      exact .none _

theorem SingleSpaced.eq_space_cons {ts : List Token} (hs : SingleSpaced ts)
    (h : (skipSpace ts).length < ts.length) : ∃ w, w.kind = .space ∧ ts = w :: skipSpace ts := by
  cases ts with
  | nil => simp at h
  | cons w r =>
    by_cases hw : w.kind = .space
    · rw [skipSpace_cons_space hw, hs.skipSpace_tail hw]
      exact ⟨w, hw, rfl⟩
    · rw [skipSpace_cons_of_ne hw] at h
      exact absurd h (Nat.lt_irrefl _)

/-! ## The selector layer -/

theorem bind_eq_ok {ε α β : Type} {x : Except ε α} {f : α → Except ε β} {b : β} (h : x.bind f = .ok b) :
    ∃ a, x = .ok a ∧ f a = .ok b := by
  cases x with
  | error e => cases h
  | ok a => exact ⟨a, rfl, h⟩

theorem parseCompound_sound {src : List Char} {ts rest : List Token} {k : Compound}
    (h : plain (parseCompound src ts) = .ok (k, rest)) : CompoundRel src ts k rest := by
  cases ts with
  | nil => rw [parseCompound_nil] at h; cases h
  | cons t r =>
    cases hs : t.kind.startsCompound with
    | false =>
      obtain ⟨e, he⟩ : ∃ e, parseCompound src (t :: r) = .error e := parseCompound_not_start hs
      rw [he] at h
      cases h
    | true =>
      rw [plain_parseCompound hs] at h
      obtain ⟨rfl, rfl⟩ := Prod.mk.inj (Except.ok.inj h)
      have hparts : ∀ u ∈ r.takeWhile (·.kind.continuesCompound), u.kind.continuesCompound = true :=
        fun u hu => List.mem_takeWhile_imp (p := fun x : Token => x.kind.continuesCompound) hu
      have hsplit : t :: r = t :: r.takeWhile (·.kind.continuesCompound) ++ r.dropWhile (·.kind.continuesCompound) := by
        rw [List.cons_append, List.takeWhile_append_dropWhile]
      rw [hsplit]
      -- a name or `*` heads a named compound; any other start is a part itself
      rcases TokenKind.startsCompound_iff.mp hs with h | h | h | h | h | h
      · exact .named (.inr h) hparts
      · exact .named (.inl h) hparts
      all_goals exact .bare (by simp [h, TokenKind.continuesCompound]) hparts

theorem complexTail_sound {src : List Char} {acc cs : List (Combinator × Compound)} {ts rest : List Token}
    (hs : SingleSpaced ts) (h : plain (complexTail src acc ts) = .ok (cs, rest)) :
    ∃ more, cs = acc ++ more ∧ ComplexTail src ts more rest := by
  rcases hst : skipSpace ts with _ | ⟨t, r⟩
  · rw [plain_complexTail_stop (by simp [hst])] at h
    obtain ⟨rfl, rfl⟩ := Prod.mk.inj (Except.ok.inj h)
    exact ⟨[], by simp, .stop ts⟩
  · have hopt : OptSpace ts (t :: r) := hst ▸ hs.optSpace_skipSpace
    have hr : r.length < ts.length := by
      have := hopt.length_le
      simp only [List.length_cons] at this
      omega
    by_cases hc : t.kind = .child ∨ t.kind = .sibling
    · -- a combinator, then a compound selector
      rw [plain_complexTail_joined hst hc] at h
      obtain ⟨⟨k, r1⟩, hk, ht⟩ := bind_eq_ok h
      have hne : t.kind ≠ .eof := by rcases hc with hc | hc <;> simp [hc]
      have hsr : SingleSpaced r := hs.rest (hopt.leaves.trans (.head hne))
      have hK := parseCompound_sound hk
      have hl : Leaves r r1 := (leaves_skipSpace r).trans hK.leaves
      have hlen : r1.length < ts.length := Nat.lt_of_le_of_lt hl.length_le hr
      obtain ⟨more, rfl, hmore⟩ := complexTail_sound (hsr.rest hl) ht
      exact ⟨(combinatorOf t, k) :: more, by simp, .joined hopt hc hsr.optSpace_skipSpace hK hmore⟩
    · by_cases hd : (skipSpace ts).length < ts.length ∧ t.kind.startsCompound = true
      · -- white space, then a compound selector: the descendant combinator
        rw [plain_complexTail_descendant hst hc hd.1 hd.2] at h
        obtain ⟨⟨k, r1⟩, hk, ht⟩ := bind_eq_ok h
        obtain ⟨w, hw, hts⟩ := hs.eq_space_cons hd.1
        rw [hst] at hts
        have hK := parseCompound_sound hk
        have hl : Leaves ts r1 := hts ▸ hK.leaves.cons (by simp [hw])
        have hlen : r1.length < ts.length := by
          have := hK.leaves.length_le
          rw [hts]
          simp only [List.length_cons] at this ⊢
          omega
        obtain ⟨more, rfl, hmore⟩ := complexTail_sound (hs.rest hl) ht
        exact ⟨(.descendant, k) :: more, by simp, hts ▸ .descendant hw hK hmore⟩
      · rw [plain_complexTail_stop fun t' r' h' => by
          rw [hst, List.cons.injEq] at h'
          obtain ⟨rfl, rfl⟩ := h'
          exact ⟨hc, hd⟩] at h
        obtain ⟨rfl, rfl⟩ := Prod.mk.inj (Except.ok.inj h)
        exact ⟨[], by simp, .stop ts⟩
termination_by ts.length

theorem parseComplex_sound {src : List Char} {ts rest : List Token} {x : Selector.Complex}
    (hs : SingleSpaced ts) (h : plain (parseComplex src ts) = .ok (x, rest)) : ComplexRel src ts x rest := by
  rw [plain_parseComplex] at h
  obtain ⟨⟨k, r1⟩, hk, h⟩ := bind_eq_ok h
  obtain ⟨⟨more, r2⟩, hmore, h⟩ := bind_eq_ok h
  obtain ⟨rfl, rfl⟩ := Prod.mk.inj (Except.ok.inj h)
  by_cases hg : (current ts).kind = .child
  · -- the leading `>` is the head of the stream
    obtain ⟨g, ts0, rfl⟩ : ∃ g ts0, ts = g :: ts0 := by
      cases ts with
      | nil => simp [current] at hg
      | cons g ts0 => exact ⟨g, ts0, rfl⟩
    have hg' : g.kind = .child := hg
    rw [afterLead_of_child hg, show advance (g :: ts0) = ts0 by simp [advance, hg']] at hk
    have hK := parseCompound_sound hk
    have hs0 : SingleSpaced ts0 := hs.rest (.head (by simp [hg']))
    obtain ⟨more', rfl, hmore'⟩ := complexTail_sound (hs0.rest ((leaves_skipSpace ts0).trans hK.leaves)) hmore
    simp only [hg, decide_true]
    exact .relative hg' hs0.optSpace_skipSpace hK hmore'
  · rw [afterLead_of_not_child hg] at hk
    have hK := parseCompound_sound hk
    obtain ⟨more', rfl, hmore'⟩ := complexTail_sound (hs.rest hK.leaves) hmore
    simp only [hg, decide_false]
    exact .absolute hK hmore'

theorem listTail_sound {src : List Char} {acc xs : List Selector.Complex} {ts rest : List Token}
    (hs : SingleSpaced ts) (h : plain (listTail src acc ts) = .ok (xs, rest)) :
    ∃ more, xs = acc ++ more ∧ ListTail src ts more rest := by
  by_cases hc : ∃ c r, skipSpace ts = c :: r ∧ c.kind = .comma
  · obtain ⟨c, r, hst, hc⟩ := hc
    rw [plain_listTail_comma hst hc] at h
    obtain ⟨⟨x, r1⟩, hx, ht⟩ := bind_eq_ok h
    have hopt : OptSpace ts (c :: r) := hst ▸ hs.optSpace_skipSpace
    have hsr : SingleSpaced r := hs.rest (hopt.leaves.trans (.head (by simp [hc])))
    have hX := parseComplex_sound (hsr.rest (leaves_skipSpace r)) hx
    have hl : Leaves r r1 := (leaves_skipSpace r).trans hX.leaves
    have hlen : r1.length < ts.length := by
      have := hopt.length_le
      have := hl.length_le
      simp only [List.length_cons] at *
      omega
    obtain ⟨more, rfl, hmore⟩ := listTail_sound (hsr.rest hl) ht
    exact ⟨x :: more, by simp, .comma hopt hc hsr.optSpace_skipSpace hX hmore⟩
  · rw [plain_listTail_stop fun c r hst hc' => hc ⟨c, r, hst, hc'⟩] at h
    obtain ⟨rfl, rfl⟩ := Prod.mk.inj (Except.ok.inj h)
    exact ⟨[], by simp, .stop ts⟩
termination_by ts.length

theorem parseSelectorList_sound {src : List Char} {ts rest : List Token} {xs : List Selector.Complex}
    (hs : SingleSpaced ts) (h : plain (parseSelectorList src ts) = .ok (xs, rest)) : ListRel src ts xs rest := by
  rw [plain_parseSelectorList] at h
  obtain ⟨⟨x, r1⟩, hx, ht⟩ := bind_eq_ok h
  have hX := parseComplex_sound hs hx
  obtain ⟨more, rfl, hmore⟩ := listTail_sound (hs.rest hX.leaves) ht
  exact .mk hX hmore

/-! ## The logical layer -/

theorem closeGroup_eq_ok {e e' : Expr} {ts rest : List Token} (h : closeGroup e ts = .ok (e', rest)) :
    ∃ u, skipSpace ts = u :: rest ∧ u.kind = .closeParen ∧ e' = .group e := by
  unfold closeGroup at h
  split at h
  · next u r hst =>
    split at h
    · next hc =>
      obtain ⟨rfl, rfl⟩ := Prod.mk.inj (Except.ok.inj h)
      exact ⟨u, hst, hc, rfl⟩
    · cases h
  · cases h

theorem SingleSpaced.keyword {ts r0 : List Token} {k : Token} {w : String} (hs : SingleSpaced ts)
    (hst : skipSpace ts = k :: r0) (hk : k.IsKeyword w) :
    OptSpace ts (k :: r0) ∧ SingleSpaced r0 ∧ r0.length < ts.length := by
  have hopt : OptSpace ts (k :: r0) := hst ▸ hs.optSpace_skipSpace
  have hlen := hopt.length_le
  simp only [List.length_cons] at hlen
  exact ⟨hopt, hs.rest (hopt.leaves.trans (.head hk.ne_eof)), by omega⟩

mutual

theorem parseOr_sound {room : Nat} {src : List Char} {ts rest : List Token} {e : Expr}
    (hs : SingleSpaced ts) (h : plain (parseOr room src ts) = .ok (e, rest)) : OrRel src ts e rest := by
  rw [plain_parseOr] at h
  obtain ⟨⟨l, r⟩, hl, ht⟩ := bind_eq_ok h
  have hA := parseAnd_sound hs hl
  have hlen := hA.leaves.length_le
  exact .mk hA (orTail_sound (hs.rest hA.leaves) ht)
termination_by 6 * ts.length + 5

theorem orTail_sound {room : Nat} {src : List Char} {acc e : Expr} {ts rest : List Token}
    (hs : SingleSpaced ts) (h : plain (orTail room src acc ts) = .ok (e, rest)) : OrTail src acc ts e rest := by
  rw [plain_orTail] at h
  rcases hm : (matchKeyword "or" ts).map Subtype.val with _ | r'
  · rw [hm] at h
    obtain ⟨rfl, rfl⟩ := Prod.mk.inj (Except.ok.inj h)
    exact .stop
  · rw [hm] at h
    obtain ⟨k, r0, hst, hk, rfl⟩ := matchKeyword_val_eq_some.mp hm
    obtain ⟨hopt, hs0, hlen0⟩ := hs.keyword hst hk
    obtain ⟨⟨x, r1⟩, hx, ht⟩ := bind_eq_ok h
    have hlen1 := (leaves_skipSpace r0).length_le
    have hA := parseAnd_sound (hs0.rest (leaves_skipSpace r0)) hx
    have hlen2 := hA.leaves.length_le
    exact .more hopt hk hs0.optSpace_skipSpace hA
      (orTail_sound (hs0.rest ((leaves_skipSpace r0).trans hA.leaves)) ht)
termination_by 6 * ts.length + 4

theorem parseAnd_sound {room : Nat} {src : List Char} {ts rest : List Token} {e : Expr}
    (hs : SingleSpaced ts) (h : plain (parseAnd room src ts) = .ok (e, rest)) : AndRel src ts e rest := by
  rw [plain_parseAnd] at h
  obtain ⟨⟨l, r⟩, hl, ht⟩ := bind_eq_ok h
  have hN := parseNot_sound hs hl
  have hlen := hN.leaves.length_le
  exact .mk hN (andTail_sound (hs.rest hN.leaves) ht)
termination_by 6 * ts.length + 3

theorem andTail_sound {room : Nat} {src : List Char} {acc e : Expr} {ts rest : List Token}
    (hs : SingleSpaced ts) (h : plain (andTail room src acc ts) = .ok (e, rest)) : AndTail src acc ts e rest := by
  rw [plain_andTail] at h
  rcases hm : (matchKeyword "and" ts).map Subtype.val with _ | r'
  · rw [hm] at h
    obtain ⟨rfl, rfl⟩ := Prod.mk.inj (Except.ok.inj h)
    exact .stop
  · rw [hm] at h
    obtain ⟨k, r0, hst, hk, rfl⟩ := matchKeyword_val_eq_some.mp hm
    obtain ⟨hopt, hs0, hlen0⟩ := hs.keyword hst hk
    obtain ⟨⟨x, r1⟩, hx, ht⟩ := bind_eq_ok h
    have hlen1 := (leaves_skipSpace r0).length_le
    have hN := parseNot_sound (hs0.rest (leaves_skipSpace r0)) hx
    have hlen2 := hN.leaves.length_le
    exact .more hopt hk hs0.optSpace_skipSpace hN
      (andTail_sound (hs0.rest ((leaves_skipSpace r0).trans hN.leaves)) ht)
termination_by 6 * ts.length + 2

theorem parseNot_sound {room : Nat} {src : List Char} {ts rest : List Token} {e : Expr}
    (hs : SingleSpaced ts) (h : plain (parseNot room src ts) = .ok (e, rest)) : NotRel src ts e rest := by
  rw [plain_parseNot] at h
  rcases hm : (matchKeyword "not" ts).map Subtype.val with _ | r'
  · rw [hm] at h
    exact .primary (parsePrimary_sound hs h)
  · rw [hm] at h
    obtain ⟨k, r0, hst, hk, rfl⟩ := matchKeyword_val_eq_some.mp hm
    obtain ⟨hopt, hs0, hlen0⟩ := hs.keyword hst hk
    have hlen1 := (leaves_skipSpace r0).length_le
    -- with no room left the parser stops; otherwise it reads the operand with one less
    cases room with
    | zero => cases h
    | succ room =>
      obtain ⟨⟨x, r1⟩, hx, h⟩ := bind_eq_ok h
      obtain ⟨rfl, rfl⟩ := Prod.mk.inj (Except.ok.inj h)
      exact .not hopt hk hs0.optSpace_skipSpace (parseNot_sound (hs0.rest (leaves_skipSpace r0)) hx)
termination_by 6 * ts.length + 1

theorem parsePrimary_sound {room : Nat} {src : List Char} {ts rest : List Token} {e : Expr}
    (hs : SingleSpaced ts) (h : plain (parsePrimary room src ts) = .ok (e, rest)) : PrimRel src ts e rest := by
  rcases hst : skipSpace ts with _ | ⟨t, r⟩
  · obtain ⟨err, herr⟩ : ∃ err, parsePrimary room src ts = .error (.invalid err) := parsePrimary_refused
      fun t r h => by rw [hst] at h; cases h
    rw [herr] at h
    cases h
  · have hopt : OptSpace ts (t :: r) := hst ▸ hs.optSpace_skipSpace
    have hlen : r.length < ts.length := by
      have := hopt.length_le
      simp only [List.length_cons] at this
      omega
    by_cases ho : t.kind = .openParen
    · rw [plain_parsePrimary_group hst ho] at h
      split at h
      · cases h
      · obtain ⟨⟨x, r1⟩, hx, hc⟩ := bind_eq_ok h
        obtain ⟨u, hu, hcu, rfl⟩ := closeGroup_eq_ok hc
        have hs0 : SingleSpaced r := hs.rest (hopt.leaves.trans (.head (by simp [ho])))
        have hE := parseOr_sound hs0 hx
        exact .group hopt ho hE (hu ▸ (hs0.rest hE.leaves).optSpace_skipSpace) hcu
    · by_cases hl : t.kind.startsCompound = true ∨ t.kind = .child
      · rw [plain_parsePrimary_list hst ho hl] at h
        split at h
        · next cs r' heq =>
          obtain ⟨rfl, rfl⟩ := Prod.mk.inj (Except.ok.inj h)
          exact .selectors hopt (parseSelectorList_sound (hs.rest hopt.leaves) heq)
        · cases h
      · obtain ⟨err, herr⟩ : ∃ err, parsePrimary room src ts = .error (.invalid err) := parsePrimary_refused
          fun t' r' h' => by
            rw [hst, List.cons.injEq] at h'
            obtain ⟨rfl, rfl⟩ := h'
            simp only [not_or, Bool.not_eq_true] at hl
            exact ⟨ho, hl.1, hl.2⟩
        rw [herr] at h
        cases h
termination_by 6 * ts.length

end

end Stencil.Selector

import Mathlib
import Stencil.Proofs.Selector.Locality
import Stencil.Proofs.Selector.Recognition
import Stencil.Proofs.Selector.Partition
/-!
# Where the parser refuses a selector

A text the parser refuses with a syntax error is refused at the first token that no derivable
stream can have there: the tokens before it are a prefix of a stream the grammar derives
(`Viable`), and with it they are not (`parse_refuses_first_dead_token`).

Proof. Each function of the parser that stops with a syntax error stops at a token `u` that is
not white space (`StopsAt`), in such a way that

* every stream that keeps the tokens up to `u` stops the same way, whatever follows `u`: what
  the parser read before `u` it reads again (`parseOr_reads` …), and the refusal looks at `u`
  and nothing after it;
* some tokens after the ones before `u` complete them to a derivation, whatever follows
  (`Completable`): a name where a compound selector is missing, `)` where a group is open, the
  end of input where the expression is done.

The functions are taken in the order of the descent, each case one step (`StopsAt.after`): the
operand right after a keyword or a combinator is refused, or a later part after an operand that
was read. On a derivable stream the parser does not stop with a syntax error
(`parseTokens_of_sentence`), so the first fact makes the tokens up to `u` a prefix of no
derivable stream; the second makes the tokens before `u` a prefix of one.

* `Viable`, `Completable`, `StopsAt`, `Lexed` : prefixes, completions, refusals and the streams
  of the lexer.
* `parseCompound_stops` … `parseSelectorList_stops` : the selector layer.
* `parseOr_stops` … `parsePrimary_stops` : the logical layer.
* `parseTokens`, `parseTokens_stops` : the whole stream.
-/

namespace Stencil.Selector

open Stencil.Text

/-! ## Prefixes, completions and refusals -/

/-- A prefix of a token stream the grammar derives. -/
def Viable (ks : List Token) : Prop := ∃ src ts e, Sentence src ts e ∧ ks <+: ts

theorem Viable.of_prefix {ks ks' : List Token} (h : Viable ks') (hk : ks <+: ks') : Viable ks := by
  obtain ⟨src, ts, e, hs, hp⟩ := h
  exact ⟨src, ts, e, hs, hk.trans hp⟩

/-- Some tokens after `pre` complete it to a derivation of `R`, whatever follows them. -/
def Completable {α : Type} (R : List Token → α → List Token → Prop) (pre : List Token) : Prop :=
  ∃ comp, ∀ rest, ∃ v, R (pre ++ (comp ++ rest)) v rest

/-- A run stops at a token `u` after `pre` that is not white space and stands at `pos`: every
stream that keeps `pre` and `u` stops the same way (`same`), and `C` holds of `pre`. -/
def StopsAt (same C : List Token → Prop) (ts : List Token) (pos : Nat) : Prop :=
  ∃ pre u post, ts = pre ++ u :: post ∧ u.kind ≠ .space ∧ u.pos = pos ∧
    (∀ post', same (pre ++ u :: post')) ∧ C pre

/-- A stop after a part `c` that the run reads alike before every stream that agrees. -/
theorem StopsAt.after {same same' C C' : List Token → Prop} {r : List Token} {pos : Nat} (c : List Token)
    (h : StopsAt same C r pos) (hsame : ∀ r', Agree r r' → same r' → same' (c ++ r'))
    (hC : ∀ pre, C pre → C' (c ++ pre)) : StopsAt same' C' (c ++ r) pos := by
  obtain ⟨pre, u, post, rfl, hu, hpos, hs, hc⟩ := h
  refine ⟨c ++ pre, u, post, by simp, hu, hpos, fun post' => ?_, hC pre hc⟩
  simpa using hsame (pre ++ u :: post') (agree_of_token hu) (hs post')

theorem Agree.skipSpace_append {q c r r' : List Token} (hr : Agree r r') (e : skipSpace q = c ++ r) :
    skipSpace (c ++ r') = c ++ r' :=
  (hr.append c).skipSpace_eq_self (by rw [← e, skipSpace_skipSpace])

/-- The tokens that complete a refused prefix: a name, a closing parenthesis and the end of
input. Their positions play no part in the grammar. -/
def nameToken : Token := ⟨.ident, "a", 0⟩

def closeToken : Token := ⟨.closeParen, ")", 0⟩

def endToken : Token := ⟨.eof, "", 0⟩

/-- A completion of `pre` for `R`, read after a part `c` that turns each derivation of `R` into
one of `S`, completes `c ++ pre` for `S`. -/
theorem Completable.after {α β : Type} {R : List Token → α → List Token → Prop}
    {S : List Token → β → List Token → Prop} {pre : List Token} (c : List Token) (f : α → β)
    (h : Completable R pre) (hstep : ∀ x v rest, R x v rest → S (c ++ x) (f v) rest) :
    Completable S (c ++ pre) := by
  obtain ⟨comp, hcomp⟩ := h
  refine ⟨comp, fun rest => ?_⟩
  obtain ⟨v, hv⟩ := hcomp rest
  rw [List.append_assoc]
  exact ⟨f v, hstep _ v rest hv⟩

theorem completable_compound (src : List Char) : Completable (CompoundRel src) [] :=
  ⟨[nameToken], fun _ => ⟨_, @CompoundRel.named src nameToken [] _ (.inl rfl) (by simp)⟩⟩

/-! ## The streams of the lexer -/

/-- A stream as the lexer makes it, or what a derivation leaves of one: single white space, and
the end-of-input token still in it. -/
structure Lexed (ts : List Token) : Prop where
  single : SingleSpaced ts
  ends : ∃ z ∈ ts, z.kind = .eof

theorem Lexed.rest {ts r : List Token} (h : Lexed ts) (hl : Leaves ts r) : Lexed r := by
  obtain ⟨pre, rfl, hpre⟩ := hl
  obtain ⟨z, hz, hze⟩ := h.ends
  refine ⟨h.single.rest ⟨pre, rfl, hpre⟩, z, ?_, hze⟩
  rcases List.mem_append.mp hz with hz | hz
  · exact absurd hze (hpre z hz)
  · exact hz

theorem Lexed.skipSpace_ne_nil {ts : List Token} (h : Lexed ts) : skipSpace ts ≠ [] := by
  obtain ⟨z, hz, hze⟩ := (h.rest (leaves_skipSpace ts)).ends
  intro hnil
  rw [hnil] at hz
  cases hz

theorem Lexed.ne_nil {ts : List Token} (h : Lexed ts) : ts ≠ [] := by
  rintro rfl
  exact h.skipSpace_ne_nil rfl

theorem SingleSpaced.gap {ts : List Token} (hs : SingleSpaced ts) :
    ∃ ws, ts = ws ++ skipSpace ts ∧ ∀ x, OptSpace (ws ++ x) x := by
  obtain ⟨ws, hws, -⟩ := hs.optSpace_skipSpace.leaves
  exact ⟨ws, hws, fun x => hs.optSpace_skipSpace.reframe hws x⟩

theorem Lexed.token {ts q : List Token} {t : Token} (h : Lexed ts) (hst : skipSpace ts = t :: q)
    (ht : t.kind ≠ .eof) :
    ∃ ws ws', ts = (ws ++ t :: ws') ++ skipSpace q ∧ (∀ x, OptSpace (ws ++ x) x) ∧
      (∀ y, OptSpace (ws' ++ y) y) ∧ (∀ y, skipSpace ((ws ++ t :: ws') ++ y) = t :: (ws' ++ y)) ∧
      Lexed (skipSpace q) := by
  obtain ⟨ws, hts, hgap⟩ := h.single.gap
  rw [hst] at hts
  have hq : Lexed q := h.rest (hts ▸ (hgap _).leaves.trans (.head ht))
  obtain ⟨ws', hq', hgap'⟩ := hq.single.gap
  refine ⟨ws, ws', by rw [List.append_assoc, List.cons_append, ← hq', hts], hgap, hgap', fun y => ?_,
    hq.rest (leaves_skipSpace q)⟩
  rw [List.append_assoc, List.cons_append, (hgap _).skipSpace_eq',
    skipSpace_cons_of_ne (kind_ne_space_of_skipSpace hst)]

/-! ## The selector layer -/

theorem parseCompound_refuses {src : List Char} {t : Token} {r : List Token}
    (ht : t.kind.startsCompound = false) :
    parseCompound src (t :: r) =
      .error ⟨t.pos, if t.kind = .eof then .missingAtEnd else .expectedSelector t.text⟩ := by
  rw [parseCompound, if_neg (by simp [ht])]
  split <;> simp_all

theorem parseCompound_stops {src : List Char} {ts : List Token} {err : SyntaxError} (hl : Lexed ts)
    (hts : skipSpace ts = ts) (h : plain (parseCompound src ts) = .error err) :
    StopsAt (fun s => ∀ src', plain (parseCompound src' s) = .error err) (Completable (CompoundRel src))
      ts err.pos := by
  obtain ⟨t, q, rfl⟩ := List.exists_cons_of_ne_nil hl.ne_nil
  cases hs : t.kind.startsCompound with
  | true => rw [plain_parseCompound hs] at h; cases h
  | false =>
    rw [parseCompound_refuses hs, plain_error] at h
    obtain rfl := Except.error.inj h
    refine ⟨[], t, q, rfl, kind_ne_space_of_skipSpace hts, rfl, fun post' src' => ?_, completable_compound src⟩
    rw [List.nil_append, parseCompound_refuses hs, plain_error]

theorem complexTail_stops {src : List Char} {acc : List (Combinator × Compound)} {ts : List Token}
    {err : SyntaxError} (hl : Lexed ts) (h : plain (complexTail src acc ts) = .error err) :
    StopsAt (fun s => ∀ src' acc', plain (complexTail src' acc' s) = .error err) (Completable (ComplexTail src))
      ts err.pos := by
  rcases hst : skipSpace ts with _ | ⟨t, q⟩
  · rw [plain_complexTail_stop (by simp [hst])] at h
    cases h
  · by_cases hc : t.kind = .child ∨ t.kind = .sibling
    · have hteof : t.kind ≠ .eof := by rcases hc with hc | hc <;> simp [hc]
      obtain ⟨ws, ws', hts, hgap, hgap', hskip, hlex⟩ := hl.token hst hteof
      have hjoin : ∀ src' acc' y, skipSpace y = y → plain (complexTail src' acc' ((ws ++ t :: ws') ++ y)) =
          (plain (parseCompound src' y)).bind fun p =>
            plain (complexTail src' (acc' ++ [(combinatorOf t, p.1)]) p.2) := by
        intro src' acc' y hy
        rw [plain_complexTail_joined (hskip y) hc, (hgap' y).skipSpace_eq', hy]
      rw [plain_complexTail_joined hst hc] at h
      rcases bind_eq_error h with hk | ⟨⟨k, r1⟩, hk, ht⟩
      · -- no compound selector after the combinator
        rw [hts]
        refine (parseCompound_stops hlex (skipSpace_skipSpace q) hk).after _
          (fun r' hr hsame src' acc' => ?_) (fun pre hpre => ?_)
        · rw [hjoin src' acc' r' (hr.skipSpace_eq_self (skipSpace_skipSpace q)), hsame src']
          rfl
        · refine hpre.after _ (fun k => [(combinatorOf t, k)]) fun y k rest hk => ?_
          simpa using ComplexTail.joined (hgap _) hc (hgap' _) hk (.stop rest)
      · -- the compound read, and a later part refused
        obtain ⟨c1, e1, hk'⟩ := parseCompound_reads hk
        have hK := parseCompound_sound hk
        have hlen : r1.length < ts.length := by
          rw [hts, e1]
          simp only [List.length_append, List.length_cons]
          omega
        have hstop := complexTail_stops (hlex.rest hK.leaves) ht
        rw [hts, e1, ← List.append_assoc]
        refine hstop.after _ (fun r' hr hsame src' acc' => ?_) (fun pre hpre => ?_)
        · obtain ⟨k', hk''⟩ := hk' src' r' hr
          rw [List.append_assoc, hjoin src' acc' _ (hr.skipSpace_append e1), hk'']
          exact hsame src' _
        · refine hpre.after _ (fun more => (combinatorOf t, k) :: more) fun y more rest hmore => ?_
          simpa using ComplexTail.joined (hgap _) hc (hgap' _) (hK.reframe e1 _) hmore
    · by_cases hd : (skipSpace ts).length < ts.length ∧ t.kind.startsCompound = true
      · -- white space and a compound read, and a later part refused
        rw [plain_complexTail_descendant hst hc hd.1 hd.2] at h
        rcases bind_eq_error h with hk | ⟨⟨k, r1⟩, hk, ht⟩
        · rw [plain_parseCompound hd.2] at hk
          cases hk
        obtain ⟨w, hw, hts⟩ := hl.single.eq_space_cons hd.1
        rw [hst] at hts
        have htsp : t.kind ≠ .space := kind_ne_space_of_skipSpace hst
        obtain ⟨c1, e1, hk'⟩ := parseCompound_reads hk
        have hK := parseCompound_sound hk
        have hlen : r1.length < ts.length := by
          rw [hts, e1]
          simp only [List.length_append, List.length_cons]
          omega
        have hstop := complexTail_stops (hl.rest (hts ▸ hK.leaves.cons (by simp [hw]))) ht
        rw [hts, e1, ← List.cons_append]
        refine hstop.after _ (fun r' hr hsame src' acc' => ?_) (fun pre hpre => ?_)
        · obtain ⟨q', hq'⟩ := (hr.append c1).cons_eq e1.symm
          have hskip : skipSpace (w :: t :: q') = t :: q' := by
            rw [skipSpace_cons_space hw, skipSpace_cons_of_ne htsp]
          obtain ⟨k', hk''⟩ := hk' src' r' hr
          rw [List.cons_append, hq', plain_complexTail_descendant hskip hc (by simp [hskip]) hd.2, ← hq', hk'']
          exact hsame src' _
        · refine hpre.after _ (fun more => (Combinator.descendant, k) :: more) fun y more rest hmore => ?_
          simpa using ComplexTail.descendant hw (hK.reframe e1 _) hmore
      · rw [plain_complexTail_stop fun t' r' h' => by
          rw [hst, List.cons.injEq] at h'
          obtain ⟨rfl, rfl⟩ := h'
          exact ⟨hc, hd⟩] at h
        cases h
termination_by ts.length

theorem parseComplex_stops {src : List Char} {ts : List Token} {err : SyntaxError} (hl : Lexed ts)
    (hts : skipSpace ts = ts) (h : plain (parseComplex src ts) = .error err) :
    StopsAt (fun s => ∀ src', plain (parseComplex src' s) = .error err) (Completable (ComplexRel src))
      ts err.pos := by
  rw [plain_parseComplex] at h
  by_cases hg : (current ts).kind = .child
  · -- a leading `>`: what follows it and the white space after it
    obtain ⟨g, ts0, rfl⟩ := List.exists_cons_of_ne_nil hl.ne_nil
    have hg' : g.kind = .child := hg
    have hadv : ∀ x, advance (g :: x) = x := fun x => by simp [advance, hg']
    have h0 : Lexed ts0 := hl.rest (.head (by simp [hg']))
    obtain ⟨ws', hts0, hgap'⟩ := h0.single.gap
    have hlex : Lexed (skipSpace ts0) := h0.rest (leaves_skipSpace ts0)
    have hlead : ∀ src' y, skipSpace y = y → plain (parseComplex src' ((g :: ws') ++ y)) =
        (plain (parseCompound src' y)).bind fun p => (plain (complexTail src' [] p.2)).bind fun q =>
          .ok (⟨p.1, q.1, true⟩, q.2) := by
      intro src' y hy
      rw [plain_parseComplex, List.cons_append, @afterLead_of_child (g :: (ws' ++ y)) hg', hadv,
        (hgap' y).skipSpace_eq', hy]
      simp [current, hg']
    rw [afterLead_of_child hg, hadv] at h
    rw [hts0, ← List.cons_append]
    rcases bind_eq_error h with hk | ⟨⟨k, r1⟩, hk, h2⟩
    · refine (parseCompound_stops hlex (skipSpace_skipSpace ts0) hk).after _
        (fun r' hr hsame src' => ?_) (fun pre hpre => ?_)
      · rw [hlead src' r' (hr.skipSpace_eq_self (skipSpace_skipSpace ts0)), hsame src']
        rfl
      · refine hpre.after _ (fun k => ⟨k, [], true⟩) fun y k rest hk => ?_
        simpa using ComplexRel.relative hg' (hgap' _) hk (.stop rest)
    rcases bind_eq_error h2 with hm | ⟨⟨more, r2⟩, -, h3⟩
    · obtain ⟨c1, e1, hk'⟩ := parseCompound_reads hk
      have hK := parseCompound_sound hk
      rw [e1, ← List.append_assoc]
      refine (complexTail_stops (hlex.rest hK.leaves) hm).after _
        (fun r' hr hsame src' => ?_) (fun pre hpre => ?_)
      · obtain ⟨k', hk''⟩ := hk' src' r' hr
        rw [List.append_assoc, hlead src' _ (hr.skipSpace_append e1), hk'']
        simp only [Except.bind, hsame src' []]
      · refine hpre.after _ (fun more => ⟨k, more, true⟩) fun y more rest hmore => ?_
        simpa using ComplexRel.relative hg' (hgap' _) (hK.reframe e1 _) hmore
    · cases h3
  · -- no leading `>`: the compound starts the stream
    rw [afterLead_of_not_child hg] at h
    rcases bind_eq_error h with hk | ⟨⟨k, r1⟩, hk, h2⟩
    · rw [← List.nil_append ts]
      refine (parseCompound_stops hl hts hk).after _ (fun r' hr hsame src' => ?_)
        (fun pre hpre => ?_)
      · rw [List.nil_append, plain_parseComplex, afterLead_of_not_child (hr.current_eq ▸ hg), hsame src']
        rfl
      · exact hpre.after _ (fun k => ⟨k, [], false⟩) fun y k rest hk => ComplexRel.absolute hk (.stop rest)
    rcases bind_eq_error h2 with hm | ⟨⟨more, r2⟩, -, h3⟩
    · obtain ⟨c1, e1, hk'⟩ := parseCompound_reads hk
      have hK := parseCompound_sound hk
      rw [e1]
      refine (complexTail_stops (hl.rest hK.leaves) hm).after _
        (fun r' hr hsame src' => ?_) (fun pre hpre => ?_)
      · have hg2 : (current (c1 ++ r')).kind ≠ .child := by
          rw [← (hr.append c1).current_eq, ← e1]
          exact hg
        obtain ⟨k', hk''⟩ := hk' src' r' hr
        rw [plain_parseComplex, afterLead_of_not_child hg2, hk'']
        simp only [Except.bind, hsame src' []]
      · refine hpre.after _ (fun more => ⟨k, more, false⟩) fun y more rest hmore => ?_
        simpa using ComplexRel.absolute (hK.reframe e1 _) hmore
    · cases h3

theorem listTail_stops {src : List Char} {acc : List Selector.Complex} {ts : List Token} {err : SyntaxError}
    (hl : Lexed ts) (h : plain (listTail src acc ts) = .error err) :
    StopsAt (fun s => ∀ src' acc', plain (listTail src' acc' s) = .error err) (Completable (ListTail src))
      ts err.pos := by
  by_cases hc : ∃ t q, skipSpace ts = t :: q ∧ t.kind = .comma
  · obtain ⟨t, q, hst, hc⟩ := hc
    obtain ⟨ws, ws', hts, hgap, hgap', hskip, hlex⟩ := hl.token hst (by simp [hc])
    have hcomma : ∀ src' acc' y, skipSpace y = y → plain (listTail src' acc' ((ws ++ t :: ws') ++ y)) =
        (plain (parseComplex src' y)).bind fun p => plain (listTail src' (acc' ++ [p.1]) p.2) := by
      intro src' acc' y hy
      rw [plain_listTail_comma (hskip y) hc, (hgap' y).skipSpace_eq', hy]
    rw [plain_listTail_comma hst hc] at h
    rcases bind_eq_error h with hx | ⟨⟨x, r1⟩, hx, ht⟩
    · rw [hts]
      refine (parseComplex_stops hlex (skipSpace_skipSpace q) hx).after _
        (fun r' hr hsame src' acc' => ?_) (fun pre hpre => ?_)
      · rw [hcomma src' acc' r' (hr.skipSpace_eq_self (skipSpace_skipSpace q)), hsame src']
        rfl
      · refine hpre.after _ (fun x => [x]) fun y x rest hx => ?_
        simpa using ListTail.comma (hgap _) hc (hgap' _) hx (.stop rest)
    · obtain ⟨c1, e1, hx'⟩ := parseComplex_reads hx
      have hX := parseComplex_sound hlex.single hx
      have hlen : r1.length < ts.length := by
        rw [hts, e1]
        simp only [List.length_append, List.length_cons]
        omega
      have hstop := listTail_stops (hlex.rest hX.leaves) ht
      rw [hts, e1, ← List.append_assoc]
      refine hstop.after _ (fun r' hr hsame src' acc' => ?_) (fun pre hpre => ?_)
      · obtain ⟨x', hx''⟩ := hx' src' r' hr
        rw [List.append_assoc, hcomma src' acc' _ (hr.skipSpace_append e1), hx'']
        exact hsame src' _
      · refine hpre.after _ (fun more => x :: more) fun y more rest hmore => ?_
        simpa using ListTail.comma (hgap _) hc (hgap' _) (hX.reframe e1 _) hmore
  · rw [plain_listTail_stop fun t q hst hc' => hc ⟨t, q, hst, hc'⟩] at h
    cases h
termination_by ts.length

theorem parseSelectorList_stops {src : List Char} {ts : List Token} {err : SyntaxError} (hl : Lexed ts)
    (hts : skipSpace ts = ts) (h : plain (parseSelectorList src ts) = .error err) :
    StopsAt (fun s => ∀ src', plain (parseSelectorList src' s) = .error err) (Completable (ListRel src))
      ts err.pos := by
  rw [plain_parseSelectorList] at h
  rcases bind_eq_error h with hx | ⟨⟨x, r1⟩, hx, ht⟩
  · rw [← List.nil_append ts]
    refine (parseComplex_stops hl hts hx).after _ (fun r' hr hsame src' => ?_)
      (fun pre hpre => ?_)
    · rw [List.nil_append, plain_parseSelectorList, hsame src']
      rfl
    · exact hpre.after _ (fun x => [x]) fun y x rest hx => ListRel.mk hx (.stop rest)
  · obtain ⟨c1, e1, hx'⟩ := parseComplex_reads hx
    have hX := parseComplex_sound hl.single hx
    rw [e1]
    refine (listTail_stops (hl.rest hX.leaves) ht).after _ (fun r' hr hsame src' => ?_)
      (fun pre hpre => ?_)
    · obtain ⟨x', hx''⟩ := hx' src' r' hr
      rw [plain_parseSelectorList, hx'']
      exact hsame src' _
    · refine hpre.after _ (fun more => x :: more) fun y more rest hmore => ?_
      simpa using ListRel.mk (hX.reframe e1 _) hmore

/-! ## The logical layer -/

theorem parsePrimary_refuses {room : Nat} {src : List Char} {ts q : List Token} {t : Token}
    (h : skipSpace ts = t :: q) (ho : t.kind ≠ .openParen) (hs : ¬(t.kind.startsCompound = true ∨ t.kind = .child)) :
    plain (parsePrimary room src ts) =
      .error (.invalid ⟨t.pos, if t.kind = .eof then .unexpectedEnd else .unexpected t.text⟩) := by
  rw [parsePrimary]
  split
  · next t' r' heq =>
    rw [h] at heq
    obtain ⟨rfl, rfl⟩ := List.cons.inj heq
    rw [if_neg ho, if_neg hs]
    split <;> simp_all
  · next heq =>
    rw [h] at heq
    cases heq

theorem Lexed.keyword {kw : String} {ts q : List Token} {k : Token} (h : Lexed ts) (hst : skipSpace ts = k :: q)
    (hk : k.IsKeyword kw) :
    ∃ ws ws', ts = (ws ++ k :: ws') ++ skipSpace q ∧ (∀ x, OptSpace (ws ++ x) x) ∧ (∀ y, OptSpace (ws' ++ y) y) ∧
      (∀ y, skipSpace y = y → (matchKeyword kw ((ws ++ k :: ws') ++ y)).map Subtype.val = some y) ∧
      Lexed (skipSpace q) := by
  obtain ⟨ws, ws', hts, hgap, hgap', hskip, hlex⟩ := h.token hst hk.ne_eof
  refine ⟨ws, ws', hts, hgap, hgap', fun y hy => ?_, hlex⟩
  exact matchKeyword_val_eq_some.mpr ⟨k, ws' ++ y, hskip y, hk, by rw [(hgap' y).skipSpace_eq', hy]⟩

mutual

theorem parseOr_stops {room : Nat} {src : List Char} {ts : List Token} {err : SyntaxError} (hl : Lexed ts)
    (h : plain (parseOr room src ts) = .error (.invalid err)) :
    StopsAt (fun s => ∀ src', plain (parseOr room src' s) = .error (.invalid err)) (Completable (OrRel src))
      ts err.pos := by
  rw [plain_parseOr] at h
  rcases bind_eq_error h with hx | ⟨⟨x, r1⟩, hx, ht⟩
  · rw [← List.nil_append ts]
    refine (parseAnd_stops hl hx).after _ (fun r' hr hsame src' => ?_)
      (fun pre hpre => ?_)
    · rw [List.nil_append, plain_parseOr, hsame src']
      rfl
    · exact hpre.after _ id fun y x rest hx => .mk hx .stop
  · obtain ⟨c1, e1, hx'⟩ := parseAnd_reads hx
    have hA := parseAnd_sound hl.single hx
    have hlen : r1.length ≤ ts.length := hA.leaves.length_le
    have hstop := orTail_stops (hl.rest hA.leaves) ht
    rw [e1]
    refine hstop.after _ (fun r' hr hsame src' => ?_) (fun pre hpre => ?_)
    · obtain ⟨x', hx''⟩ := hx' src' r' hr
      rw [plain_parseOr, hx'']
      exact hsame src' _
    · refine hpre.after _ id fun y e rest he => ?_
      simpa using OrRel.mk (hA.reframe e1 _) he
termination_by 6 * ts.length + 5

theorem orTail_stops {room : Nat} {src : List Char} {acc : Expr} {ts : List Token} {err : SyntaxError}
    (hl : Lexed ts) (h : plain (orTail room src acc ts) = .error (.invalid err)) :
    StopsAt (fun s => ∀ src' acc', plain (orTail room src' acc' s) = .error (.invalid err))
      (Completable (OrTail src acc)) ts err.pos := by
  rw [plain_orTail] at h
  rcases hm : (matchKeyword "or" ts).map Subtype.val with _ | r0
  · rw [hm] at h
    cases h
  · rw [hm] at h
    obtain ⟨k, q, hst, hk, rfl⟩ := matchKeyword_val_eq_some.mp hm
    obtain ⟨ws, ws', hts, hgap, hgap', hmk, hlex⟩ := hl.keyword hst hk
    have hlen0 : (skipSpace q).length < ts.length := by
      rw [hts]
      simp only [List.length_append, List.length_cons]
      omega
    rcases bind_eq_error h with hx | ⟨⟨x, r1⟩, hx, ht⟩
    · -- the operand after `or` refused
      rw [hts]
      refine (parseAnd_stops hlex hx).after _ (fun r' hr hsame src' acc' => ?_)
        (fun pre hpre => ?_)
      · rw [plain_orTail, hmk r' (hr.skipSpace_eq_self (skipSpace_skipSpace q))]
        simp only
        rw [hsame src']
        rfl
      · refine hpre.after _ (Expr.or acc) fun y x rest hx => ?_
        simpa using OrTail.more (hgap _) hk (hgap' _) hx .stop
    · -- the operand read, and a later one refused
      obtain ⟨c1, e1, hx'⟩ := parseAnd_reads hx
      have hA := parseAnd_sound hlex.single hx
      have hlen : r1.length < ts.length := by
        rw [e1, List.length_append] at hlen0
        omega
      have hstop := orTail_stops (hlex.rest hA.leaves) ht
      rw [hts, e1, ← List.append_assoc]
      refine hstop.after _ (fun r' hr hsame src' acc' => ?_) (fun pre hpre => ?_)
      · obtain ⟨x', hx''⟩ := hx' src' r' hr
        rw [List.append_assoc, plain_orTail, hmk _ (hr.skipSpace_append e1)]
        simp only
        rw [hx'']
        exact hsame src' _
      · refine hpre.after _ id fun y e rest he => ?_
        simpa using OrTail.more (hgap _) hk (hgap' _) (hA.reframe e1 _) he
termination_by 6 * ts.length + 4

theorem parseAnd_stops {room : Nat} {src : List Char} {ts : List Token} {err : SyntaxError} (hl : Lexed ts)
    (h : plain (parseAnd room src ts) = .error (.invalid err)) :
    StopsAt (fun s => ∀ src', plain (parseAnd room src' s) = .error (.invalid err)) (Completable (AndRel src))
      ts err.pos := by
  rw [plain_parseAnd] at h
  rcases bind_eq_error h with hx | ⟨⟨x, r1⟩, hx, ht⟩
  · rw [← List.nil_append ts]
    refine (parseNot_stops hl hx).after _ (fun r' hr hsame src' => ?_)
      (fun pre hpre => ?_)
    · rw [List.nil_append, plain_parseAnd, hsame src']
      rfl
    · exact hpre.after _ id fun y x rest hx => .mk hx .stop
  · obtain ⟨c1, e1, hx'⟩ := parseNot_reads hx
    have hN := parseNot_sound hl.single hx
    have hlen : r1.length ≤ ts.length := hN.leaves.length_le
    have hstop := andTail_stops (hl.rest hN.leaves) ht
    rw [e1]
    refine hstop.after _ (fun r' hr hsame src' => ?_) (fun pre hpre => ?_)
    · obtain ⟨x', hx''⟩ := hx' src' r' hr
      rw [plain_parseAnd, hx'']
      exact hsame src' _
    · refine hpre.after _ id fun y e rest he => ?_
      simpa using AndRel.mk (hN.reframe e1 _) he
termination_by 6 * ts.length + 3

theorem andTail_stops {room : Nat} {src : List Char} {acc : Expr} {ts : List Token} {err : SyntaxError}
    (hl : Lexed ts) (h : plain (andTail room src acc ts) = .error (.invalid err)) :
    StopsAt (fun s => ∀ src' acc', plain (andTail room src' acc' s) = .error (.invalid err))
      (Completable (AndTail src acc)) ts err.pos := by
  rw [plain_andTail] at h
  rcases hm : (matchKeyword "and" ts).map Subtype.val with _ | r0
  · rw [hm] at h
    cases h
  · rw [hm] at h
    obtain ⟨k, q, hst, hk, rfl⟩ := matchKeyword_val_eq_some.mp hm
    obtain ⟨ws, ws', hts, hgap, hgap', hmk, hlex⟩ := hl.keyword hst hk
    have hlen0 : (skipSpace q).length < ts.length := by
      rw [hts]
      simp only [List.length_append, List.length_cons]
      omega
    rcases bind_eq_error h with hx | ⟨⟨x, r1⟩, hx, ht⟩
    · -- the operand after `and` refused
      rw [hts]
      refine (parseNot_stops hlex hx).after _ (fun r' hr hsame src' acc' => ?_)
        (fun pre hpre => ?_)
      · rw [plain_andTail, hmk r' (hr.skipSpace_eq_self (skipSpace_skipSpace q))]
        simp only
        rw [hsame src']
        rfl
      · refine hpre.after _ (Expr.and acc) fun y x rest hx => ?_
        simpa using AndTail.more (hgap _) hk (hgap' _) hx .stop
    · -- the operand read, and a later one refused
      obtain ⟨c1, e1, hx'⟩ := parseNot_reads hx
      have hN := parseNot_sound hlex.single hx
      have hlen : r1.length < ts.length := by
        rw [e1, List.length_append] at hlen0
        omega
      have hstop := andTail_stops (hlex.rest hN.leaves) ht
      rw [hts, e1, ← List.append_assoc]
      refine hstop.after _ (fun r' hr hsame src' acc' => ?_) (fun pre hpre => ?_)
      · obtain ⟨x', hx''⟩ := hx' src' r' hr
        rw [List.append_assoc, plain_andTail, hmk _ (hr.skipSpace_append e1)]
        simp only
        rw [hx'']
        exact hsame src' _
      · refine hpre.after _ id fun y e rest he => ?_
        simpa using AndTail.more (hgap _) hk (hgap' _) (hN.reframe e1 _) he
termination_by 6 * ts.length + 2

theorem parseNot_stops {room : Nat} {src : List Char} {ts : List Token} {err : SyntaxError} (hl : Lexed ts)
    (h : plain (parseNot room src ts) = .error (.invalid err)) :
    StopsAt (fun s => ∀ src', plain (parseNot room src' s) = .error (.invalid err)) (Completable (NotRel src))
      ts err.pos := by
  rw [plain_parseNot] at h
  rcases hm : (matchKeyword "not" ts).map Subtype.val with _ | r0
  · rw [hm] at h
    rw [← List.nil_append ts]
    refine (parsePrimary_stops hl h).after _ (fun r' hr hsame src' => ?_)
      (fun pre hpre => ?_)
    · rw [List.nil_append, plain_parseNot, hr.matchKeyword_none hm]
      exact hsame src'
    · exact hpre.after _ id fun y e rest he => .primary he
  · rw [hm] at h
    obtain ⟨k, q, hst, hk, rfl⟩ := matchKeyword_val_eq_some.mp hm
    obtain ⟨ws, ws', hts, hgap, hgap', hmk, hlex⟩ := hl.keyword hst hk
    have hlen0 : (skipSpace q).length < ts.length := by
      rw [hts]
      simp only [List.length_append, List.length_cons]
      omega
    -- with no room left the parser stops with `tooDeep`; with room, only the operand can be refused
    cases room with
    | zero => simp at h
    | succ room =>
      simp only at h
      rcases bind_eq_error h with hx | ⟨⟨x, r1⟩, -, h2⟩
      · rw [hts]
        refine (parseNot_stops hlex hx).after _ (fun r' hr hsame src' => ?_)
          (fun pre hpre => ?_)
        · rw [plain_parseNot, hmk r' (hr.skipSpace_eq_self (skipSpace_skipSpace q))]
          simp only
          rw [hsame src']
          rfl
        · refine hpre.after _ Expr.not fun y e rest he => ?_
          simpa using NotRel.not (hgap _) hk (hgap' _) he
      · cases h2
termination_by 6 * ts.length + 1

theorem parsePrimary_stops {room : Nat} {src : List Char} {ts : List Token} {err : SyntaxError} (hl : Lexed ts)
    (h : plain (parsePrimary room src ts) = .error (.invalid err)) :
    StopsAt (fun s => ∀ src', plain (parsePrimary room src' s) = .error (.invalid err)) (Completable (PrimRel src))
      ts err.pos := by
  obtain ⟨t, q, hst⟩ := List.exists_cons_of_ne_nil hl.skipSpace_ne_nil
  obtain ⟨ws, hts, hgap⟩ := hl.single.gap
  rw [hst] at hts
  have htsp : t.kind ≠ .space := kind_ne_space_of_skipSpace hst
  have hws : ∀ x, skipSpace (ws ++ t :: x) = t :: x := fun x => by
    rw [(hgap _).skipSpace_eq', skipSpace_cons_of_ne htsp]
  have hlen : q.length < ts.length := length_lt_of_skipSpace hst
  by_cases ho : t.kind = .openParen
  · rw [plain_parsePrimary_group hst ho] at h
    split at h
    · cases h
    next hroom =>
    have hq : Lexed q := hl.rest (hts ▸ (hgap _).leaves.trans (.head (by simp [ho])))
    rcases bind_eq_error h with hx | ⟨⟨x, r1⟩, hx, hc⟩
    · -- the expression in the group refused
      rw [hts, ← List.singleton_append, ← List.append_assoc]
      refine (parseOr_stops hq hx).after _ (fun r' hr hsame src' => ?_)
        (fun pre hpre => ?_)
      · rw [List.append_assoc, List.singleton_append, plain_parsePrimary_group (hws r') ho, if_neg hroom,
          hsame src']
        rfl
      · obtain ⟨comp, hcomp⟩ := hpre
        refine ⟨comp ++ [closeToken], fun rest => ?_⟩
        obtain ⟨e, he⟩ := hcomp (closeToken :: rest)
        refine ⟨.group e, ?_⟩
        simpa using PrimRel.group (hgap _) ho he (.none _) rfl
    · -- the expression read, and no `)` after it
      change closeGroup x r1 = .error (.invalid err) at hc
      obtain ⟨c1, e1, hx'⟩ := parseOr_reads hx
      have hE := parseOr_sound hq.single hx
      have hr1 : Lexed r1 := hq.rest hE.leaves
      obtain ⟨u, r2, hsr⟩ := List.exists_cons_of_ne_nil hr1.skipSpace_ne_nil
      have husp : u.kind ≠ .space := kind_ne_space_of_skipSpace hsr
      obtain ⟨ws2, hr1s, hgap2⟩ := hr1.single.gap
      rw [hsr] at hr1s
      have hclose : ∀ x' post, closeGroup x' (ws2 ++ u :: post) =
          if u.kind = .closeParen then .ok (.group x', post) else .error (.invalid ⟨u.pos, .unclosedGroup⟩) := by
        intro x' post
        rw [closeGroup, (hgap2 _).skipSpace_eq', skipSpace_cons_of_ne husp]
      rw [hr1s, hclose] at hc
      split at hc
      · cases hc
      next hcu =>
      obtain rfl := ParseError.invalid.inj (Except.error.inj hc)
      refine ⟨ws ++ t :: (c1 ++ ws2), u, r2, by rw [hts, e1, hr1s]; simp, husp, rfl, fun post' src' => ?_,
        ⟨[closeToken], fun rest => ⟨.group x, ?_⟩⟩⟩
      · obtain ⟨x', hx''⟩ := hx' src' (ws2 ++ u :: post') (by rw [hr1s]; exact agree_of_token husp)
        rw [show ws ++ t :: (c1 ++ ws2) ++ u :: post' = ws ++ t :: (c1 ++ (ws2 ++ u :: post')) by simp,
          plain_parsePrimary_group (hws _) ho, if_neg hroom, hx'']
        simp only [Except.bind, hclose, if_neg hcu]
      · simpa using PrimRel.group (hgap _) ho (hE.reframe e1 (ws2 ++ closeToken :: rest)) (hgap2 _) rfl
  · by_cases hsel : t.kind.startsCompound = true ∨ t.kind = .child
    · -- a selector list refused
      rw [plain_parsePrimary_list hst ho hsel] at h
      split at h
      · cases h
      next err' heq =>
      obtain rfl := ParseError.invalid.inj (Except.error.inj h)
      have hlt : Lexed (t :: q) := hl.rest (hts ▸ (hgap _).leaves)
      rw [hts]
      refine (parseSelectorList_stops hlt (skipSpace_cons_of_ne htsp) heq).after _ (fun r' hr hsame src' => ?_)
        (fun pre hpre => ?_)
      · obtain ⟨q', rfl⟩ := hr.cons_eq rfl
        simp only [plain_parsePrimary_list (hws q') ho hsel, hsame src']
      · refine hpre.after _ Expr.selectors fun y cs rest hcs => ?_
        simpa using PrimRel.selectors (hgap _) hcs
    · -- a token that starts nothing
      rw [parsePrimary_refuses hst ho hsel] at h
      obtain rfl := ParseError.invalid.inj (Except.error.inj h)
      refine ⟨ws, t, q, hts, htsp, rfl, fun post' src' => parsePrimary_refuses (hws post') ho hsel,
        ⟨[nameToken], fun rest => ⟨.selectors [⟨compoundOf src nameToken [], [], false⟩], ?_⟩⟩⟩
      exact PrimRel.selectors (hgap _) (.mk (.absolute (.named (.inl rfl) (by simp)) (.stop _)) (.stop _))
termination_by 6 * ts.length

end

/-! ## The whole stream -/

/-- What `parse` does with the tokens of a text: refuse a stream of white space alone, and
otherwise read an expression that only white space and the end of input may follow. -/
def parseTokens (room : Nat) (src : List Char) (ts : List Token) : Except ParseError Expr :=
  if (current (skipSpace ts)).kind = .eof then .error (.invalid ⟨0, .empty⟩)
  else (plain (parseOr room src (skipSpace ts))).bind fun p =>
    if (current (skipSpace p.2)).kind = .eof then .ok p.1
    else .error (.invalid ⟨(current (skipSpace p.2)).pos, .unexpected (current (skipSpace p.2)).text⟩)

theorem parse_eq_parseTokens {room : Nat} {s : String} {ts : List Token} (h : tokenize s = .ok ts) :
    parse room s = parseTokens room s.toList ts :=
  parse_eq_of_tokenize h

/-- On a derivable stream the parser returns the tree, or runs out of room. -/
theorem parseTokens_of_sentence {src : List Char} {ts : List Token} {e : Expr} (h : Sentence src ts e)
    (room : Nat) : parseTokens room src ts = if e.stackUse ≤ room then .ok e else .error .tooDeep := by
  obtain ⟨ts1, ts2, t, h1, he, h2, ht⟩ := h
  obtain ⟨u, r, hu, hne⟩ := he.first
  have hcur : (current (skipSpace ts)).kind ≠ .eof := by
    rw [h1.skipSpace_eq', hu]
    exact hne
  have hend : skipSpace ts2 = [t] := h2.skipSpace_eq (by simp [ht])
  rw [parseTokens, if_neg hcur,
    OrRel.parse he (ahead_keyword h2 (.inr ht)) room (by rw [skipSpace_skipSpace, h1.skipSpace_eq'])]
  by_cases hle : e.stackUse ≤ room
  · simp [fits, hle, hend, current, ht, Except.bind]
  · simp [fits, hle, Except.bind]

theorem parseTokens_stops {room : Nat} {src : List Char} {ts : List Token} {err : SyntaxError} (hl : Lexed ts)
    (hne : (current (skipSpace ts)).kind ≠ .eof) (h : parseTokens room src ts = .error (.invalid err)) :
    StopsAt (fun s => ∀ src', parseTokens room src' s = .error (.invalid err)) Viable ts err.pos := by
  rw [parseTokens, if_neg hne] at h
  obtain ⟨ws, hts, hgap⟩ := hl.single.gap
  have hlex : Lexed (skipSpace ts) := hl.rest (leaves_skipSpace ts)
  rcases bind_eq_error h with hx | ⟨⟨x, r⟩, hx, hfin⟩
  · -- the expression refused
    rw [hts]
    refine (parseOr_stops hlex hx).after _ (fun r' hr hsame src' => ?_) (fun pre hpre => ?_)
    · have hr' : skipSpace (ws ++ r') = r' := by
        rw [(hgap r').skipSpace_eq', hr.skipSpace_eq_self (skipSpace_skipSpace ts)]
      rw [parseTokens, hr', if_neg (hr.current_eq ▸ hne), hsame src']
      rfl
    · obtain ⟨comp, hcomp⟩ := hpre
      obtain ⟨e, he⟩ := hcomp [endToken]
      exact ⟨src, ws ++ (pre ++ (comp ++ [endToken])), e,
        ⟨_, [endToken], endToken, hgap _, he, .none _, rfl⟩, by simp⟩
  · -- the expression read, and a token after it that is not the end of input
    simp only at hfin
    split at hfin
    · cases hfin
    next hnot =>
    obtain ⟨c1, e1, hx'⟩ := parseOr_reads hx
    have hE := parseOr_sound hlex.single hx
    have hr : Lexed r := hlex.rest hE.leaves
    obtain ⟨u, r2, hsr⟩ := List.exists_cons_of_ne_nil hr.skipSpace_ne_nil
    have husp : u.kind ≠ .space := kind_ne_space_of_skipSpace hsr
    obtain ⟨ws1, hrs, hgap1⟩ := hr.single.gap
    rw [hsr] at hrs
    rw [hsr] at hnot hfin
    obtain rfl := ParseError.invalid.inj (Except.error.inj hfin.symm)
    refine ⟨ws ++ c1 ++ ws1, u, r2, by rw [hts, e1, hrs]; simp, husp, rfl, fun post' src' => ?_, ?_⟩
    · -- the same expression, then the same token
      have hag : Agree r (ws1 ++ u :: post') := by
        rw [hrs]
        exact agree_of_token husp
      have hcur : (current (c1 ++ (ws1 ++ u :: post'))).kind ≠ .eof := by
        rw [← (hag.append c1).current_eq, ← e1]
        exact hne
      have hsu : skipSpace (ws1 ++ u :: post') = u :: post' := by
        rw [(hgap1 _).skipSpace_eq', skipSpace_cons_of_ne husp]
      obtain ⟨x', hx''⟩ := hx' src' _ hag
      rw [show ws ++ c1 ++ ws1 ++ u :: post' = ws ++ (c1 ++ (ws1 ++ u :: post')) by simp, parseTokens,
        (hgap _).skipSpace_eq', hag.skipSpace_append e1, if_neg hcur, hx'']
      simp only [Except.bind, hsu, current, List.headD_cons]
      exact if_neg hnot
    · refine ⟨src, (ws ++ c1 ++ ws1) ++ [endToken], x, ?_, List.prefix_append _ _⟩
      refine ⟨c1 ++ (ws1 ++ [endToken]), ws1 ++ [endToken], endToken, ?_, hE.reframe e1 _, hgap1 _, rfl⟩
      simpa using hgap (c1 ++ (ws1 ++ [endToken]))

/-! ## Texts -/

theorem Token.ReadBefore.blank {t : Token} {after : List Char} (h : t.ReadBefore after) (hs : t.kind = .space) :
    ∀ c ∈ t.text.toList, isBlank c = true := by
  rcases h with ⟨heof, -⟩ | ⟨c0, body, k, htext, hk, hscan⟩
  · simp [heof] at hs
  · have hk' : k = .space := classify_eq_space.mp (hk.trans hs)
    obtain ⟨-, hiff, hn⟩ := scanToken_kind hscan
    have hrun : (body ++ after).takeWhile isBlank = body := by
      rw [List.prefix_iff_eq_take.mp (List.takeWhile_prefix isBlank), ← hn hk', List.take_left' rfl]
    intro c hc
    rw [htext] at hc
    rcases List.mem_cons.mp hc with rfl | hc
    · exact hiff.mp hk'
    · rw [← hrun] at hc
      exact List.mem_takeWhile_imp hc

theorem tokenize_not_blank {s : String} {ts : List Token} (htok : tokenize s = .ok ts)
    (hs : ∃ c ∈ s.toList, isBlank c = false) : (current (skipSpace ts)).kind ≠ .eof := by
  obtain ⟨c, hc, hcb⟩ := hs
  have hsp := tokenize_spells htok
  rw [← hsp.flatMap_text] at hc
  obtain ⟨t, ht, hct⟩ := List.mem_flatMap.mp hc
  obtain ⟨after, hread⟩ := hsp.readBefore t ht
  have htsp : t.kind ≠ .space := fun h => by simp [hread.blank h c hct] at hcb
  have hteof : t.kind ≠ .eof := by
    intro h
    rcases hread with ⟨-, htext⟩ | ⟨c0, body, k, -, hk, hscan⟩
    · simp [htext] at hct
    · exact classify_ne_eof (scanToken_kind hscan).1 (hk.trans h)
  obtain ⟨ws, hws, hsplit⟩ := skipSpace_split ts
  have htin : t ∈ skipSpace ts := by
    rw [hsplit] at ht
    rcases List.mem_append.mp ht with h | h
    · exact absurd (hws t h) htsp
    · exact h
  obtain ⟨body, n, hts, hbody, -⟩ := tokenize_shape htok
  obtain ⟨u, rest, hur⟩ := List.exists_cons_of_ne_nil (List.ne_nil_of_mem htin)
  intro heof
  have hu : u.kind = .eof := by rw [hur] at heof; exact heof
  have hlast : ws ++ u :: rest = body ++ [⟨.eof, "", n⟩] := by rw [← hur, ← hsplit, hts]
  obtain rfl : rest = [] := eof_last hbody hlast hu
  rw [hur, List.mem_singleton] at htin
  exact hteof (htin ▸ hu)

/-- A text the parser refuses with a syntax error is refused at the first token of its stream
(the end of input included) such that the tokens before it are a prefix of a stream the grammar
derives and the tokens up to it are not. -/
theorem parse_refuses_first_dead_token {room : Nat} {s : String} {ts : List Token} {err : SyntaxError}
    (htok : tokenize s = .ok ts) (hs : ∃ c ∈ s.toList, isBlank c = false)
    (h : parse room s = .error (.invalid err)) :
    ∃ i, ∃ hi : i < ts.length, ts[i].pos = err.pos ∧ Viable (ts.take i) ∧ ¬Viable (ts.take (i + 1)) ∧
      ∀ j < i, Viable (ts.take (j + 1)) := by
  obtain ⟨body, n, hts, -, hss⟩ := tokenize_shape htok
  have hl : Lexed ts := ⟨hss, _, by rw [hts]; exact List.mem_append_right _ (List.mem_singleton_self _), rfl⟩
  rw [parse_eq_parseTokens htok] at h
  obtain ⟨pre, u, post, rfl, -, hpos, hsame, hviable⟩ := parseTokens_stops hl (tokenize_not_blank htok hs) h
  refine ⟨pre.length, by simp, by simp [hpos], by simpa using hviable, ?_, fun j hj => hviable.of_prefix ?_⟩
  · -- a derivable stream that starts with the tokens up to `u` would be refused the same way
    rintro ⟨src', ts', e', hsent, hpfx⟩
    obtain ⟨post', hpost'⟩ := hpfx
    have hts' : ts' = pre ++ u :: post' := by
      rw [← hpost']
      simp [List.take_append]
    have hfits := parseTokens_of_sentence hsent room
    rw [hts', hsame post' src'] at hfits
    split at hfits <;> cases hfits
  · -- an earlier token: the tokens up to it are a prefix of those before `u`
    rw [List.take_append_of_le_length (by omega)]
    exact List.take_prefix _ _

theorem parse_refuses_first_dead_token_close :
    let ts : List Token := [⟨.ident, "a", 0⟩, ⟨.space, " ", 1⟩, ⟨.closeParen, ")", 2⟩, ⟨.eof, "", 3⟩]
    ∃ i, ∃ hi : i < ts.length, ts[i].pos = 2 ∧ Viable (ts.take i) ∧ ¬Viable (ts.take (i + 1)) ∧
      ∀ j < i, Viable (ts.take (j + 1)) :=
  @parse_refuses_first_dead_token 0 "a )" [⟨.ident, "a", 0⟩, ⟨.space, " ", 1⟩, ⟨.closeParen, ")", 2⟩, ⟨.eof, "", 3⟩]
    ⟨2, .unexpected ")"⟩ (by decide +kernel)
    ⟨'a', by simp, by decide⟩ (by decide +kernel)

end Stencil.Selector

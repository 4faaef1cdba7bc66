import Mathlib
import Stencil.Proofs.Selector.Soundness
/-!
# What a derivation and a parser read

A derivation reads a prefix of its stream and nothing of what follows it: the same prefix derives
the same tree before any other rest (`OrRel.reframe` and one lemma beside it for each
nonterminal).

The parser reads a little more: where it stops, it has looked at the token after the white
space that follows the part it consumed, to see that it cannot go on. So a run that returns
reads its stream up to that token and no further (`Agree`): on a stream that keeps the consumed
part and the token after it, and may differ after that, it consumes the same part and stops at
the same place (`parseOr_reads` … `parsePrimary_reads`). The value may differ, as the source
text the values quote may.

* `OptSpace.reframe` … `PrimRel.reframe` : derivations before another rest.
* `Agree` : two streams that agree up to a token that is not white space.
* `parseCompound_reads` … `parsePrimary_reads` : a run that returns, on a stream that agrees.
-/

namespace Stencil.Selector

/-! ## Derivations before another rest -/

section Reframe

variable {src : List Char}

theorem OptSpace.reframe {ts rest pre : List Token} (h : OptSpace ts rest) (hts : ts = pre ++ rest)
    (rest' : List Token) : OptSpace (pre ++ rest') rest' := by
  cases h with
  | none =>
    obtain rfl := List.append_cancel_right (hts.symm.trans (List.nil_append _).symm)
    exact .none _
  | @one t _ hw =>
    obtain rfl := List.append_cancel_right (show pre ++ rest = [t] ++ rest from hts.symm)
    exact .one _ hw

theorem CompoundRel.reframe {ts rest pre : List Token} {k : Compound} (h : CompoundRel src ts k rest)
    (hts : ts = pre ++ rest) (rest' : List Token) : CompoundRel src (pre ++ rest') k rest' := by
  cases h with
  | named ht hparts =>
    obtain rfl := List.append_cancel_right (hts.symm.trans List.cons_append.symm)
    exact .named ht hparts
  | bare ht hparts =>
    obtain rfl := List.append_cancel_right (hts.symm.trans List.cons_append.symm)
    exact .bare ht hparts

theorem ComplexTail.reframe {ts rest : List Token} {more : List (Combinator × Compound)}
    (h : ComplexTail src ts more rest) {pre : List Token} (hts : ts = pre ++ rest) (rest' : List Token) :
    ComplexTail src (pre ++ rest') more rest' := by
  induction h generalizing pre with
  | stop ts =>
    obtain rfl := List.append_cancel_right (hts.symm.trans (List.nil_append ts).symm)
    exact .stop _
  | @joined ts ts1 ts2 ts3 rest c k more h1 hc h2 hk hmore ih =>
    obtain ⟨l3, e3, -⟩ := hmore.leaves
    obtain ⟨l2, e2, -⟩ := hk.leaves
    obtain ⟨l1, e1, -⟩ := h2.leaves
    obtain ⟨l0, e0, -⟩ := h1.leaves
    obtain rfl : pre = l0 ++ c :: (l1 ++ l2 ++ l3) :=
      List.append_cancel_right (by rw [← hts, e0, e1, e2, e3]; simp)
    simpa using ComplexTail.joined (h1.reframe e0 (c :: (l1 ++ (l2 ++ (l3 ++ rest'))))) hc
      (h2.reframe e1 (l2 ++ (l3 ++ rest'))) (hk.reframe e2 (l3 ++ rest')) (ih e3)
  | @descendant w ts ts1 rest k more hw hk hmore ih =>
    obtain ⟨l1, e1, -⟩ := hmore.leaves
    obtain ⟨l0, e0, -⟩ := hk.leaves
    obtain rfl : pre = w :: (l0 ++ l1) := List.append_cancel_right (by rw [← hts, e0, e1]; simp)
    simpa using ComplexTail.descendant hw (hk.reframe e0 (l1 ++ rest')) (ih e1)

theorem ComplexRel.reframe {ts rest pre : List Token} {x : Selector.Complex} (h : ComplexRel src ts x rest)
    (hts : ts = pre ++ rest) (rest' : List Token) : ComplexRel src (pre ++ rest') x rest' := by
  cases h with
  | @absolute ts ts1 rest k more hk hmore =>
    obtain ⟨l1, e1, -⟩ := hmore.leaves
    obtain ⟨l0, e0, -⟩ := hk.leaves
    obtain rfl : pre = l0 ++ l1 := List.append_cancel_right (by rw [← hts, e0, e1]; simp)
    simpa using ComplexRel.absolute (hk.reframe e0 (l1 ++ rest')) (hmore.reframe e1 rest')
  | @relative g ts ts1 ts2 rest k more hg hs hk hmore =>
    obtain ⟨l2, e2, -⟩ := hmore.leaves
    obtain ⟨l1, e1, -⟩ := hk.leaves
    obtain ⟨l0, e0, -⟩ := hs.leaves
    obtain rfl : pre = g :: (l0 ++ l1 ++ l2) := List.append_cancel_right (by rw [← hts, e0, e1, e2]; simp)
    simpa using ComplexRel.relative hg (hs.reframe e0 (l1 ++ (l2 ++ rest'))) (hk.reframe e1 (l2 ++ rest'))
      (hmore.reframe e2 rest')

theorem ListTail.reframe {ts rest : List Token} {xs : List Selector.Complex}
    (h : ListTail src ts xs rest) {pre : List Token} (hts : ts = pre ++ rest) (rest' : List Token) :
    ListTail src (pre ++ rest') xs rest' := by
  induction h generalizing pre with
  | stop ts =>
    obtain rfl := List.append_cancel_right (hts.symm.trans (List.nil_append ts).symm)
    exact .stop _
  | @comma ts ts1 ts2 ts3 rest c x more h1 hc h2 hx hmore ih =>
    obtain ⟨l3, e3, -⟩ := hmore.leaves
    obtain ⟨l2, e2, -⟩ := hx.leaves
    obtain ⟨l1, e1, -⟩ := h2.leaves
    obtain ⟨l0, e0, -⟩ := h1.leaves
    obtain rfl : pre = l0 ++ c :: (l1 ++ l2 ++ l3) :=
      List.append_cancel_right (by rw [← hts, e0, e1, e2, e3]; simp)
    simpa using ListTail.comma (h1.reframe e0 (c :: (l1 ++ (l2 ++ (l3 ++ rest'))))) hc
      (h2.reframe e1 (l2 ++ (l3 ++ rest'))) (hx.reframe e2 (l3 ++ rest')) (ih e3)

theorem ListRel.reframe {ts rest pre : List Token} {xs : List Selector.Complex} (h : ListRel src ts xs rest)
    (hts : ts = pre ++ rest) (rest' : List Token) : ListRel src (pre ++ rest') xs rest' := by
  cases h with
  | mk hx hmore =>
    obtain ⟨l1, e1, -⟩ := hmore.leaves
    obtain ⟨l0, e0, -⟩ := hx.leaves
    obtain rfl : pre = l0 ++ l1 := List.append_cancel_right (by rw [← hts, e0, e1]; simp)
    simpa using ListRel.mk (hx.reframe e0 (l1 ++ rest')) (hmore.reframe e1 rest')

mutual

theorem OrRel.reframe {ts rest : List Token} {e : Expr} :
    OrRel src ts e rest → ∀ {pre : List Token}, ts = pre ++ rest → ∀ rest', OrRel src (pre ++ rest') e rest'
  | @OrRel.mk _ _ ts1 _ l _ hl ht, pre, hts, rest' => by
    obtain ⟨l1, e1, -⟩ := OrTail.leaves ht
    obtain ⟨l0, e0, -⟩ := AndRel.leaves hl
    obtain rfl : pre = l0 ++ l1 := List.append_cancel_right (by rw [← hts, e0, e1]; simp)
    simpa using OrRel.mk (AndRel.reframe hl e0 (l1 ++ rest')) (OrTail.reframe ht e1 rest')

theorem OrTail.reframe {acc e : Expr} {ts rest : List Token} :
    OrTail src acc ts e rest → ∀ {pre : List Token}, ts = pre ++ rest → ∀ rest', OrTail src acc (pre ++ rest') e rest'
  | .stop, pre, hts, rest' => by
    obtain rfl := List.append_cancel_right (hts.symm.trans (List.nil_append _).symm)
    exact .stop
  | @OrTail.more _ _ _ _ _ ts1 ts2 ts3 _ k h1 hk h2 hr ht, pre, hts, rest' => by
    obtain ⟨l3, e3, -⟩ := OrTail.leaves ht
    obtain ⟨l2, e2, -⟩ := AndRel.leaves hr
    obtain ⟨l1, e1, -⟩ := h2.leaves
    obtain ⟨l0, e0, -⟩ := h1.leaves
    obtain rfl : pre = l0 ++ k :: (l1 ++ l2 ++ l3) :=
      List.append_cancel_right (by rw [← hts, e0, e1, e2, e3]; simp)
    simpa using OrTail.more (h1.reframe e0 (k :: (l1 ++ (l2 ++ (l3 ++ rest'))))) hk
      (h2.reframe e1 (l2 ++ (l3 ++ rest'))) (AndRel.reframe hr e2 (l3 ++ rest')) (OrTail.reframe ht e3 rest')

theorem AndRel.reframe {ts rest : List Token} {e : Expr} :
    AndRel src ts e rest → ∀ {pre : List Token}, ts = pre ++ rest → ∀ rest', AndRel src (pre ++ rest') e rest'
  | @AndRel.mk _ _ ts1 _ l _ hl ht, pre, hts, rest' => by
    obtain ⟨l1, e1, -⟩ := AndTail.leaves ht
    obtain ⟨l0, e0, -⟩ := NotRel.leaves hl
    obtain rfl : pre = l0 ++ l1 := List.append_cancel_right (by rw [← hts, e0, e1]; simp)
    simpa using AndRel.mk (NotRel.reframe hl e0 (l1 ++ rest')) (AndTail.reframe ht e1 rest')

theorem AndTail.reframe {acc e : Expr} {ts rest : List Token} :
    AndTail src acc ts e rest → ∀ {pre : List Token}, ts = pre ++ rest → ∀ rest', AndTail src acc (pre ++ rest') e rest'
  | .stop, pre, hts, rest' => by
    obtain rfl := List.append_cancel_right (hts.symm.trans (List.nil_append _).symm)
    exact .stop
  | @AndTail.more _ _ _ _ _ ts1 ts2 ts3 _ k h1 hk h2 hr ht, pre, hts, rest' => by
    obtain ⟨l3, e3, -⟩ := AndTail.leaves ht
    obtain ⟨l2, e2, -⟩ := NotRel.leaves hr
    obtain ⟨l1, e1, -⟩ := h2.leaves
    obtain ⟨l0, e0, -⟩ := h1.leaves
    obtain rfl : pre = l0 ++ k :: (l1 ++ l2 ++ l3) :=
      List.append_cancel_right (by rw [← hts, e0, e1, e2, e3]; simp)
    simpa using AndTail.more (h1.reframe e0 (k :: (l1 ++ (l2 ++ (l3 ++ rest'))))) hk
      (h2.reframe e1 (l2 ++ (l3 ++ rest'))) (NotRel.reframe hr e2 (l3 ++ rest')) (AndTail.reframe ht e3 rest')

theorem NotRel.reframe {ts rest : List Token} {e : Expr} :
    NotRel src ts e rest → ∀ {pre : List Token}, ts = pre ++ rest → ∀ rest', NotRel src (pre ++ rest') e rest'
  | @NotRel.not _ _ _ ts1 ts2 _ k h1 hk h2 he, pre, hts, rest' => by
    obtain ⟨l2, e2, -⟩ := NotRel.leaves he
    obtain ⟨l1, e1, -⟩ := h2.leaves
    obtain ⟨l0, e0, -⟩ := h1.leaves
    obtain rfl : pre = l0 ++ k :: (l1 ++ l2) := List.append_cancel_right (by rw [← hts, e0, e1, e2]; simp)
    simpa using NotRel.not (h1.reframe e0 (k :: (l1 ++ (l2 ++ rest')))) hk (h2.reframe e1 (l2 ++ rest'))
      (NotRel.reframe he e2 rest')
  | .primary he, pre, hts, rest' => .primary (PrimRel.reframe he hts rest')

theorem PrimRel.reframe {ts rest : List Token} {e : Expr} :
    PrimRel src ts e rest → ∀ {pre : List Token}, ts = pre ++ rest → ∀ rest', PrimRel src (pre ++ rest') e rest'
  | @PrimRel.group _ _ _ ts1 ts2 _ o c h1 ho he h2 hc, pre, hts, rest' => by
    obtain ⟨l2, e2, -⟩ := h2.leaves
    obtain ⟨l1, e1, -⟩ := OrRel.leaves he
    obtain ⟨l0, e0, -⟩ := h1.leaves
    obtain rfl : pre = l0 ++ o :: (l1 ++ l2 ++ [c]) :=
      List.append_cancel_right (by rw [← hts, e0, e1, e2]; simp)
    simpa using PrimRel.group (h1.reframe e0 (o :: (l1 ++ (l2 ++ c :: rest')))) ho
      (OrRel.reframe he e1 (l2 ++ c :: rest')) (h2.reframe e2 (c :: rest')) hc
  | @PrimRel.selectors _ _ _ ts1 _ h1 hl, pre, hts, rest' => by
    obtain ⟨l1, e1, -⟩ := hl.leaves
    obtain ⟨l0, e0, -⟩ := h1.leaves
    obtain rfl : pre = l0 ++ l1 := List.append_cancel_right (by rw [← hts, e0, e1]; simp)
    simpa using PrimRel.selectors (h1.reframe e0 (l1 ++ rest')) (hl.reframe e1 rest')

end

end Reframe

/-! ## Streams that agree up to a token -/

/-- `r` and `r'` are the same up to a token that is not white space, and may differ after it. -/
def Agree (r r' : List Token) : Prop :=
  ∃ pre u post post', u.kind ≠ .space ∧ r = pre ++ u :: post ∧ r' = pre ++ u :: post'

theorem Agree.symm {r r' : List Token} (h : Agree r r') : Agree r' r := by
  obtain ⟨pre, u, post, post', hu, rfl, rfl⟩ := h
  exact ⟨pre, u, post', post, hu, rfl, rfl⟩

theorem Agree.append {r r' : List Token} (h : Agree r r') (c : List Token) : Agree (c ++ r) (c ++ r') := by
  obtain ⟨pre, u, post, post', hu, rfl, rfl⟩ := h
  exact ⟨c ++ pre, u, post, post', hu, by simp, by simp⟩

theorem agree_of_token {pre post post' : List Token} {u : Token} (hu : u.kind ≠ .space) :
    Agree (pre ++ u :: post) (pre ++ u :: post') :=
  ⟨pre, u, post, post', hu, rfl, rfl⟩

theorem Agree.cons_eq {r r' q : List Token} {t : Token} (h : Agree r r') (hr : r = t :: q) :
    ∃ q', r' = t :: q' := by
  obtain ⟨pre, u, post, post', -, rfl, rfl⟩ := h
  cases pre with
  | nil => exact ⟨post', by rw [List.nil_append] at hr ⊢; rw [(List.cons.inj hr).1]⟩
  | cons a pre => exact ⟨pre ++ u :: post', by rw [List.cons_append] at hr ⊢; rw [(List.cons.inj hr).1]⟩

theorem Agree.current_eq {r r' : List Token} (h : Agree r r') : current r = current r' := by
  obtain ⟨pre, u, post, post', -, rfl, rfl⟩ := h
  cases pre <;> rfl

theorem Agree.skip {r r' : List Token} (h : Agree r r') : Agree (skipSpace r) (skipSpace r') := by
  obtain ⟨pre, u, post, post', hu, rfl, rfl⟩ := h
  induction pre with
  | nil =>
    rw [List.nil_append, List.nil_append, skipSpace_cons_of_ne hu, skipSpace_cons_of_ne hu]
    exact ⟨[], u, post, post', hu, rfl, rfl⟩
  | cons t pre ih =>
    by_cases ht : t.kind = .space
    · rw [List.cons_append, List.cons_append, skipSpace_cons_space ht, skipSpace_cons_space ht]
      exact ih
    · rw [List.cons_append, List.cons_append, skipSpace_cons_of_ne ht, skipSpace_cons_of_ne ht]
      exact ⟨t :: pre, u, post, post', hu, rfl, rfl⟩

theorem kind_ne_space_of_skipSpace {ts q : List Token} {t : Token} (h : skipSpace ts = t :: q) :
    t.kind ≠ .space := by
  have hne : skipSpace ts ≠ [] := by rw [h]; simp
  have := List.head_dropWhile_not (fun x : Token => x.kind == .space) hne
  simp only [skipSpace] at h
  simpa [h] using this

theorem skipSpace_lt_iff {t : Token} {q : List Token} :
    (skipSpace (t :: q)).length < (t :: q).length ↔ t.kind = .space := by
  by_cases ht : t.kind = .space
  · have := length_skipSpace_le q
    simp only [ht, iff_true, skipSpace_cons_space ht, List.length_cons]
    omega
  · simp [ht, skipSpace_cons_of_ne ht]

theorem Agree.skipSpace_cons {r r' q : List Token} {t : Token} (h : Agree r r') (hs : skipSpace r = t :: q) :
    ∃ q', skipSpace r' = t :: q' ∧ ((skipSpace r).length < r.length ↔ (skipSpace r').length < r'.length) := by
  obtain ⟨q', hq'⟩ := h.skip.cons_eq hs
  refine ⟨q', hq', ?_⟩
  obtain ⟨a, x, rfl⟩ : ∃ a x, r = a :: x := by
    cases r with
    | nil => simp [skipSpace] at hs
    | cons a x => exact ⟨a, x, rfl⟩
  obtain ⟨x', rfl⟩ := h.cons_eq rfl
  rw [skipSpace_lt_iff, skipSpace_lt_iff]

theorem Agree.skipSpace_eq_self {r r' : List Token} (h : Agree r r') (hr : skipSpace r = r) :
    skipSpace r' = r' := by
  obtain ⟨pre, u, post, post', hu, rfl, rfl⟩ := h
  cases pre with
  | nil => exact skipSpace_cons_of_ne hu
  | cons a pre => exact skipSpace_cons_of_ne (kind_ne_space_of_skipSpace hr)

theorem Agree.matchKeyword_none {kw : String} {r r' : List Token} (h : Agree r r')
    (hm : (matchKeyword kw r).map Subtype.val = none) : (matchKeyword kw r').map Subtype.val = none := by
  rw [Option.map_eq_none_iff, matchKeyword_eq_none_iff] at hm ⊢
  intro t q' hs
  obtain ⟨q, hq⟩ := h.symm.skip.cons_eq hs
  exact hm t q hq

theorem skipSpace_split (ts : List Token) : ∃ ws, (∀ w ∈ ws, w.kind = .space) ∧ ts = ws ++ skipSpace ts :=
  ⟨ts.takeWhile (·.kind == .space), fun w hw => by simpa using List.mem_takeWhile_imp hw,
    List.takeWhile_append_dropWhile.symm⟩

theorem skipSpace_cons_reads {ts q : List Token} {t : Token} (hst : skipSpace ts = t :: q) :
    ∃ ws, ts = ws ++ t :: q ∧ ∀ x, skipSpace (ws ++ t :: x) = t :: x := by
  obtain ⟨ws, hws, hsplit⟩ := skipSpace_split ts
  refine ⟨ws, by rw [← hst]; exact hsplit, fun x => ?_⟩
  rw [skipSpace_append_spaces hws, skipSpace_cons_of_ne (kind_ne_space_of_skipSpace hst)]

theorem skipSpace_reads {q d r : List Token} (hq : skipSpace q = d ++ r) :
    ∃ ws, q = ws ++ (d ++ r) ∧ ∀ r', Agree r r' → skipSpace (ws ++ (d ++ r')) = d ++ r' := by
  obtain ⟨ws, hws, hsplit⟩ := skipSpace_split q
  refine ⟨ws, by rw [← hq]; exact hsplit, fun r' h => ?_⟩
  rw [skipSpace_append_spaces hws]
  exact (h.append d).skipSpace_eq_self (by rw [← hq, skipSpace_skipSpace])

theorem token_reads {ts q d r : List Token} {t : Token} (hst : skipSpace ts = t :: q)
    (hq : skipSpace q = d ++ r) :
    ∃ c, ts = c ++ (d ++ r) ∧ ∀ r', Agree r r' → ∃ q', skipSpace (c ++ (d ++ r')) = t :: q' ∧ skipSpace q' = d ++ r' := by
  obtain ⟨ws, hts, hws⟩ := skipSpace_cons_reads hst
  obtain ⟨ws', hq1, hq2⟩ := skipSpace_reads hq
  refine ⟨ws ++ t :: ws', by rw [hts, hq1]; simp, fun r' h => ⟨ws' ++ (d ++ r'), ?_, hq2 r' h⟩⟩
  rw [List.append_assoc, List.cons_append, hws]

theorem matchKeyword_reads {kw : String} {ts q d r : List Token} {k : Token} (hst : skipSpace ts = k :: q)
    (hk : k.IsKeyword kw) (hq : skipSpace q = d ++ r) :
    ∃ c, ts = c ++ (d ++ r) ∧ ∀ r', Agree r r' → (matchKeyword kw (c ++ (d ++ r'))).map Subtype.val = some (d ++ r') := by
  obtain ⟨c, hts, hc⟩ := token_reads hst hq
  refine ⟨c, hts, fun r' h => ?_⟩
  obtain ⟨q', h1, h2⟩ := hc r' h
  exact matchKeyword_val_eq_some.mpr ⟨k, q', h1, hk, h2.symm⟩

/-! ## The selector layer reads up to where it stops -/

theorem dropWhile_agree {p : Token → Bool} {q r' : List Token} (h : Agree (q.dropWhile p) r') :
    (q.takeWhile p ++ r').dropWhile p = r' := by
  rw [List.dropWhile_append_of_pos fun a ha => List.mem_takeWhile_imp ha]
  obtain ⟨pre, u, post, post', -, hq, rfl⟩ := h
  apply dropWhile_eq_self_of_head
  intro a ha
  have hne : q.dropWhile p ≠ [] := by rw [hq]; simp
  have := List.head_dropWhile_not p hne
  cases pre with
  | nil => simp only [List.nil_append, List.head?_cons, Option.mem_def, Option.some.injEq] at ha hq; simp_all
  | cons b pre => simp only [List.cons_append, List.head?_cons, Option.mem_def, Option.some.injEq] at ha hq; simp_all

theorem parseCompound_reads {src : List Char} {ts r : List Token} {k : Compound}
    (h : plain (parseCompound src ts) = .ok (k, r)) :
    ∃ c, ts = c ++ r ∧ ∀ src' r', Agree r r' → ∃ k', plain (parseCompound src' (c ++ r')) = .ok (k', r') := by
  obtain ⟨t, q, rfl, ht⟩ : ∃ t q, ts = t :: q ∧ t.kind.startsCompound = true := by
    cases ts with
    | nil => rw [parseCompound_nil] at h; cases h
    | cons t q =>
      cases hs : t.kind.startsCompound with
      | false =>
        obtain ⟨e, he⟩ := @parseCompound_not_start src t q hs
        rw [he] at h
        cases h
      | true => exact ⟨t, q, rfl, hs⟩
  rw [plain_parseCompound ht] at h
  obtain ⟨-, rfl⟩ := Prod.mk.inj (Except.ok.inj h)
  refine ⟨t :: q.takeWhile (·.kind.continuesCompound), by simp, fun src' r' hr => ?_⟩
  rw [List.cons_append, plain_parseCompound ht, dropWhile_agree hr]
  exact ⟨_, rfl⟩

theorem complexTail_reads {src : List Char} {acc cs : List (Combinator × Compound)} {ts r : List Token}
    (h : plain (complexTail src acc ts) = .ok (cs, r)) :
    ∃ c, ts = c ++ r ∧ ∀ src' acc' r', Agree r r' →
      ∃ cs', plain (complexTail src' acc' (c ++ r')) = .ok (cs', r') := by
  rcases hst : skipSpace ts with _ | ⟨t, q⟩
  · -- only white space: the parser stops, and no stream agrees with this one
    rw [plain_complexTail_stop (by simp [hst])] at h
    obtain ⟨-, rfl⟩ := Prod.mk.inj (Except.ok.inj h)
    refine ⟨[], rfl, fun src' acc' r' hr => ?_⟩
    obtain ⟨pre, u, post, post', -, hp, -⟩ := hr.skip
    rw [hst] at hp
    simp at hp
  · have hlen : q.length < ts.length := by
      have := length_skipSpace_le ts
      rw [hst] at this
      simp only [List.length_cons] at this
      omega
    obtain ⟨ws, hts, hws⟩ := skipSpace_cons_reads hst
    by_cases hc : t.kind = .child ∨ t.kind = .sibling
    · rw [plain_complexTail_joined hst hc] at h
      obtain ⟨⟨k, r1⟩, hk, ht⟩ := bind_eq_ok h
      obtain ⟨c1, e1, hk'⟩ := parseCompound_reads hk
      have hlen1 : r1.length < ts.length := by
        have := length_skipSpace_le q
        rw [e1] at this
        simp only [List.length_append] at this
        omega
      obtain ⟨c2, rfl, ht'⟩ := complexTail_reads ht
      obtain ⟨c, hts', hc'⟩ := token_reads hst (d := c1 ++ c2) (by rw [e1, List.append_assoc])
      refine ⟨c ++ (c1 ++ c2), by rw [hts']; simp, fun src' acc' r' hr => ?_⟩
      obtain ⟨q', h1, h2⟩ := hc' r' hr
      obtain ⟨k', hk''⟩ := hk' src' (c2 ++ r') (hr.append c2)
      rw [List.append_assoc, plain_complexTail_joined h1 hc, h2, List.append_assoc, hk'']
      exact ht' src' _ r' hr
    · by_cases hd : (skipSpace ts).length < ts.length ∧ t.kind.startsCompound = true
      · rw [plain_complexTail_descendant hst hc hd.1 hd.2] at h
        obtain ⟨⟨k, r1⟩, hk, ht⟩ := bind_eq_ok h
        obtain ⟨c1, e1, hk'⟩ := parseCompound_reads hk
        have hlen1 : r1.length < ts.length := by
          have := hd.1
          rw [hst, e1] at this
          simp only [List.length_append] at this
          omega
        obtain ⟨c2, rfl, ht'⟩ := complexTail_reads ht
        refine ⟨ws ++ (c1 ++ c2), by rw [hts, e1]; simp, fun src' acc' r' hr => ?_⟩
        obtain ⟨q', hq'⟩ := (hr.append (c1 ++ c2)).cons_eq (by rw [List.append_assoc, ← e1])
        have hskip : (skipSpace (ws ++ t :: q')).length < (ws ++ t :: q').length := by
          have := hd.1
          rw [hst, hts] at this
          rw [hws]
          simp only [List.length_append, List.length_cons] at this ⊢
          omega
        obtain ⟨k', hk''⟩ := hk' src' (c2 ++ r') (hr.append c2)
        rw [List.append_assoc, hq', plain_complexTail_descendant (hws q') hc hskip hd.2, ← hq',
          List.append_assoc, hk'']
        exact ht' src' _ r' hr
      · rw [plain_complexTail_stop fun t' r' h' => by
          rw [hst, List.cons.injEq] at h'
          obtain ⟨rfl, rfl⟩ := h'
          exact ⟨hc, hd⟩] at h
        obtain ⟨-, rfl⟩ := Prod.mk.inj (Except.ok.inj h)
        refine ⟨[], rfl, fun src' acc' r' hr => ⟨acc', ?_⟩⟩
        obtain ⟨q', hq', hflag⟩ := hr.skipSpace_cons hst
        rw [List.nil_append, plain_complexTail_stop fun t' r'' h' => by
          rw [hq', List.cons.injEq] at h'
          obtain ⟨rfl, rfl⟩ := h'
          exact ⟨hc, fun hd' => hd ⟨hflag.mpr (hq' ▸ hd'.1), hd'.2⟩⟩]
termination_by ts.length

theorem parseComplex_reads {src : List Char} {ts r : List Token} {x : Selector.Complex}
    (h : plain (parseComplex src ts) = .ok (x, r)) :
    ∃ c, ts = c ++ r ∧ ∀ src' r', Agree r r' → ∃ x', plain (parseComplex src' (c ++ r')) = .ok (x', r') := by
  rw [plain_parseComplex] at h
  obtain ⟨⟨k, r1⟩, hk, h⟩ := bind_eq_ok h
  obtain ⟨⟨more, r2⟩, hmore, h⟩ := bind_eq_ok h
  obtain ⟨-, rfl⟩ := Prod.mk.inj (Except.ok.inj h)
  obtain ⟨c1, e1, hk'⟩ := parseCompound_reads hk
  obtain ⟨c2, rfl, hmore'⟩ := complexTail_reads hmore
  by_cases hg : (current ts).kind = .child
  · -- the leading `>` and the white space after it
    obtain ⟨g, ts0, rfl⟩ : ∃ g ts0, ts = g :: ts0 := by
      cases ts with
      | nil => simp [current] at hg
      | cons g ts0 => exact ⟨g, ts0, rfl⟩
    have hg' : g.kind = .child := hg
    have hadv : ∀ x, advance (g :: x) = x := fun x => by simp [advance, hg']
    rw [afterLead_of_child hg, hadv] at e1
    obtain ⟨ws, hts0, hws⟩ := skipSpace_reads (d := c1 ++ c2) (by rw [e1, List.append_assoc])
    refine ⟨g :: (ws ++ (c1 ++ c2)), by rw [hts0]; simp, fun src' r' hr => ?_⟩
    obtain ⟨k', hk''⟩ := hk' src' (c2 ++ r') (hr.append c2)
    obtain ⟨more', hmore''⟩ := hmore' src' [] r' hr
    rw [plain_parseComplex, List.cons_append, @afterLead_of_child (g :: (ws ++ (c1 ++ c2) ++ r')) hg',
      hadv, List.append_assoc, hws r' hr, List.append_assoc, hk'']
    simp only [Except.bind, hmore'']
    exact ⟨_, rfl⟩
  · rw [afterLead_of_not_child hg] at e1
    refine ⟨c1 ++ c2, by rw [e1, List.append_assoc], fun src' r' hr => ?_⟩
    have hg2 : (current (c1 ++ c2 ++ r')).kind ≠ .child := by
      rw [← ((hr.append (c1 ++ c2))).current_eq, List.append_assoc, ← e1]
      exact hg
    obtain ⟨k', hk''⟩ := hk' src' (c2 ++ r') (hr.append c2)
    obtain ⟨more', hmore''⟩ := hmore' src' [] r' hr
    rw [plain_parseComplex, afterLead_of_not_child hg2, List.append_assoc, hk'']
    simp only [Except.bind, hmore'']
    exact ⟨_, rfl⟩

theorem listTail_reads {src : List Char} {acc xs : List Selector.Complex} {ts r : List Token}
    (h : plain (listTail src acc ts) = .ok (xs, r)) :
    ∃ c, ts = c ++ r ∧ ∀ src' acc' r', Agree r r' →
      ∃ xs', plain (listTail src' acc' (c ++ r')) = .ok (xs', r') := by
  by_cases hc : ∃ t q, skipSpace ts = t :: q ∧ t.kind = .comma
  · obtain ⟨t, q, hst, hc⟩ := hc
    rw [plain_listTail_comma hst hc] at h
    obtain ⟨⟨x, r1⟩, hx, ht⟩ := bind_eq_ok h
    obtain ⟨c1, e1, hx'⟩ := parseComplex_reads hx
    have hlen1 : r1.length < ts.length := by
      have h1 := length_skipSpace_le ts
      have h2 := length_skipSpace_le q
      rw [hst] at h1
      rw [e1] at h2
      simp only [List.length_append, List.length_cons] at h1 h2
      omega
    obtain ⟨c2, rfl, ht'⟩ := listTail_reads ht
    obtain ⟨c, hts', hc'⟩ := token_reads hst (d := c1 ++ c2) (by rw [e1, List.append_assoc])
    refine ⟨c ++ (c1 ++ c2), by rw [hts']; simp, fun src' acc' r' hr => ?_⟩
    obtain ⟨q', h1, h2⟩ := hc' r' hr
    obtain ⟨x', hx''⟩ := hx' src' (c2 ++ r') (hr.append c2)
    rw [List.append_assoc, plain_listTail_comma h1 hc, h2, List.append_assoc, hx'']
    exact ht' src' _ r' hr
  · rw [plain_listTail_stop fun t q hst hc' => hc ⟨t, q, hst, hc'⟩] at h
    obtain ⟨-, rfl⟩ := Prod.mk.inj (Except.ok.inj h)
    refine ⟨[], rfl, fun src' acc' r' hr => ⟨acc', ?_⟩⟩
    rw [List.nil_append, plain_listTail_stop fun t q' hst hc' => ?_]
    obtain ⟨q, hq⟩ := hr.symm.skip.cons_eq hst
    exact hc ⟨t, q, hq, hc'⟩
termination_by ts.length

theorem parseSelectorList_reads {src : List Char} {ts r : List Token} {xs : List Selector.Complex}
    (h : plain (parseSelectorList src ts) = .ok (xs, r)) :
    ∃ c, ts = c ++ r ∧ ∀ src' r', Agree r r' → ∃ xs', plain (parseSelectorList src' (c ++ r')) = .ok (xs', r') := by
  rw [plain_parseSelectorList] at h
  obtain ⟨⟨x, r1⟩, hx, ht⟩ := bind_eq_ok h
  obtain ⟨c1, rfl, hx'⟩ := parseComplex_reads hx
  obtain ⟨c2, rfl, ht'⟩ := listTail_reads ht
  refine ⟨c1 ++ c2, by rw [List.append_assoc], fun src' r' hr => ?_⟩
  obtain ⟨x', hx''⟩ := hx' src' (c2 ++ r') (hr.append c2)
  rw [plain_parseSelectorList, List.append_assoc, hx'']
  exact ht' src' _ r' hr

/-! ## The logical layer reads up to where it stops -/

theorem length_lt_of_skipSpace {ts q : List Token} {t : Token} (h : skipSpace ts = t :: q) :
    q.length < ts.length := by
  have := length_skipSpace_le ts
  rw [h, List.length_cons] at this
  omega

mutual

theorem parseOr_reads {room : Nat} {src : List Char} {ts r : List Token} {e : Expr}
    (h : plain (parseOr room src ts) = .ok (e, r)) :
    ∃ c, ts = c ++ r ∧ ∀ src' r', Agree r r' → ∃ e', plain (parseOr room src' (c ++ r')) = .ok (e', r') := by
  rw [plain_parseOr] at h
  obtain ⟨⟨l, r1⟩, hl, ht⟩ := bind_eq_ok h
  obtain ⟨c1, e1, hl'⟩ := parseAnd_reads hl
  have hlen : r1.length ≤ ts.length := by rw [e1, List.length_append]; omega
  obtain ⟨c2, rfl, ht'⟩ := orTail_reads ht
  refine ⟨c1 ++ c2, by rw [e1, List.append_assoc], fun src' r' hr => ?_⟩
  obtain ⟨l', hl''⟩ := hl' src' (c2 ++ r') (hr.append c2)
  rw [plain_parseOr, List.append_assoc, hl'']
  exact ht' src' l' r' hr
termination_by 6 * ts.length + 5

theorem orTail_reads {room : Nat} {src : List Char} {acc e : Expr} {ts r : List Token}
    (h : plain (orTail room src acc ts) = .ok (e, r)) :
    ∃ c, ts = c ++ r ∧ ∀ src' acc' r', Agree r r' →
      ∃ e', plain (orTail room src' acc' (c ++ r')) = .ok (e', r') := by
  rw [plain_orTail] at h
  rcases hm : (matchKeyword "or" ts).map Subtype.val with _ | r0
  · rw [hm] at h
    obtain ⟨-, rfl⟩ := Prod.mk.inj (Except.ok.inj h)
    refine ⟨[], rfl, fun src' acc' r' hr => ⟨acc', ?_⟩⟩
    rw [List.nil_append, plain_orTail, hr.matchKeyword_none hm]
  · rw [hm] at h
    obtain ⟨k, q, hst, hk, rfl⟩ := matchKeyword_val_eq_some.mp hm
    obtain ⟨⟨x, r1⟩, hx, ht⟩ := bind_eq_ok h
    have hlen0 : (skipSpace q).length < ts.length :=
      Nat.lt_of_le_of_lt (length_skipSpace_le q) (length_lt_of_skipSpace hst)
    obtain ⟨c1, e1, hx'⟩ := parseAnd_reads hx
    have hlen1 : r1.length < ts.length := by
      rw [e1, List.length_append] at hlen0
      omega
    obtain ⟨c2, rfl, ht'⟩ := orTail_reads ht
    obtain ⟨c, hts, hc⟩ := matchKeyword_reads hst hk (d := c1 ++ c2) (by rw [e1, List.append_assoc])
    refine ⟨c ++ (c1 ++ c2), by rw [hts]; simp, fun src' acc' r' hr => ?_⟩
    obtain ⟨x', hx''⟩ := hx' src' (c2 ++ r') (hr.append c2)
    rw [List.append_assoc, plain_orTail, hc r' hr]
    simp only
    rw [List.append_assoc, hx'']
    exact ht' src' _ r' hr
termination_by 6 * ts.length + 4

theorem parseAnd_reads {room : Nat} {src : List Char} {ts r : List Token} {e : Expr}
    (h : plain (parseAnd room src ts) = .ok (e, r)) :
    ∃ c, ts = c ++ r ∧ ∀ src' r', Agree r r' → ∃ e', plain (parseAnd room src' (c ++ r')) = .ok (e', r') := by
  rw [plain_parseAnd] at h
  obtain ⟨⟨l, r1⟩, hl, ht⟩ := bind_eq_ok h
  obtain ⟨c1, e1, hl'⟩ := parseNot_reads hl
  have hlen : r1.length ≤ ts.length := by rw [e1, List.length_append]; omega
  obtain ⟨c2, rfl, ht'⟩ := andTail_reads ht
  refine ⟨c1 ++ c2, by rw [e1, List.append_assoc], fun src' r' hr => ?_⟩
  obtain ⟨l', hl''⟩ := hl' src' (c2 ++ r') (hr.append c2)
  rw [plain_parseAnd, List.append_assoc, hl'']
  exact ht' src' l' r' hr
termination_by 6 * ts.length + 3

theorem andTail_reads {room : Nat} {src : List Char} {acc e : Expr} {ts r : List Token}
    (h : plain (andTail room src acc ts) = .ok (e, r)) :
    ∃ c, ts = c ++ r ∧ ∀ src' acc' r', Agree r r' →
      ∃ e', plain (andTail room src' acc' (c ++ r')) = .ok (e', r') := by
  rw [plain_andTail] at h
  rcases hm : (matchKeyword "and" ts).map Subtype.val with _ | r0
  · rw [hm] at h
    obtain ⟨-, rfl⟩ := Prod.mk.inj (Except.ok.inj h)
    refine ⟨[], rfl, fun src' acc' r' hr => ⟨acc', ?_⟩⟩
    rw [List.nil_append, plain_andTail, hr.matchKeyword_none hm]
  · rw [hm] at h
    obtain ⟨k, q, hst, hk, rfl⟩ := matchKeyword_val_eq_some.mp hm
    obtain ⟨⟨x, r1⟩, hx, ht⟩ := bind_eq_ok h
    have hlen0 : (skipSpace q).length < ts.length :=
      Nat.lt_of_le_of_lt (length_skipSpace_le q) (length_lt_of_skipSpace hst)
    obtain ⟨c1, e1, hx'⟩ := parseNot_reads hx
    have hlen1 : r1.length < ts.length := by
      rw [e1, List.length_append] at hlen0
      omega
    obtain ⟨c2, rfl, ht'⟩ := andTail_reads ht
    obtain ⟨c, hts, hc⟩ := matchKeyword_reads hst hk (d := c1 ++ c2) (by rw [e1, List.append_assoc])
    refine ⟨c ++ (c1 ++ c2), by rw [hts]; simp, fun src' acc' r' hr => ?_⟩
    obtain ⟨x', hx''⟩ := hx' src' (c2 ++ r') (hr.append c2)
    rw [List.append_assoc, plain_andTail, hc r' hr]
    simp only
    rw [List.append_assoc, hx'']
    exact ht' src' _ r' hr
termination_by 6 * ts.length + 2

theorem parseNot_reads {room : Nat} {src : List Char} {ts r : List Token} {e : Expr}
    (h : plain (parseNot room src ts) = .ok (e, r)) :
    ∃ c, ts = c ++ r ∧ ∀ src' r', Agree r r' → ∃ e', plain (parseNot room src' (c ++ r')) = .ok (e', r') := by
  rw [plain_parseNot] at h
  rcases hm : (matchKeyword "not" ts).map Subtype.val with _ | r0
  · rw [hm] at h
    obtain ⟨c, rfl, hp⟩ := parsePrimary_reads h
    refine ⟨c, rfl, fun src' r' hr => ?_⟩
    rw [plain_parseNot, (hr.append c).matchKeyword_none hm]
    exact hp src' r' hr
  · rw [hm] at h
    obtain ⟨k, q, hst, hk, rfl⟩ := matchKeyword_val_eq_some.mp hm
    have hlen0 : (skipSpace q).length < ts.length :=
      Nat.lt_of_le_of_lt (length_skipSpace_le q) (length_lt_of_skipSpace hst)
    -- with no room left the parser stops; otherwise it reads the operand with one less
    cases room with
    | zero => cases h
    | succ room =>
      obtain ⟨⟨x, r1⟩, hx, h⟩ := bind_eq_ok h
      obtain ⟨-, rfl⟩ := Prod.mk.inj (Except.ok.inj h)
      obtain ⟨c1, e1, hx'⟩ := parseNot_reads hx
      obtain ⟨c, hts, hc⟩ := matchKeyword_reads hst hk e1
      refine ⟨c ++ c1, by rw [hts, List.append_assoc], fun src' r' hr => ?_⟩
      obtain ⟨x', hx''⟩ := hx' src' r' hr
      rw [List.append_assoc, plain_parseNot, hc r' hr]
      simp only
      rw [hx'']
      exact ⟨_, rfl⟩
termination_by 6 * ts.length + 1

theorem parsePrimary_reads {room : Nat} {src : List Char} {ts r : List Token} {e : Expr}
    (h : plain (parsePrimary room src ts) = .ok (e, r)) :
    ∃ c, ts = c ++ r ∧ ∀ src' r', Agree r r' → ∃ e', plain (parsePrimary room src' (c ++ r')) = .ok (e', r') := by
  rcases hst : skipSpace ts with _ | ⟨t, q⟩
  · obtain ⟨err, herr⟩ : ∃ err, parsePrimary room src ts = .error (.invalid err) := parsePrimary_refused
      fun t r h => by rw [hst] at h; cases h
    rw [herr] at h
    cases h
  · have hlen : q.length < ts.length := length_lt_of_skipSpace hst
    obtain ⟨ws, hts, hws⟩ := skipSpace_cons_reads hst
    by_cases ho : t.kind = .openParen
    · -- a group: the expression inside and the `)` after it
      rw [plain_parsePrimary_group hst ho] at h
      split at h
      · cases h
      · next hroom =>
        obtain ⟨⟨x, r1⟩, hx, hc⟩ := bind_eq_ok h
        obtain ⟨u, hu, hcu, -⟩ := closeGroup_eq_ok hc
        change skipSpace r1 = u :: r at hu
        obtain ⟨c1, rfl, hx'⟩ := parseOr_reads hx
        obtain ⟨ws2, hr1, hws2⟩ := skipSpace_cons_reads hu
        refine ⟨ws ++ t :: (c1 ++ ws2 ++ [u]), by rw [hts, hr1]; simp, fun src' r' hr => ?_⟩
        have hu' : u.kind ≠ .space := by simp [hcu]
        obtain ⟨x', hx''⟩ := hx' src' (ws2 ++ u :: r') (by rw [hr1]; exact agree_of_token hu')
        rw [show ws ++ t :: (c1 ++ ws2 ++ [u]) ++ r' = ws ++ t :: (c1 ++ (ws2 ++ u :: r')) by simp,
          plain_parsePrimary_group (hws _) ho, if_neg hroom, hx'']
        simp only [Except.bind, closeGroup, hws2, if_pos hcu]
        exact ⟨_, rfl⟩
    · by_cases hl : t.kind.startsCompound = true ∨ t.kind = .child
      · rw [plain_parsePrimary_list hst ho hl] at h
        split at h
        · next cs r2 heq =>
          obtain ⟨-, rfl⟩ := Prod.mk.inj (Except.ok.inj h)
          obtain ⟨c1, e1, hl'⟩ := parseSelectorList_reads heq
          refine ⟨ws ++ c1, by rw [hts, e1, List.append_assoc], fun src' r' hr => ?_⟩
          obtain ⟨q', hq'⟩ := (hr.append c1).cons_eq e1.symm
          obtain ⟨cs', hcs⟩ := hl' src' r' hr
          rw [List.append_assoc, hq', plain_parsePrimary_list (hws q') ho hl, ← hq', hcs]
          exact ⟨_, rfl⟩
        · cases h
      · obtain ⟨err, herr⟩ : ∃ err, parsePrimary room src ts = .error (.invalid err) := parsePrimary_refused
          fun t' r' h' => by
            rw [hst, List.cons.injEq] at h'
            obtain ⟨rfl, rfl⟩ := h'
            simp only [not_or, Bool.not_eq_true] at hl
            exact ⟨ho, hl.1, hl.2⟩
        rw [herr] at h
        cases h
termination_by 6 * ts.length

end

end Stencil.Selector

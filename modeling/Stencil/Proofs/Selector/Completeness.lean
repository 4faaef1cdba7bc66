import Mathlib
import Stencil.Proofs.Selector.Descent
/-!
# What the grammar derives, the parser reads

A derivation followed by tokens that cannot continue it is read by the parser, with the tree of
the derivation and the same tokens left over. For the logical layer the answer also depends on
the room: the parser gives the tree when the expression's stack use fits the room, and stops
with `tooDeep` when it does not.

The parser decides each step on the first token after white space, so the logical layer is
stated for any stream that starts, after white space, where the derivation's stream does.

* `CompoundRel.parse`, `ComplexTail.parse`, `ComplexRel.parse`, `ListTail.parse`,
  `ListRel.parse` : the selector layer.
* `OrRel.parse` … `PrimRel.parse` : the logical layer, by recursion on the derivation.
-/

namespace Stencil.Selector

open Stencil.Text

/-! ## Token kinds -/

theorem TokenKind.startsCompound_iff {k : TokenKind} :
    k.startsCompound = true ↔ k = .star ∨ k = .ident ∨ k = .key ∨ k = .hash ∨ k = .attr ∨ k = .pseudo := by
  cases k <;> simp [TokenKind.startsCompound]

theorem TokenKind.startsCompound_of_continues {k : TokenKind} (h : k.continuesCompound = true) :
    k.startsCompound = true := by
  cases k <;> simp_all [TokenKind.startsCompound, TokenKind.continuesCompound]

theorem TokenKind.ne_of_startsCompound {k : TokenKind} (h : k.startsCompound = true) :
    k ≠ .space ∧ k ≠ .openParen ∧ k ≠ .closeParen ∧ k ≠ .comma ∧ k ≠ .child ∧ k ≠ .sibling ∧
      k ≠ .keyword ∧ k ≠ .eof := by
  rcases TokenKind.startsCompound_iff.mp h with h | h | h | h | h | h <;> simp [h]

theorem takeWhile_eq_nil_of_head {α : Type} {p : α → Bool} {l : List α} (h : ∀ a ∈ l.head?, p a = false) :
    l.takeWhile p = [] := by
  cases l with
  | nil => rfl
  | cons a l => simp [h a rfl]

theorem dropWhile_eq_self_of_head {α : Type} {p : α → Bool} {l : List α} (h : ∀ a ∈ l.head?, p a = false) :
    l.dropWhile p = l := by
  cases l with
  | nil => rfl
  | cons a l => simp [h a rfl]

/-! ## Where derivations start and what may follow them -/

theorem CompoundRel.head {src : List Char} {ts rest : List Token} {k : Compound} (h : CompoundRel src ts k rest) :
    ∃ t r, ts = t :: r ∧ t.kind.startsCompound = true := by
  cases h with
  | named ht _ =>
    refine ⟨_, _, rfl, TokenKind.startsCompound_iff.mpr ?_⟩
    rcases ht with h | h <;> simp [h]
  | bare ht _ => exact ⟨_, _, rfl, TokenKind.startsCompound_of_continues ht⟩

theorem ComplexRel.head {src : List Char} {ts rest : List Token} {x : Selector.Complex}
    (h : ComplexRel src ts x rest) : ∃ t r, ts = t :: r ∧ (t.kind.startsCompound = true ∨ t.kind = .child) := by
  cases h with
  | absolute hk _ =>
    obtain ⟨t, r, rfl, ht⟩ := hk.head
    exact ⟨t, r, rfl, .inl ht⟩
  | relative hg _ _ _ => exact ⟨_, _, rfl, .inr hg⟩

theorem ListRel.head {src : List Char} {ts rest : List Token} {cs : List Selector.Complex}
    (h : ListRel src ts cs rest) : ∃ t r, ts = t :: r ∧ (t.kind.startsCompound = true ∨ t.kind = .child) := by
  cases h with
  | mk hx _ => exact hx.head

theorem kind_ne_space_of_list_head {t : Token} (h : t.kind.startsCompound = true ∨ t.kind = .child) :
    t.kind ≠ .space := by
  rcases h with h | h
  · exact (TokenKind.ne_of_startsCompound h).1
  · simp [h]

theorem ComplexTail.noPart {src : List Char} {ts rest : List Token} {more : List (Combinator × Compound)}
    (h : ComplexTail src ts more rest) (hr : Ahead ClosesComplex rest) :
    ∀ u ∈ ts.head?, u.kind.continuesCompound = false := by
  intro u hu
  cases h with
  | stop =>
    obtain ⟨ws, v, r, rfl, hws, hv⟩ := hr
    cases ws with
    | nil =>
      simp only [List.nil_append, List.head?_cons, Option.mem_def, Option.some.injEq] at hu
      subst hu
      rcases closesComplex_kind hv with h | h | h | h <;> simp [h, TokenKind.continuesCompound]
    | cons w ws =>
      simp only [List.cons_append, List.head?_cons, Option.mem_def, Option.some.injEq] at hu
      subst hu
      simp [hws _ List.mem_cons_self, TokenKind.continuesCompound]
  | joined h1 hc _ _ _ =>
    cases h1 with
    | none =>
      simp only [List.head?_cons, Option.mem_def, Option.some.injEq] at hu
      subst hu
      rcases hc with h | h <;> simp [h, TokenKind.continuesCompound]
    | one _ hw =>
      simp only [List.head?_cons, Option.mem_def, Option.some.injEq] at hu
      subst hu
      simp [hw, TokenKind.continuesCompound]
  | descendant hw _ _ =>
    simp only [List.head?_cons, Option.mem_def, Option.some.injEq] at hu
    subst hu
    simp [hw, TokenKind.continuesCompound]

theorem ListTail.ahead {src : List Char} {ts rest : List Token} {more : List Selector.Complex}
    (h : ListTail src ts more rest) (hr : Ahead ClosesNot rest) : Ahead ClosesComplex ts := by
  cases h with
  | stop => exact hr.mono fun _ => closesNot_closesComplex
  | comma h1 hc _ _ _ =>
    cases h1 with
    | none => exact ⟨[], _, _, rfl, by simp, .inr hc⟩
    | one _ hw => exact ⟨[_], _, _, rfl, by simp [hw], .inr hc⟩

theorem ahead_keyword {p : Token → Prop} {ts r : List Token} {k : Token} (h : OptSpace ts (k :: r)) (hk : p k) :
    Ahead p ts := by
  cases h with
  | none => exact ⟨[], k, r, rfl, by simp, hk⟩
  | one _ hw => exact ⟨[_], k, r, rfl, by simp [hw], hk⟩

theorem OrTail.ahead {src : List Char} {acc e : Expr} {ts rest : List Token} (h : OrTail src acc ts e rest)
    (hr : Ahead ClosesOr rest) : Ahead ClosesAnd ts := by
  cases h with
  | stop => exact hr.mono fun _ => closesOr_closesAnd
  | more h1 hk _ _ _ => exact ahead_keyword h1 (.inr hk)

theorem AndTail.ahead {src : List Char} {acc e : Expr} {ts rest : List Token} (h : AndTail src acc ts e rest)
    (hr : Ahead ClosesAnd rest) : Ahead ClosesNot ts := by
  cases h with
  | stop => exact hr.mono fun _ => closesAnd_closesNot
  | more h1 hk _ _ _ => exact ahead_keyword h1 (.inr hk)

/-! ## The selector layer -/

/-- A compound selector followed by a token that is no part is read whole. -/
theorem CompoundRel.parse {src : List Char} {ts rest : List Token} {k : Compound} (h : CompoundRel src ts k rest)
    (hr : ∀ u ∈ rest.head?, u.kind.continuesCompound = false) :
    plain (parseCompound src ts) = .ok (k, rest) := by
  obtain ⟨t, r, hts, ht⟩ := h.head
  cases h with
  | named _ hparts =>
    rw [List.cons_append] at hts ⊢
    obtain ⟨rfl, -⟩ := List.cons.inj hts
    rw [plain_parseCompound ht, List.takeWhile_append_of_pos hparts, List.dropWhile_append_of_pos hparts,
      takeWhile_eq_nil_of_head hr, dropWhile_eq_self_of_head hr, List.append_nil]
  | bare _ hparts =>
    rw [List.cons_append] at hts ⊢
    obtain ⟨rfl, -⟩ := List.cons.inj hts
    rw [plain_parseCompound ht, List.takeWhile_append_of_pos hparts, List.dropWhile_append_of_pos hparts,
      takeWhile_eq_nil_of_head hr, dropWhile_eq_self_of_head hr, List.append_nil]

theorem ComplexTail.parse {src : List Char} {ts rest : List Token} {more : List (Combinator × Compound)}
    (h : ComplexTail src ts more rest) (hr : Ahead ClosesComplex rest) (acc : List (Combinator × Compound)) :
    plain (complexTail src acc ts) = .ok (acc ++ more, rest) := by
  induction h generalizing acc with
  | stop ts =>
    rw [List.append_nil]
    apply plain_complexTail_stop
    intro t r hs
    obtain ⟨u, r', hu, hcl⟩ := hr.skipSpace_eq fun _ => ClosesComplex.ne_space
    rw [hu] at hs
    obtain ⟨rfl, -⟩ := List.cons.inj hs
    exact ⟨hcl.not_combinator, fun h => by simp [hcl.not_startsCompound] at h⟩
  | @joined ts ts1 ts2 ts3 rest c k more h1 hc h2 hk hmore ih =>
    have hcs : c.kind ≠ .space := by rcases hc with h | h <;> simp [h]
    obtain ⟨t, r, rfl, ht⟩ := hk.head
    have hskip : skipSpace ts1 = t :: r := by
      rw [h2.skipSpace_eq', skipSpace_cons_of_ne (TokenKind.ne_of_startsCompound ht).1]
    rw [plain_complexTail_joined (h1.skipSpace_eq hcs) hc, hskip, hk.parse (hmore.noPart hr)]
    simp only [Except.bind, ih hr, List.append_assoc, List.singleton_append]
  | @descendant w ts ts1 rest k more hw hk hmore ih =>
    obtain ⟨t, r, rfl, ht⟩ := hk.head
    have hne := TokenKind.ne_of_startsCompound ht
    have hskip : skipSpace (w :: t :: r) = t :: r := by
      rw [skipSpace_cons_space hw, skipSpace_cons_of_ne hne.1]
    rw [plain_complexTail_descendant hskip (by simp [hne.2.2.2.2.1, hne.2.2.2.2.2.1]) (by simp [hskip]) ht,
      hk.parse (hmore.noPart hr)]
    simp only [Except.bind, ih hr, List.append_assoc, List.singleton_append]

theorem ComplexRel.parse {src : List Char} {ts rest : List Token} {x : Selector.Complex}
    (h : ComplexRel src ts x rest) (hr : Ahead ClosesComplex rest) :
    plain (parseComplex src ts) = .ok (x, rest) := by
  cases h with
  | absolute hk hmore =>
    obtain ⟨t, r, rfl, ht⟩ := hk.head
    have hne := TokenKind.ne_of_startsCompound ht
    rw [plain_parseComplex, afterLead_of_not_child (by simp [current, hne.2.2.2.2.1]), hk.parse (hmore.noPart hr)]
    simp [Except.bind, hmore.parse hr, current, hne.2.2.2.2.1]
  | @relative g ts ts1 ts2 rest k more hg hs hk hmore =>
    obtain ⟨t, r, rfl, ht⟩ := hk.head
    have hne := TokenKind.ne_of_startsCompound ht
    have hlead : (afterLead (g :: ts)).1 = t :: r := by
      rw [afterLead_of_child (by simp [current, hg]), advance, if_neg (by simp [hg]), hs.skipSpace_eq',
        skipSpace_cons_of_ne hne.1]
    rw [plain_parseComplex, hlead, hk.parse (hmore.noPart hr)]
    simp [Except.bind, hmore.parse hr, current, hg]

theorem ListTail.parse {src : List Char} {ts rest : List Token} {more : List Selector.Complex}
    (h : ListTail src ts more rest) (hr : Ahead ClosesNot rest) (acc : List Selector.Complex) :
    plain (listTail src acc ts) = .ok (acc ++ more, rest) := by
  induction h generalizing acc with
  | stop ts =>
    rw [List.append_nil]
    apply plain_listTail_stop
    intro t r hs
    obtain ⟨u, r', hu, hcl⟩ := hr.skipSpace_eq fun _ h => (closesNot_closesComplex h).ne_space
    rw [hu] at hs
    obtain ⟨rfl, -⟩ := List.cons.inj hs
    rcases closesComplex_kind (closesNot_closesComplex hcl) with h | h | h | h
    · simp [h]
    · simp [h]
    · simp [h]
    · unfold ClosesNot ClosesAnd ClosesOr Token.IsKeyword at hcl
      rcases hcl with ((h' | h') | ⟨h', -⟩) | ⟨h', -⟩ <;> simp_all
  | @comma ts ts1 ts2 ts3 rest c x more h1 hc h2 hx hmore ih =>
    obtain ⟨t, r, rfl, ht⟩ := hx.head
    have hskip : skipSpace ts1 = t :: r := by
      rw [h2.skipSpace_eq', skipSpace_cons_of_ne (kind_ne_space_of_list_head ht)]
    rw [plain_listTail_comma (h1.skipSpace_eq (by simp [hc])) hc, hskip, hx.parse (hmore.ahead hr)]
    simp only [Except.bind, ih hr, List.append_assoc, List.singleton_append]

theorem ListRel.parse {src : List Char} {ts rest : List Token} {cs : List Selector.Complex}
    (h : ListRel src ts cs rest) (hr : Ahead ClosesNot rest) :
    plain (parseSelectorList src ts) = .ok (cs, rest) := by
  cases h with
  | mk hx hmore =>
    rw [plain_parseSelectorList, hx.parse (hmore.ahead hr)]
    simp [Except.bind, hmore.parse hr]

/-! ## The logical layer -/

theorem Token.IsKeyword.ne_space {w : String} {k : Token} (h : k.IsKeyword w) : k.kind ≠ .space := by
  simp [h.1]

theorem ClosesOr.not_keyword {u : Token} (h : ClosesOr u) (w : String) : ¬u.IsKeyword w := by
  rintro ⟨hk, -⟩
  rcases h with h | h <;> simp [h] at hk

theorem ClosesAnd.not_and {u : Token} (h : ClosesAnd u) : ¬u.IsKeyword "and" := by
  rcases h with h | ⟨-, h⟩
  · exact h.not_keyword _
  · rintro ⟨-, h'⟩; rw [h] at h'; exact absurd h' (by decide)

theorem PrimRel.skipSpace_eq {src : List Char} {ts rest : List Token} {e : Expr} (h : PrimRel src ts e rest) :
    ∃ t r, skipSpace ts = t :: r ∧ (t.kind = .openParen ∨ t.kind.startsCompound = true ∨ t.kind = .child) := by
  cases h with
  | group h1 ho _ _ _ => exact ⟨_, _, h1.skipSpace_eq (by simp [ho]), .inl ho⟩
  | selectors h1 hl =>
    obtain ⟨t, r, rfl, ht⟩ := hl.head
    exact ⟨t, r, by rw [h1.skipSpace_eq', skipSpace_cons_of_ne (kind_ne_space_of_list_head ht)], .inr ht⟩

theorem PrimRel.not_keyword {src : List Char} {ts rest : List Token} {e : Expr} (h : PrimRel src ts e rest)
    (w : String) : ∀ t r, skipSpace ts = t :: r → ¬t.IsKeyword w := by
  rintro t r hs ⟨hk, -⟩
  obtain ⟨t', r', hs', ht⟩ := h.skipSpace_eq
  rw [hs] at hs'
  obtain ⟨rfl, -⟩ := List.cons.inj hs'
  rcases ht with ht | ht | ht
  · simp [ht] at hk
  · exact (TokenKind.ne_of_startsCompound ht).2.2.2.2.2.2.1 hk
  · simp [ht] at hk

theorem OrTail.stackUse_le {src : List Char} {acc e : Expr} {ts rest : List Token} :
    OrTail src acc ts e rest → acc.stackUse ≤ e.stackUse
  | .stop => Nat.le_refl _
  | .more _ _ _ _ ht => le_trans (le_max_left _ _) (OrTail.stackUse_le ht)

theorem AndTail.stackUse_le {src : List Char} {acc e : Expr} {ts rest : List Token} :
    AndTail src acc ts e rest → acc.stackUse ≤ e.stackUse
  | .stop => Nat.le_refl _
  | .more _ _ _ _ ht => le_trans (le_max_left _ _) (AndTail.stackUse_le ht)

abbrev fits (e : Expr) (rest : List Token) (room : Nat) : Except ParseError (Expr × List Token) :=
  if e.stackUse ≤ room then .ok (e, rest) else .error .tooDeep

mutual

theorem OrRel.parse {src : List Char} {ts rest : List Token} {e : Expr} (h : OrRel src ts e rest)
    (hr : Ahead ClosesOr rest) (room : Nat) {ts' : List Token} (hts : skipSpace ts' = skipSpace ts) :
    plain (parseOr room src ts') = fits e rest room :=
  match h with
  | .mk (l := l) hl ht => by
    rw [plain_parseOr, AndRel.parse hl (OrTail.ahead ht hr) room hts]
    by_cases hle : l.stackUse ≤ room
    · simp only [fits, if_pos hle]
      exact OrTail.parse ht hr room hle
    · simp only [fits, if_neg hle, if_neg fun h => hle (le_trans (OrTail.stackUse_le ht) h)]
      rfl

theorem OrTail.parse {src : List Char} {acc e : Expr} {ts rest : List Token} (h : OrTail src acc ts e rest)
    (hr : Ahead ClosesOr rest) (room : Nat) (hacc : acc.stackUse ≤ room) :
    plain (orTail room src acc ts) = fits e rest room :=
  match h with
  | .stop => by
    obtain ⟨u, r, hu, hcl⟩ := hr.skipSpace_eq fun _ h => (closesNot_closesComplex
      (closesAnd_closesNot (closesOr_closesAnd h))).ne_space
    have hno : matchKeyword "or" ts = none :=
      matchKeyword_eq_none_iff.mpr fun t r' hs => by
        rw [hu] at hs
        obtain ⟨rfl, -⟩ := List.cons.inj hs
        exact hcl.not_keyword _
    rw [plain_orTail, hno]
    simp [fits, hacc]
  | @OrTail.more _ _ r _ _ ts1 _ _ _ _ h1 hk h2 hand ht => by
    have hm : (matchKeyword "or" ts).map Subtype.val = some (skipSpace ts1) :=
      matchKeyword_val_eq_some.mpr ⟨_, ts1, h1.skipSpace_eq hk.ne_space, hk, rfl⟩
    rw [plain_orTail, hm]
    simp only
    rw [AndRel.parse hand (OrTail.ahead ht hr) room (by rw [skipSpace_skipSpace, h2.skipSpace_eq'])]
    by_cases hle : r.stackUse ≤ room
    · simp only [fits, if_pos hle]
      exact OrTail.parse ht hr room (max_le hacc hle)
    · simp only [fits, if_neg hle,
        if_neg fun h => hle (le_trans (le_max_right _ _) (le_trans (OrTail.stackUse_le ht) h))]
      rfl

theorem AndRel.parse {src : List Char} {ts rest : List Token} {e : Expr} (h : AndRel src ts e rest)
    (hr : Ahead ClosesAnd rest) (room : Nat) {ts' : List Token} (hts : skipSpace ts' = skipSpace ts) :
    plain (parseAnd room src ts') = fits e rest room :=
  match h with
  | .mk (l := l) hl ht => by
    rw [plain_parseAnd, NotRel.parse hl (AndTail.ahead ht hr) room hts]
    by_cases hle : l.stackUse ≤ room
    · simp only [fits, if_pos hle]
      exact AndTail.parse ht hr room hle
    · simp only [fits, if_neg hle, if_neg fun h => hle (le_trans (AndTail.stackUse_le ht) h)]
      rfl

theorem AndTail.parse {src : List Char} {acc e : Expr} {ts rest : List Token} (h : AndTail src acc ts e rest)
    (hr : Ahead ClosesAnd rest) (room : Nat) (hacc : acc.stackUse ≤ room) :
    plain (andTail room src acc ts) = fits e rest room :=
  match h with
  | .stop => by
    obtain ⟨u, r, hu, hcl⟩ := hr.skipSpace_eq fun _ h => (closesNot_closesComplex (closesAnd_closesNot h)).ne_space
    have hno : matchKeyword "and" ts = none :=
      matchKeyword_eq_none_iff.mpr fun t r' hs => by
        rw [hu] at hs
        obtain ⟨rfl, -⟩ := List.cons.inj hs
        exact hcl.not_and
    rw [plain_andTail, hno]
    simp [fits, hacc]
  | @AndTail.more _ _ r _ _ ts1 _ _ _ _ h1 hk h2 hnot ht => by
    have hm : (matchKeyword "and" ts).map Subtype.val = some (skipSpace ts1) :=
      matchKeyword_val_eq_some.mpr ⟨_, ts1, h1.skipSpace_eq hk.ne_space, hk, rfl⟩
    rw [plain_andTail, hm]
    simp only
    rw [NotRel.parse hnot (AndTail.ahead ht hr) room (by rw [skipSpace_skipSpace, h2.skipSpace_eq'])]
    by_cases hle : r.stackUse ≤ room
    · simp only [fits, if_pos hle]
      exact AndTail.parse ht hr room (max_le hacc hle)
    · simp only [fits, if_neg hle,
        if_neg fun h => hle (le_trans (le_max_right _ _) (le_trans (AndTail.stackUse_le ht) h))]
      rfl

theorem NotRel.parse {src : List Char} {ts rest : List Token} {e : Expr} (h : NotRel src ts e rest)
    (hr : Ahead ClosesNot rest) (room : Nat) {ts' : List Token} (hts : skipSpace ts' = skipSpace ts) :
    plain (parseNot room src ts') = fits e rest room :=
  match h with
  | @NotRel.not _ e' _ ts1 _ _ _ h1 hk h2 he => by
    have hm : (matchKeyword "not" ts').map Subtype.val = some (skipSpace ts1) :=
      matchKeyword_val_eq_some.mpr ⟨_, ts1, hts.trans (h1.skipSpace_eq hk.ne_space), hk, rfl⟩
    rw [plain_parseNot, hm]
    -- a `not` takes one of the room
    cases room with
    | zero => simp [Expr.stackUse]
    | succ room =>
      simp only
      rw [NotRel.parse he hr room (by rw [skipSpace_skipSpace, h2.skipSpace_eq'])]
      by_cases hle : e'.stackUse ≤ room
      · simp [fits, hle, Expr.stackUse, Except.bind]
      · simp [fits, hle, Expr.stackUse, Except.bind]
  | .primary hp => by
    have hno : matchKeyword "not" ts' = none :=
      matchKeyword_eq_none_iff.mpr fun t r hs => hp.not_keyword "not" t r (hts ▸ hs)
    rw [plain_parseNot, hno]
    exact PrimRel.parse hp hr room hts

theorem PrimRel.parse {src : List Char} {ts rest : List Token} {e : Expr} (h : PrimRel src ts e rest)
    (hr : Ahead ClosesNot rest) (room : Nat) {ts' : List Token} (hts : skipSpace ts' = skipSpace ts) :
    plain (parsePrimary room src ts') = fits e rest room :=
  match h with
  | @PrimRel.group _ e' _ ts1 _ _ _ c h1 ho he h2 hc => by
    rw [plain_parsePrimary_group (hts.trans (h1.skipSpace_eq (by simp [ho]))) ho]
    -- a group takes five of the room
    by_cases hroom : room < 5
    · rw [if_pos hroom, fits, if_neg (by simp only [Expr.stackUse]; omega)]
    · rw [if_neg hroom, OrRel.parse he (ahead_keyword h2 (.inl hc)) (room - 5) rfl]
      by_cases hle : e'.stackUse ≤ room - 5
      · simp only [fits, if_pos hle, if_pos (show e'.group.stackUse ≤ room by simp only [Expr.stackUse]; omega)]
        simp [Except.bind, closeGroup, h2.skipSpace_eq (by simp [hc]), hc]
      · simp only [fits, if_neg hle, if_neg (show ¬e'.group.stackUse ≤ room by simp only [Expr.stackUse]; omega)]
        rfl
  | @PrimRel.selectors _ _ _ ts1 _ h1 hl => by
    obtain ⟨t, r, rfl, ht⟩ := hl.head
    have hs : skipSpace ts' = t :: r := by
      rw [hts, h1.skipSpace_eq', skipSpace_cons_of_ne (kind_ne_space_of_list_head ht)]
    have ho : t.kind ≠ .openParen := by
      rcases ht with ht | ht
      · exact (TokenKind.ne_of_startsCompound ht).2.1
      · simp [ht]
    rw [plain_parsePrimary_list hs ho ht, hl.parse hr]
    simp [Expr.stackUse]

end

end Stencil.Selector

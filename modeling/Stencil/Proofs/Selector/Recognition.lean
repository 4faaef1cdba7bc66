import Mathlib
import Stencil.Proofs.Selector.Soundness
import Stencil.Select.Evaluate
/-!
# The parser decides the grammar, within its room

`parse room s` returns an expression exactly when `s` lexes to a stream that the grammar derives
with that expression's tree (`Sentence`) and the expression's stack use fits the room. A derivable
text that does not fit stops with `tooDeep`, and `tooDeep` comes only from a stream whose
parentheses and `not`s could take more than the room (`nestingOf`); every other failure is a
syntax error, lexical errors at position 0.

The room is real: the selector evaluation parses with `selectRoom`, and a selector nested in
three hundred pairs of parentheses stops there (`parse_nested_too_deep`).

* `nestingOf`, `parseOr_tooDeep` … `parsePrimary_tooDeep` : what running out of room needs.
* `parse_of_sentence`, `parse_ok_sentence` : whole texts.
* `parse_decides_grammar` : the parser against the grammar.
* `nestedText`, `parse_nestedText` : parentheses around parentheses.
-/

namespace Stencil.Selector

open Stencil.Text

/-! ## Running out of room -/

/-- The most room the descent can take on a stream: five for each `(` and one for each `not`. -/
def nestingOf (ts : List Token) : Nat :=
  5 * ts.countP (fun t => t.kind == .openParen) + ts.countP (fun t => t.kind == .keyword && t.text == "not")

theorem nestingOf_append (a b : List Token) : nestingOf (a ++ b) = nestingOf a + nestingOf b := by
  simp only [nestingOf, List.countP_append]
  ring

theorem Leaves.nestingOf_le {ts rest : List Token} (h : Leaves ts rest) : nestingOf rest ≤ nestingOf ts := by
  obtain ⟨pre, rfl, -⟩ := h
  rw [nestingOf_append]
  exact Nat.le_add_left _ _

theorem nestingOf_open {t : Token} {r : List Token} (h : t.kind = .openParen) :
    nestingOf (t :: r) = nestingOf r + 5 := by
  rw [← List.singleton_append, nestingOf_append]
  simp [nestingOf, h]
  omega

theorem nestingOf_not {t : Token} {r : List Token} (h : t.IsKeyword "not") :
    nestingOf (t :: r) = nestingOf r + 1 := by
  rw [← List.singleton_append, nestingOf_append]
  simp [nestingOf, h.1, h.2]
  omega

theorem bind_eq_error {ε α β : Type} {x : Except ε α} {f : α → Except ε β} {e : ε} (h : x.bind f = .error e) :
    x = .error e ∨ ∃ a, x = .ok a ∧ f a = .error e := by
  cases x with
  | error e' => exact .inl (by simpa [Except.bind] using h)
  | ok a => exact .inr ⟨a, rfl, h⟩

theorem closeGroup_ne_tooDeep (e : Expr) (ts : List Token) : closeGroup e ts ≠ .error .tooDeep := by
  unfold closeGroup
  split
  · split <;> simp
  · simp

mutual

theorem parseOr_tooDeep {room : Nat} {src : List Char} {ts : List Token} (hs : SingleSpaced ts)
    (h : plain (parseOr room src ts) = .error .tooDeep) : room < nestingOf ts := by
  rw [plain_parseOr] at h
  rcases bind_eq_error h with h | ⟨⟨l, r⟩, hl, ht⟩
  · exact parseAnd_tooDeep hs h
  · have hA := parseAnd_sound hs hl
    have hlen := hA.leaves.length_le
    exact Nat.lt_of_lt_of_le (orTail_tooDeep (hs.rest hA.leaves) ht) hA.leaves.nestingOf_le
termination_by 6 * ts.length + 5

theorem orTail_tooDeep {room : Nat} {src : List Char} {acc : Expr} {ts : List Token} (hs : SingleSpaced ts)
    (h : plain (orTail room src acc ts) = .error .tooDeep) : room < nestingOf ts := by
  rw [plain_orTail] at h
  rcases hm : (matchKeyword "or" ts).map Subtype.val with _ | r'
  · rw [hm] at h
    cases h
  · rw [hm] at h
    obtain ⟨k, r0, hst, hk, rfl⟩ := matchKeyword_val_eq_some.mp hm
    obtain ⟨hopt, -, hlen0⟩ := hs.keyword hst hk
    have hl0 : Leaves ts (skipSpace r0) := hopt.leaves.trans ((Leaves.head hk.ne_eof).trans (leaves_skipSpace r0))
    have hlen1 := (leaves_skipSpace r0).length_le
    rcases bind_eq_error h with h | ⟨⟨x, r1⟩, hx, ht⟩
    · exact Nat.lt_of_lt_of_le (parseAnd_tooDeep (hs.rest hl0) h) hl0.nestingOf_le
    · have hA := parseAnd_sound (hs.rest hl0) hx
      have hlen2 := hA.leaves.length_le
      exact Nat.lt_of_lt_of_le (orTail_tooDeep (hs.rest (hl0.trans hA.leaves)) ht) (hl0.trans hA.leaves).nestingOf_le
termination_by 6 * ts.length + 4

theorem parseAnd_tooDeep {room : Nat} {src : List Char} {ts : List Token} (hs : SingleSpaced ts)
    (h : plain (parseAnd room src ts) = .error .tooDeep) : room < nestingOf ts := by
  rw [plain_parseAnd] at h
  rcases bind_eq_error h with h | ⟨⟨l, r⟩, hl, ht⟩
  · exact parseNot_tooDeep hs h
  · have hN := parseNot_sound hs hl
    have hlen := hN.leaves.length_le
    exact Nat.lt_of_lt_of_le (andTail_tooDeep (hs.rest hN.leaves) ht) hN.leaves.nestingOf_le
termination_by 6 * ts.length + 3

theorem andTail_tooDeep {room : Nat} {src : List Char} {acc : Expr} {ts : List Token} (hs : SingleSpaced ts)
    (h : plain (andTail room src acc ts) = .error .tooDeep) : room < nestingOf ts := by
  rw [plain_andTail] at h
  rcases hm : (matchKeyword "and" ts).map Subtype.val with _ | r'
  · rw [hm] at h
    cases h
  · rw [hm] at h
    obtain ⟨k, r0, hst, hk, rfl⟩ := matchKeyword_val_eq_some.mp hm
    obtain ⟨hopt, -, hlen0⟩ := hs.keyword hst hk
    have hl0 : Leaves ts (skipSpace r0) := hopt.leaves.trans ((Leaves.head hk.ne_eof).trans (leaves_skipSpace r0))
    have hlen1 := (leaves_skipSpace r0).length_le
    rcases bind_eq_error h with h | ⟨⟨x, r1⟩, hx, ht⟩
    · exact Nat.lt_of_lt_of_le (parseNot_tooDeep (hs.rest hl0) h) hl0.nestingOf_le
    · have hN := parseNot_sound (hs.rest hl0) hx
      have hlen2 := hN.leaves.length_le
      exact Nat.lt_of_lt_of_le (andTail_tooDeep (hs.rest (hl0.trans hN.leaves)) ht) (hl0.trans hN.leaves).nestingOf_le
termination_by 6 * ts.length + 2

theorem parseNot_tooDeep {room : Nat} {src : List Char} {ts : List Token} (hs : SingleSpaced ts)
    (h : plain (parseNot room src ts) = .error .tooDeep) : room < nestingOf ts := by
  rw [plain_parseNot] at h
  rcases hm : (matchKeyword "not" ts).map Subtype.val with _ | r'
  · rw [hm] at h
    exact parsePrimary_tooDeep hs h
  · rw [hm] at h
    obtain ⟨k, r0, hst, hk, rfl⟩ := matchKeyword_val_eq_some.mp hm
    obtain ⟨hopt, hs0, hlen0⟩ := hs.keyword hst hk
    have hlen1 := (leaves_skipSpace r0).length_le
    -- the `not` itself takes one of the room
    have hcount : nestingOf r0 + 1 ≤ nestingOf ts := by
      rw [← nestingOf_not hk]
      exact hopt.leaves.nestingOf_le
    cases room with
    | zero => omega
    | succ room =>
      rcases bind_eq_error h with h | ⟨p, -, h⟩
      · have := parseNot_tooDeep (hs0.rest (leaves_skipSpace r0)) h
        have := (leaves_skipSpace r0).nestingOf_le
        omega
      · cases h
termination_by 6 * ts.length + 1

theorem parsePrimary_tooDeep {room : Nat} {src : List Char} {ts : List Token} (hs : SingleSpaced ts)
    (h : plain (parsePrimary room src ts) = .error .tooDeep) : room < nestingOf ts := by
  rcases hst : skipSpace ts with _ | ⟨t, r⟩
  · obtain ⟨err, herr⟩ : ∃ err, parsePrimary room src ts = .error (.invalid err) := parsePrimary_refused
      fun t r h => by rw [hst] at h; cases h
    rw [herr] at h
    cases h
  · have hopt : OptSpace ts (t :: r) := hst ▸ hs.optSpace_skipSpace
    have hlen : r.length < ts.length := by
      have := hopt.length_le
      simp only [List.length_cons] at this
      omega
    by_cases ho : t.kind = .openParen
    · -- the group itself takes five of the room
      have hcount : nestingOf r + 5 ≤ nestingOf ts := by
        rw [← nestingOf_open ho]
        exact hopt.leaves.nestingOf_le
      rw [plain_parsePrimary_group hst ho] at h
      split at h
      · omega
      · rcases bind_eq_error h with h | ⟨⟨x, r1⟩, -, hc⟩
        · have := parseOr_tooDeep (hs.rest (hopt.leaves.trans (.head (by simp [ho])))) h
          omega
        · exact absurd hc (closeGroup_ne_tooDeep x r1)
    · by_cases hl : t.kind.startsCompound = true ∨ t.kind = .child
      · rw [plain_parsePrimary_list hst ho hl] at h
        split at h <;> cases h
      · obtain ⟨err, herr⟩ : ∃ err, parsePrimary room src ts = .error (.invalid err) := parsePrimary_refused
          fun t' r' h' => by
            rw [hst, List.cons.injEq] at h'
            obtain ⟨rfl, rfl⟩ := h'
            simp only [not_or, Bool.not_eq_true] at hl
            exact ⟨ho, hl.1, hl.2⟩
        rw [herr] at h
        cases h
termination_by 6 * ts.length

end

/-! ## Whole texts -/

theorem parse_eq_of_tokenize {room : Nat} {s : String} {ts : List Token} (h : tokenize s = .ok ts) :
    parse room s =
      if (current (skipSpace ts)).kind = .eof then .error (.invalid ⟨0, .empty⟩)
      else (plain (parseOr room s.toList (skipSpace ts))).bind fun p =>
        if (current (skipSpace p.2)).kind = .eof then .ok p.1
        else .error (.invalid ⟨(current (skipSpace p.2)).pos, .unexpected (current (skipSpace p.2)).text⟩) := by
  rw [parse, h]
  simp only
  split
  · rfl
  · rcases parseOr room s.toList (skipSpace ts) with e | ⟨x, r, _⟩ <;> rfl

theorem NotRel.first {src : List Char} {ts rest : List Token} {e : Expr} (h : NotRel src ts e rest) :
    ∃ u r, skipSpace ts = u :: r ∧ u.kind ≠ .eof := by
  cases h with
  | not h1 hk _ _ => exact ⟨_, _, h1.skipSpace_eq hk.ne_space, hk.ne_eof⟩
  | primary hp =>
    obtain ⟨t, r, hs, ht⟩ := hp.skipSpace_eq
    refine ⟨t, r, hs, ?_⟩
    rcases ht with ht | ht | ht
    · simp [ht]
    · exact TokenKind.ne_eof_of_startsCompound ht
    · simp [ht]

theorem OrRel.first {src : List Char} {ts rest : List Token} {e : Expr} (h : OrRel src ts e rest) :
    ∃ u r, skipSpace ts = u :: r ∧ u.kind ≠ .eof := by
  obtain ⟨hl, -⟩ := h
  obtain ⟨hn, -⟩ := hl
  exact hn.first

theorem Leaves.ne_nil {body rest : List Token} {z : Token} (h : Leaves (body ++ [z]) rest)
    (hz : z.kind = .eof) : rest ≠ [] := by
  rintro rfl
  obtain ⟨pre, hpre, hne⟩ := h
  rw [List.append_nil] at hpre
  exact hne z (hpre ▸ List.mem_append_right _ (List.mem_singleton_self z)) hz

theorem eof_last {body pre r : List Token} {u z : Token} (hbody : ∀ t ∈ body, t.kind ≠ .eof)
    (h : pre ++ u :: r = body ++ [z]) (hu : u.kind = .eof) : r = [] := by
  rcases List.eq_nil_or_concat r with rfl | ⟨r', x, rfl⟩
  · rfl
  · rw [List.concat_eq_append, ← List.cons_append, ← List.append_assoc] at h
    have hbody' : pre ++ u :: r' = body := List.append_inj_left' h rfl
    exact absurd hu (hbody u (hbody' ▸ List.mem_append_right _ List.mem_cons_self))

/-- A derivable stream of a text: the parser returns its tree when it fits the room, and stops
with `tooDeep` when it does not. -/
theorem parse_of_sentence {room : Nat} {s : String} {ts : List Token} {e : Expr} (htok : tokenize s = .ok ts)
    (h : Sentence s.toList ts e) : parse room s = if e.stackUse ≤ room then .ok e else .error .tooDeep := by
  obtain ⟨ts1, ts2, t, h1, he, h2, ht⟩ := h
  obtain ⟨u, r, hu, hne⟩ := he.first
  have hcur : (current (skipSpace ts)).kind ≠ .eof := by
    rw [h1.skipSpace_eq', hu]
    exact hne
  have hend : skipSpace ts2 = [t] := h2.skipSpace_eq (by simp [ht])
  rw [parse_eq_of_tokenize htok, if_neg hcur,
    OrRel.parse he (ahead_keyword h2 (.inr ht)) room (by rw [skipSpace_skipSpace, h1.skipSpace_eq'])]
  by_cases hle : e.stackUse ≤ room
  · simp [fits, hle, hend, current, ht, Except.bind]
  · simp [fits, hle, Except.bind]

/-- Whatever the parser returns, the text lexes to a stream the grammar derives with it. -/
theorem parse_ok_sentence {room : Nat} {s : String} {e : Expr} (h : parse room s = .ok e) :
    ∃ ts, tokenize s = .ok ts ∧ Sentence s.toList ts e := by
  cases htok : tokenize s with
  | error le => rw [parse, htok] at h; cases h
  | ok ts =>
    refine ⟨ts, rfl, ?_⟩
    obtain ⟨body, n, hts, hbody, hss⟩ := tokenize_shape htok
    rw [parse_eq_of_tokenize htok] at h
    split at h
    · cases h
    · obtain ⟨⟨x, r⟩, hx, hfin⟩ := bind_eq_ok h
      split at hfin
      · next heof =>
        obtain rfl := Except.ok.inj hfin
        have hE := parseOr_sound (hss.rest (leaves_skipSpace ts)) hx
        have hl : Leaves ts (skipSpace r) := (leaves_skipSpace ts).trans (hE.leaves.trans (leaves_skipSpace r))
        have hl' : Leaves (body ++ [⟨.eof, "", n⟩]) (skipSpace r) := hts ▸ hl
        obtain ⟨u, rr, hu⟩ := List.exists_cons_of_ne_nil (hl'.ne_nil rfl)
        have hueof : u.kind = .eof := by rw [hu] at heof; exact heof
        obtain ⟨pre, hpre, -⟩ := hl'
        rw [hu] at hpre
        obtain rfl := eof_last hbody hpre.symm hueof
        exact ⟨_, r, u, hss.optSpace_skipSpace, hE, hu ▸ (hss.rest ((leaves_skipSpace ts).trans hE.leaves)).optSpace_skipSpace, hueof⟩
      · cases hfin

theorem parse_tooDeep_nesting {room : Nat} {s : String} (h : parse room s = .error .tooDeep) :
    ∃ ts, tokenize s = .ok ts ∧ room < nestingOf ts := by
  cases htok : tokenize s with
  | error le => rw [parse, htok] at h; cases h
  | ok ts =>
    refine ⟨ts, rfl, ?_⟩
    obtain ⟨-, -, -, -, hss⟩ := tokenize_shape htok
    rw [parse_eq_of_tokenize htok] at h
    split at h
    · cases h
    · rcases bind_eq_error h with h | ⟨p, -, hfin⟩
      · exact Nat.lt_of_lt_of_le (parseOr_tooDeep (hss.rest (leaves_skipSpace ts)) h) (leaves_skipSpace ts).nestingOf_le
      · split at hfin <;> cases hfin

/-- The parser decides the grammar of selector expressions within its room: it returns an
expression exactly when the text lexes to a stream the grammar derives with that expression's
tree and the expression fits the room; a derivable text that does not fit stops with `tooDeep`;
a lexical error is refused at position 0; and `tooDeep` comes only from a stream that nests
deeper than the room. Every other failure is a syntax error. -/
theorem parse_decides_grammar (room : Nat) (s : String) :
    (∀ e, parse room s = .ok e ↔ ∃ ts, tokenize s = .ok ts ∧ Sentence s.toList ts e ∧ e.stackUse ≤ room) ∧
    (∀ ts e, tokenize s = .ok ts → Sentence s.toList ts e → room < e.stackUse → parse room s = .error .tooDeep) ∧
    (∀ le, tokenize s = .error le → parse room s = .error (.invalid ⟨0, .lexical le⟩)) ∧
    (parse room s = .error .tooDeep → ∃ ts, tokenize s = .ok ts ∧ room < nestingOf ts) := by
  refine ⟨fun e => ⟨fun h => ?_, fun ⟨ts, htok, hs, hle⟩ => ?_⟩, fun ts e htok hs hlt => ?_,
    fun le hle => ?_, parse_tooDeep_nesting⟩
  · -- an answer derives, and then it fits: otherwise the parser would have stopped
    obtain ⟨ts, htok, hs⟩ := parse_ok_sentence h
    have hfit : parse room s = if e.stackUse ≤ room then .ok e else .error .tooDeep :=
      parse_of_sentence htok hs
    rw [h] at hfit
    refine ⟨ts, htok, hs, ?_⟩
    by_contra hgt
    rw [if_neg hgt] at hfit
    cases hfit
  · rw [parse_of_sentence htok hs, if_pos hle]
  · rw [parse_of_sentence htok hs, if_neg (Nat.not_le.mpr hlt)]
  · rw [parse, hle]

/-! ## Parentheses around parentheses -/

theorem tokenizeFrom_single {c : Char} {r : List Char} {k : TokenKind} (hc : scanToken c r = some (k, 0))
    (hk : classify k (String.ofList [c]) = k) (hcp : (codePoints [c]).length = 1) (pos : Nat) (acc : Array Token) :
    tokenizeFrom (c :: r) pos acc = tokenizeFrom r (pos + 1) (acc.push ⟨k, String.ofList [c], pos⟩) := by
  rw [tokenizeFrom, hc]
  simp only [List.take_zero, List.drop_zero, hk, hcp]

theorem tokenizeFrom_replicate {c : Char} {k : TokenKind} (hc : ∀ r, scanToken c r = some (k, 0))
    (hk : classify k (String.ofList [c]) = k) (hcp : (codePoints [c]).length = 1) (n : Nat) (r : List Char)
    (pos : Nat) (acc : Array Token) :
    ∃ run : List Token, tokenizeFrom (List.replicate n c ++ r) pos acc = tokenizeFrom r (pos + n) ⟨acc.toList ++ run⟩ ∧
      run.length = n ∧ ∀ t ∈ run, t.kind = k := by
  induction n generalizing pos acc with
  | zero => exact ⟨[], by simp, rfl, by simp⟩
  | succ n ih =>
    obtain ⟨run, h, hlen, hrun⟩ := ih (pos + 1) (acc.push ⟨k, String.ofList [c], pos⟩)
    refine ⟨⟨k, String.ofList [c], pos⟩ :: run, ?_, by simp [hlen], ?_⟩
    · rw [List.replicate_succ, List.cons_append, tokenizeFrom_single (hc _) hk hcp, h]
      simp [Nat.add_assoc, Nat.add_comm 1 n]
    · intro t ht
      rcases List.mem_cons.mp ht with rfl | ht
      · rfl
      · exact hrun t ht

theorem scanToken_name_closes (n : Nat) : scanToken 'a' (List.replicate n ')') = some (.ident, 0) := by
  have hb : isBlank 'a' = false := by decide
  have hn : isNameChar 'a' = true := by decide +kernel
  have hc : isNameChar ')' = false := by decide +kernel
  cases n <;> simp [scanToken, hb, hn, nameLength, List.replicate_succ, hc]

/-- `n` pairs of parentheses around the selector `a`. -/
def nestedText (n : Nat) : String := String.ofList (List.replicate n '(' ++ 'a' :: List.replicate n ')')

theorem tokenize_nestedText (n : Nat) :
    ∃ opens closes : List Token, ∃ z : Token,
      tokenize (nestedText n) = .ok (opens ++ ⟨.ident, "a", n⟩ :: closes ++ [z]) ∧
      opens.length = n ∧ closes.length = n ∧ (∀ t ∈ opens, t.kind = .openParen) ∧
      (∀ t ∈ closes, t.kind = .closeParen) ∧ z.kind = .eof := by
  obtain ⟨opens, h1, hl1, ho⟩ := tokenizeFrom_replicate (c := '(') (k := .openParen) (fun _ => rfl) (by decide)
    (by decide) n ('a' :: List.replicate n ')') 0 #[]
  have h2 := tokenizeFrom_single (scanToken_name_closes n) (by decide) (by decide) (0 + n) ⟨#[].toList ++ opens⟩
  obtain ⟨closes, h3, hl3, hc⟩ := tokenizeFrom_replicate (c := ')') (k := .closeParen) (fun _ => rfl) (by decide)
    (by decide) n [] (0 + n + 1) ((⟨#[].toList ++ opens⟩ : Array Token).push ⟨.ident, String.ofList ['a'], 0 + n⟩)
  rw [List.append_nil] at h3
  refine ⟨opens, closes, ⟨.eof, "", 0 + n + 1 + n⟩, ?_, hl1, hl3, ho, hc, rfl⟩
  simp only [tokenize, nestedText, String.toList_ofList, h1, h2, h3, tokenizeFrom]
  simp

theorem OrRel.of_prim {src : List Char} {ts rest : List Token} {e : Expr} (h : PrimRel src ts e rest) :
    OrRel src ts e rest :=
  .mk (.mk (.primary h) .stop) .stop

def nestedExpr (src : List Char) (a : Token) (n : Nat) : Expr :=
  Expr.group^[n] (.selectors [⟨compoundOf src a [], [], false⟩])

theorem nestedExpr_stackUse (src : List Char) (a : Token) (n : Nat) : (nestedExpr src a n).stackUse = 5 * n := by
  induction n with
  | zero => rfl
  | succ n ih =>
    rw [nestedExpr, Function.iterate_succ_apply', Expr.stackUse, ← nestedExpr, ih]
    ring

theorem nested_derives {src : List Char} {a : Token} (ha : a.kind = .ident) (n : Nat) :
    ∀ opens closes rest : List Token, opens.length = n → closes.length = n →
      (∀ t ∈ opens, t.kind = .openParen) → (∀ t ∈ closes, t.kind = .closeParen) →
      OrRel src (opens ++ a :: closes ++ rest) (nestedExpr src a n) rest := by
  induction n with
  | zero =>
    intro opens closes rest ho hc _ _
    rw [List.length_eq_zero_iff] at ho hc
    subst ho hc
    exact .of_prim (.selectors (.none _) (.mk (.absolute (.named (.inl ha) (by simp)) (.stop _)) (.stop _)))
  | succ n ih =>
    intro opens closes rest ho hc hopen hclose
    obtain ⟨o, opens', rfl⟩ := List.exists_cons_of_length_eq_add_one ho
    obtain ⟨closes', c, rfl⟩ : ∃ closes' c, closes = closes' ++ [c] := by
      rcases List.eq_nil_or_concat closes with rfl | ⟨closes', c, rfl⟩
      · simp at hc
      · exact ⟨closes', c, List.concat_eq_append ..⟩
    have hE := ih opens' closes' (c :: rest) (by simpa using ho) (by simpa using hc)
      (fun t ht => hopen t (List.mem_cons_of_mem _ ht)) (fun t ht => hclose t (List.mem_append_left _ ht))
    rw [nestedExpr, Function.iterate_succ_apply', ← nestedExpr]
    have heq : (o :: opens') ++ a :: (closes' ++ [c]) ++ rest = o :: (opens' ++ a :: closes' ++ c :: rest) := by
      simp
    rw [heq]
    exact .of_prim (.group (.none _) (hopen o List.mem_cons_self) hE (.none _) (hclose c (by simp)))

/-- `n` pairs of parentheses need five of the room each: the parser returns the groups when
they fit and stops with `tooDeep` when they do not. -/
theorem parse_nestedText (room n : Nat) :
    parse room (nestedText n) =
      if 5 * n ≤ room then .ok (nestedExpr (nestedText n).toList ⟨.ident, "a", n⟩ n) else .error .tooDeep := by
  obtain ⟨opens, closes, z, htok, hl1, hl3, ho, hc, hz⟩ := tokenize_nestedText n
  have hs : Sentence (nestedText n).toList (opens ++ ⟨.ident, "a", n⟩ :: closes ++ [z])
      (nestedExpr (nestedText n).toList ⟨.ident, "a", n⟩ n) :=
    ⟨_, [z], z, .none _, nested_derives rfl n opens closes [z] hl1 hl3 ho hc, .none _, hz⟩
  rw [parse_of_sentence htok hs, nestedExpr_stackUse]

/-- Three hundred pairs of parentheses around a selector take more than the room the selector
evaluation parses with. -/
theorem parse_nested_too_deep : parse Select.selectRoom (nestedText 300) = .error .tooDeep := by
  rw [parse_nestedText, if_neg (by decide)]

end Stencil.Selector

import Mathlib
import Stencil.Proofs.Selector.Grammar
/-!
# One step of the descent

What each function of the selector parser does, as one equation over the answer with the bound
on what it leaves forgotten (`plain`). The proofs about the parser as a whole go through these
equations only, so a change to one function touches one lemma here.

* `plain` : a parser's answer without the bound on the rest.
* `foldl_addPart`, `plain_parseCompound` : a compound selector is its first token and the run of
  parts after it.
* `plain_complexTail_*`, `plain_parseComplex`, `plain_listTail_*`, `plain_parseSelectorList` :
  the selector layer.
* `matchKeyword_val`, `plain_parseOr` … `plain_parsePrimary` : the logical layer.
-/

namespace Stencil.Selector

open Stencil.Text

/-- A parser's answer with the bound on what it leaves forgotten. -/
def plain {ε α : Type} {p : List Token → Prop} : Except ε (α × Subtype p) → Except ε (α × List Token)
  | .ok (a, r) => .ok (a, r.1)
  | .error e => .error e

@[simp] theorem plain_ok {ε α : Type} {p : List Token → Prop} (a : α) (r : Subtype p) :
    plain (.ok (a, r) : Except ε (α × Subtype p)) = .ok (a, r.1) := rfl

@[simp] theorem plain_error {ε α : Type} {p : List Token → Prop} (e : ε) :
    plain (.error e : Except ε (α × Subtype p)) = .error e := rfl

theorem drop_length_takeWhile {α : Type} (p : α → Bool) (l : List α) :
    l.drop (l.takeWhile p).length = l.dropWhile p := by
  calc l.drop (l.takeWhile p).length
      = (l.takeWhile p ++ l.dropWhile p).drop (l.takeWhile p).length := by rw [List.takeWhile_append_dropWhile]
    _ = l.dropWhile p := List.drop_left

/-! ## Compound selectors -/

/-- Filling a compound selector from parts appends each part to the list of its kind. -/
theorem foldl_addPart (c : Compound) (parts : List Token)
    (h : ∀ u ∈ parts, u.kind.continuesCompound = true) :
    parts.foldl addPart c =
      { c with
        keys := c.keys ++ (parts.filter (·.kind = .key)).map fun u => unquote (String.ofList (u.text.toList.drop 1))
        ids := c.ids ++ (parts.filter (·.kind = .hash)).map fun u => String.ofList (u.text.toList.drop 1)
        attributes := c.attributes ++
          (parts.filter (·.kind = .attr)).map fun u => String.ofList (u.text.toList.drop 1).dropLast
        pseudos := c.pseudos ++ (parts.filter (·.kind = .pseudo)).map fun u => pseudoOfToken u.text } := by
  induction parts generalizing c with
  | nil => simp
  | cons u parts ih =>
    have hu := h u List.mem_cons_self
    rw [List.foldl_cons, ih _ fun v hv => h v (List.mem_cons_of_mem _ hv)]
    cases hk : u.kind <;> simp_all [addPart, TokenKind.continuesCompound, ]

/-- A compound selector is its first token and the run of parts after it. -/
theorem plain_parseCompound {src : List Char} {t : Token} {r : List Token}
    (ht : t.kind.startsCompound = true) :
    plain (parseCompound src (t :: r)) =
      .ok (compoundOf src t (r.takeWhile (·.kind.continuesCompound)),
        r.dropWhile (·.kind.continuesCompound)) := by
  have hparts : ∀ u ∈ r.takeWhile (·.kind.continuesCompound), u.kind.continuesCompound = true :=
    fun u hu => List.mem_takeWhile_imp (p := fun x : Token => x.kind.continuesCompound) hu
  rw [parseCompound, if_pos ht]
  simp only [plain_ok, drop_length_takeWhile, Except.ok.injEq, Prod.mk.injEq, and_true]
  by_cases hn : t.kind = .star ∨ t.kind = .ident
  · simp only [compoundOf, hn, decide_true, if_true, Option.isSome_some]
    rw [foldl_addPart _ _ hparts]
    simp
  · have htc : t.kind.continuesCompound = true := by
      revert ht hn; cases t.kind <;> simp [TokenKind.startsCompound, TokenKind.continuesCompound]
    simp only [compoundOf, hn, decide_false, Bool.false_eq_true, if_false, Option.isSome_none]
    rw [foldl_addPart _ _ (fun u hu => (List.mem_cons.mp hu).elim (· ▸ htc) (hparts u))]
    simp

theorem parseCompound_nil (src : List Char) : parseCompound src [] = .error ⟨0, .missingAtEnd⟩ := by
  rw [parseCompound]

theorem parseCompound_not_start {src : List Char} {t : Token} {r : List Token}
    (ht : t.kind.startsCompound = false) :
    ∃ e, parseCompound src (t :: r) = .error e := by
  rw [parseCompound, if_neg (by simp [ht])]
  split <;> exact ⟨_, rfl⟩

/-! ## Complex selectors and lists -/

theorem plain_complexTail_joined {src : List Char} {acc : List (Combinator × Compound)} {ts : List Token}
    {c : Token} {r : List Token} (h : skipSpace ts = c :: r) (hc : c.kind = .child ∨ c.kind = .sibling) :
    plain (complexTail src acc ts) =
      (plain (parseCompound src (skipSpace r))).bind fun p =>
        plain (complexTail src (acc ++ [(combinatorOf c, p.1)]) p.2) := by
  rw [complexTail]
  split
  · next t r' heq =>
    rw [h] at heq
    obtain ⟨h1, h2⟩ := List.cons.inj heq
    subst h1 h2
    rw [if_pos hc]
    rcases parseCompound src (skipSpace r) with e | ⟨k, r'', _⟩
    · rfl
    · simp only [plain_ok, Except.bind]
      rcases complexTail src (acc ++ [(combinatorOf c, k)]) r'' with e | ⟨cs, r3, _⟩ <;> rfl
  · next heq => rw [h] at heq; cases heq

theorem plain_complexTail_descendant {src : List Char} {acc : List (Combinator × Compound)}
    {ts : List Token} {t : Token} {r : List Token} (h : skipSpace ts = t :: r)
    (hc : ¬(t.kind = .child ∨ t.kind = .sibling)) (hlt : (skipSpace ts).length < ts.length)
    (hs : t.kind.startsCompound = true) :
    plain (complexTail src acc ts) =
      (plain (parseCompound src (t :: r))).bind fun p =>
        plain (complexTail src (acc ++ [(.descendant, p.1)]) p.2) := by
  rw [complexTail]
  split
  · next t' r' heq =>
    rw [h] at heq
    obtain ⟨h1, h2⟩ := List.cons.inj heq
    subst h1 h2
    rw [if_neg hc, if_pos ⟨hlt, hs⟩]
    rcases parseCompound src (t :: r) with e | ⟨k, r'', _⟩
    · rfl
    · simp only [plain_ok, Except.bind]
      split
      · next e heq => rw [heq]; rfl
      · next cs r3 _ heq => rw [heq]; rfl
  · next heq => rw [h] at heq; cases heq

theorem plain_complexTail_stop {src : List Char} {acc : List (Combinator × Compound)} {ts : List Token}
    (h : ∀ t r, skipSpace ts = t :: r →
      ¬(t.kind = .child ∨ t.kind = .sibling) ∧ ¬((skipSpace ts).length < ts.length ∧ t.kind.startsCompound = true)) :
    plain (complexTail src acc ts) = .ok (acc, ts) := by
  rw [complexTail]
  split
  · next t r heq =>
    obtain ⟨hc, hd⟩ := h t r heq
    rw [if_neg hc, if_neg (by rw [heq] at hd ⊢; exact hd)]
    rfl
  · rfl

/-- A complex selector: an optional leading `>` and white space, a compound, and the rest. -/
theorem plain_parseComplex (src : List Char) (ts : List Token) :
    plain (parseComplex src ts) =
      (plain (parseCompound src (afterLead ts).1)).bind fun p =>
        (plain (complexTail src [] p.2)).bind fun q =>
          .ok (⟨p.1, q.1, decide ((current ts).kind = .child)⟩, q.2) := by
  rw [parseComplex]
  split
  · next ts1 h1 heq =>
    rw [heq]
    rcases parseCompound src ts1 with e | ⟨k, r, _⟩
    · rfl
    · simp only [plain_ok, Except.bind]
      rcases complexTail src [] r with e | ⟨cs, r3, _⟩ <;> rfl

theorem afterLead_of_child {ts : List Token} (h : (current ts).kind = .child) :
    (afterLead ts).1 = skipSpace (advance ts) := by
  simp [afterLead, h]

theorem afterLead_of_not_child {ts : List Token} (h : (current ts).kind ≠ .child) :
    (afterLead ts).1 = ts := by
  simp [afterLead, h]

theorem plain_listTail_comma {src : List Char} {acc : List Selector.Complex} {ts : List Token}
    {c : Token} {r : List Token} (h : skipSpace ts = c :: r) (hc : c.kind = .comma) :
    plain (listTail src acc ts) =
      (plain (parseComplex src (skipSpace r))).bind fun p => plain (listTail src (acc ++ [p.1]) p.2) := by
  rw [listTail]
  split
  · next t r' heq =>
    rw [h] at heq
    obtain ⟨h1, h2⟩ := List.cons.inj heq
    subst h1 h2
    rw [if_pos hc]
    rcases parseComplex src (skipSpace r) with e | ⟨x, r'', _⟩
    · rfl
    · simp only [plain_ok, Except.bind]
      rcases listTail src (acc ++ [x]) r'' with e | ⟨cs, r3, _⟩ <;> rfl
  · next heq => rw [h] at heq; cases heq

theorem plain_listTail_stop {src : List Char} {acc : List Selector.Complex} {ts : List Token}
    (h : ∀ t r, skipSpace ts = t :: r → t.kind ≠ .comma) :
    plain (listTail src acc ts) = .ok (acc, ts) := by
  rw [listTail]
  split
  · next t r heq =>
    rw [if_neg (h t r heq)]
    rfl
  · rfl

theorem plain_parseSelectorList (src : List Char) (ts : List Token) :
    plain (parseSelectorList src ts) =
      (plain (parseComplex src ts)).bind fun p => plain (listTail src [p.1] p.2) := by
  rw [parseSelectorList]
  rcases parseComplex src ts with e | ⟨x, r, _⟩
  · rfl
  · simp only [plain_ok, Except.bind]
    rcases listTail src [x] r with e | ⟨cs, r3, _⟩ <;> rfl

/-! ## Keywords and the logical layer -/

theorem matchKeyword_val_eq_some {kw : String} {ts r' : List Token} :
    (matchKeyword kw ts).map Subtype.val = some r' ↔
      ∃ t r, skipSpace ts = t :: r ∧ t.IsKeyword kw ∧ r' = skipSpace r := by
  rw [matchKeyword]
  split
  · next t r heq =>
    split
    · next hk => simp [heq, Token.IsKeyword, hk, eq_comm]
    · next hk => simp only [Option.map_none, reduceCtorEq, false_iff]; rintro ⟨t', r'', h, hk', -⟩
                 rw [heq] at h; obtain ⟨rfl, rfl⟩ := List.cons.inj h; exact hk hk'
  · next heq => simp [heq]

theorem matchKeyword_eq_none_iff {kw : String} {ts : List Token} :
    matchKeyword kw ts = none ↔ ∀ t r, skipSpace ts = t :: r → ¬t.IsKeyword kw := by
  constructor
  · intro h t r hs hk
    have := matchKeyword_val_eq_some.mpr ⟨t, r, hs, hk, rfl⟩
    rw [h] at this
    cases this
  · intro h
    cases hm : matchKeyword kw ts with
    | none => rfl
    | some r' =>
      obtain ⟨t, r, hs, hk, -⟩ := matchKeyword_val_eq_some.mp (by rw [hm]; rfl : (matchKeyword kw ts).map Subtype.val = some r'.1)
      exact absurd hk (h t r hs)

theorem plain_parseOr (room : Nat) (src : List Char) (ts : List Token) :
    plain (parseOr room src ts) = (plain (parseAnd room src ts)).bind fun p => plain (orTail room src p.1 p.2) := by
  rw [parseOr]
  rcases parseAnd room src ts with e | ⟨l, r, _⟩
  · rfl
  · simp only [plain_ok, Except.bind]
    split
    · next e heq => rw [heq]; rfl
    · next x r' _ heq => rw [heq]; rfl

theorem plain_orTail (room : Nat) (src : List Char) (left : Expr) (ts : List Token) :
    plain (orTail room src left ts) =
      match (matchKeyword "or" ts).map Subtype.val with
      | none => .ok (left, ts)
      | some r => (plain (parseAnd room src r)).bind fun p => plain (orTail room src (.or left p.1) p.2) := by
  rw [orTail]
  rcases matchKeyword "or" ts with _ | ⟨r, _⟩
  · rfl
  · simp only [Option.map_some]
    rcases parseAnd room src r with e | ⟨x, r', _⟩
    · rfl
    · simp only [plain_ok, Except.bind]
      split
      · next e heq => rw [heq]; rfl
      · next y r'' _ heq => rw [heq]; rfl

theorem plain_parseAnd (room : Nat) (src : List Char) (ts : List Token) :
    plain (parseAnd room src ts) = (plain (parseNot room src ts)).bind fun p => plain (andTail room src p.1 p.2) := by
  rw [parseAnd]
  rcases parseNot room src ts with e | ⟨l, r, _⟩
  · rfl
  · simp only [plain_ok, Except.bind]
    split
    · next e heq => rw [heq]; rfl
    · next x r' _ heq => rw [heq]; rfl

theorem plain_andTail (room : Nat) (src : List Char) (left : Expr) (ts : List Token) :
    plain (andTail room src left ts) =
      match (matchKeyword "and" ts).map Subtype.val with
      | none => .ok (left, ts)
      | some r => (plain (parseNot room src r)).bind fun p => plain (andTail room src (.and left p.1) p.2) := by
  rw [andTail]
  rcases matchKeyword "and" ts with _ | ⟨r, _⟩
  · rfl
  · simp only [Option.map_some]
    rcases parseNot room src r with e | ⟨x, r', _⟩
    · rfl
    · simp only [plain_ok, Except.bind]
      split
      · next e heq => rw [heq]; rfl
      · next y r'' _ heq => rw [heq]; rfl

theorem plain_parseNot (room : Nat) (src : List Char) (ts : List Token) :
    plain (parseNot room src ts) =
      match (matchKeyword "not" ts).map Subtype.val with
      | some r =>
        match room with
        | 0 => .error .tooDeep
        | room + 1 => (plain (parseNot room src r)).bind fun p => .ok (.not p.1, p.2)
      | none => plain (parsePrimary room src ts) := by
  rw [parseNot]
  rcases matchKeyword "not" ts with _ | ⟨r, _⟩
  · rfl
  · simp only [Option.map_some]
    rcases room with _ | room
    · rfl
    · simp only
      rcases parseNot room src r with e | ⟨x, r', _⟩ <;> rfl

def closeGroup (e : Expr) (ts : List Token) : Except ParseError (Expr × List Token) :=
  match skipSpace ts with
  | u :: r => if u.kind = .closeParen then .ok (.group e, r) else .error (.invalid ⟨u.pos, .unclosedGroup⟩)
  | [] => .error (.invalid ⟨0, .unclosedGroup⟩)

theorem plain_parsePrimary_group {room : Nat} {src : List Char} {ts : List Token} {o : Token} {r : List Token}
    (h : skipSpace ts = o :: r) (ho : o.kind = .openParen) :
    plain (parsePrimary room src ts) =
      if room < 5 then .error .tooDeep
      else (plain (parseOr (room - 5) src r)).bind fun p => closeGroup p.1 p.2 := by
  rw [parsePrimary]
  split
  · next t r' heq =>
    rw [h] at heq
    obtain ⟨h1, h2⟩ := List.cons.inj heq
    subst h1 h2
    rw [if_pos ho]
    split
    · rfl
    · rcases parseOr (room - 5) src r with e | ⟨x, r', _⟩
      · rfl
      · simp only [plain_ok, Except.bind, closeGroup]
        split
        · next u r'' heq2 => simp only [heq2]; split <;> rfl
        · next heq2 => simp only [heq2]; rfl
  · next heq => rw [h] at heq; cases heq

theorem plain_parsePrimary_list {room : Nat} {src : List Char} {ts : List Token} {t : Token} {r : List Token}
    (h : skipSpace ts = t :: r) (ho : t.kind ≠ .openParen) (hs : t.kind.startsCompound = true ∨ t.kind = .child) :
    plain (parsePrimary room src ts) =
      match plain (parseSelectorList src (t :: r)) with
      | .ok (cs, r') => .ok (.selectors cs, r')
      | .error e => .error (.invalid e) := by
  rw [parsePrimary]
  split
  · next t' r' heq =>
    rw [h] at heq
    obtain ⟨h1, h2⟩ := List.cons.inj heq
    subst h1 h2
    rw [if_neg ho, if_pos hs]
    rcases parseSelectorList src (t :: r) with e | ⟨cs, r', _⟩ <;> rfl
  · next heq => rw [h] at heq; cases heq

theorem parsePrimary_refused {room : Nat} {src : List Char} {ts : List Token}
    (h : ∀ t r, skipSpace ts = t :: r → t.kind ≠ .openParen ∧ t.kind.startsCompound = false ∧ t.kind ≠ .child) :
    ∃ e, parsePrimary room src ts = .error (.invalid e) := by
  rw [parsePrimary]
  split
  · next t r heq =>
    obtain ⟨ho, hs, hc⟩ := h t r heq
    rw [if_neg ho, if_neg (by simp [hs, hc])]
    split <;> exact ⟨_, rfl⟩
  · exact ⟨_, rfl⟩

end Stencil.Selector

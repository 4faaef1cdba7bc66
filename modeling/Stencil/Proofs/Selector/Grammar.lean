import Mathlib
import Stencil.Proofs.Selector.Tokens
/-!
# The grammar of selector expressions

The grammar the parser recognises, written over the token stream, where `W` is one white-space
token:

```
S → W? E W? EOF
E → A (W? or W? A)*
A → N (W? and W? N)*
N → W? not W? N | P
P → W? ( E W? ) | W? L
L → C (W? , W? C)*
C → (> W?)? K ((W? (> | + | ~) W? | W) K)*
K → (IDENT | STAR) (KEY | HASH | ATTR | PSEUDO)* | (KEY | HASH | ATTR | PSEUDO)+
```

Each nonterminal is a relation `X src ts v rest`: a prefix of the stream `ts` derives from `X`
with the tree `v`, and `rest` is what follows it. The tree is the one the derivation spells:
`and` and `or` join their operands to the left, a compound selector keeps its source text (the
characters of `src` from its first token to the end of its last), its keys unquoted and its
pseudo-classes with the name lower-cased and the argument stripped.

The relations say nothing of where a derivation stops: `(W? or W? A)*` may stop before an `or`.
The parser reads as far as it can, so it agrees with a derivation only when the tokens after it
cannot continue it. `Ahead` with the classes `ClosesOr` … `ClosesComplex` names what may follow
each nonterminal, as the grammar has it.

* `OptSpace` : at most one white-space token.
* `compoundOf`, `CompoundRel`, `ComplexTail`, `ComplexRel`, `ListTail`, `ListRel` : the
  selector layer.
* `OrRel`, `OrTail`, `AndRel`, `AndTail`, `NotRel`, `PrimRel` : the logical layer.
* `Sentence` : a whole stream.
* `Expr.stackUse` : the room on the stack the descent takes for an expression.
-/

namespace Stencil.Selector

open Stencil.Text

/-! ## White space and lookahead -/

/-- At most one white-space token: `OptSpace ts rest` when `rest` is `ts`, or `ts` after the
white-space token at its head. -/
inductive OptSpace : List Token → List Token → Prop where
  | none (ts : List Token) : OptSpace ts ts
  | one {t : Token} (ts : List Token) (h : t.kind = .space) : OptSpace (t :: ts) ts

def Token.IsKeyword (word : String) (t : Token) : Prop := t.kind = .keyword ∧ t.text = word

def Ahead (p : Token → Prop) (ts : List Token) : Prop :=
  ∃ ws u r, ts = ws ++ u :: r ∧ (∀ w ∈ ws, w.kind = .space) ∧ p u

def ClosesOr (u : Token) : Prop := u.kind = .closeParen ∨ u.kind = .eof

def ClosesAnd (u : Token) : Prop := ClosesOr u ∨ u.IsKeyword "or"

/-- What may follow an operand of `and`, a `not`-expression or a selector list: also the next
`and`. -/
def ClosesNot (u : Token) : Prop := ClosesAnd u ∨ u.IsKeyword "and"

def ClosesComplex (u : Token) : Prop := ClosesNot u ∨ u.kind = .comma

/-! ## The selector layer -/

/-- The compound selector a first token `t` and the parts `tail` after it spell: the source text
from `t` to the end of the last token, the type name when `t` is a name or `*`, and the keys,
ids, attribute tests and pseudo-classes among the parts (with `t` itself when it is one). -/
def compoundOf (src : List Char) (t : Token) (tail : List Token) : Compound :=
  let named := decide (t.kind = .star ∨ t.kind = .ident)
  let parts := if named then tail else t :: tail
  { source := slice src t.pos (tail.getLastD t).stop
    typeName := if named then some t.text else none
    keys := (parts.filter (·.kind = .key)).map fun u => unquote (String.ofList (u.text.toList.drop 1))
    ids := (parts.filter (·.kind = .hash)).map fun u => String.ofList (u.text.toList.drop 1)
    attributes := (parts.filter (·.kind = .attr)).map fun u => String.ofList (u.text.toList.drop 1).dropLast
    pseudos := (parts.filter (·.kind = .pseudo)).map fun u => pseudoOfToken u.text }

/-- K: a name or `*` and the parts after it, or one part or more. -/
inductive CompoundRel (src : List Char) : List Token → Compound → List Token → Prop where
  | named {t : Token} {tail rest : List Token} (ht : t.kind = .ident ∨ t.kind = .star)
      (hparts : ∀ u ∈ tail, u.kind.continuesCompound = true) :
      CompoundRel src (t :: tail ++ rest) (compoundOf src t tail) rest
  | bare {t : Token} {tail rest : List Token} (ht : t.kind.continuesCompound = true)
      (hparts : ∀ u ∈ tail, u.kind.continuesCompound = true) :
      CompoundRel src (t :: tail ++ rest) (compoundOf src t tail) rest

/-- `((W? (> | + | ~) W? | W) K)*`: the compounds after the first of a complex selector, with
the combinators before them. -/
inductive ComplexTail (src : List Char) : List Token → List (Combinator × Compound) → List Token → Prop where
  | stop (ts : List Token) : ComplexTail src ts [] ts
  | joined {ts ts1 ts2 ts3 rest : List Token} {c : Token} {k : Compound} {more : List (Combinator × Compound)}
      (h1 : OptSpace ts (c :: ts1)) (hc : c.kind = .child ∨ c.kind = .sibling) (h2 : OptSpace ts1 ts2)
      (hk : CompoundRel src ts2 k ts3) (hmore : ComplexTail src ts3 more rest) :
      ComplexTail src ts ((combinatorOf c, k) :: more) rest
  | descendant {w : Token} {ts ts1 rest : List Token} {k : Compound} {more : List (Combinator × Compound)}
      (hw : w.kind = .space) (hk : CompoundRel src ts k ts1) (hmore : ComplexTail src ts1 more rest) :
      ComplexTail src (w :: ts) ((.descendant, k) :: more) rest

/-- C: an optional leading `>`, then compounds joined by combinators. -/
inductive ComplexRel (src : List Char) : List Token → Selector.Complex → List Token → Prop where
  | absolute {ts ts1 rest : List Token} {k : Compound} {more : List (Combinator × Compound)}
      (hk : CompoundRel src ts k ts1) (hmore : ComplexTail src ts1 more rest) :
      ComplexRel src ts ⟨k, more, false⟩ rest
  | relative {g : Token} {ts ts1 ts2 rest : List Token} {k : Compound} {more : List (Combinator × Compound)}
      (hg : g.kind = .child) (hs : OptSpace ts ts1) (hk : CompoundRel src ts1 k ts2)
      (hmore : ComplexTail src ts2 more rest) :
      ComplexRel src (g :: ts) ⟨k, more, true⟩ rest

/-- `(W? , W? C)*`: the complex selectors after the first of a list. -/
inductive ListTail (src : List Char) : List Token → List Selector.Complex → List Token → Prop where
  | stop (ts : List Token) : ListTail src ts [] ts
  | comma {ts ts1 ts2 ts3 rest : List Token} {c : Token} {x : Selector.Complex} {more : List Selector.Complex}
      (h1 : OptSpace ts (c :: ts1)) (hc : c.kind = .comma) (h2 : OptSpace ts1 ts2)
      (hx : ComplexRel src ts2 x ts3) (hmore : ListTail src ts3 more rest) :
      ListTail src ts (x :: more) rest

/-- L: complex selectors separated by commas. -/
inductive ListRel (src : List Char) : List Token → List Selector.Complex → List Token → Prop where
  | mk {ts ts1 rest : List Token} {x : Selector.Complex} {more : List Selector.Complex}
      (hx : ComplexRel src ts x ts1) (hmore : ListTail src ts1 more rest) : ListRel src ts (x :: more) rest

/-! ## The logical layer -/

mutual

/-- E: `and`-expressions joined by `or`, to the left. -/
inductive OrRel (src : List Char) : List Token → Expr → List Token → Prop where
  | mk {ts ts1 rest : List Token} {l e : Expr} (hl : AndRel src ts l ts1) (ht : OrTail src l ts1 e rest) :
      OrRel src ts e rest

/-- `(W? or W? A)*` after the left operand `acc`, and the expression it makes of it. -/
inductive OrTail (src : List Char) : Expr → List Token → Expr → List Token → Prop where
  | stop {acc : Expr} {ts : List Token} : OrTail src acc ts acc ts
  | more {acc r e : Expr} {ts ts1 ts2 ts3 rest : List Token} {k : Token}
      (h1 : OptSpace ts (k :: ts1)) (hk : k.IsKeyword "or") (h2 : OptSpace ts1 ts2)
      (hr : AndRel src ts2 r ts3) (ht : OrTail src (.or acc r) ts3 e rest) : OrTail src acc ts e rest

/-- A: `not`-expressions joined by `and`, to the left. -/
inductive AndRel (src : List Char) : List Token → Expr → List Token → Prop where
  | mk {ts ts1 rest : List Token} {l e : Expr} (hl : NotRel src ts l ts1) (ht : AndTail src l ts1 e rest) :
      AndRel src ts e rest

/-- `(W? and W? N)*` after the left operand `acc`, and the expression it makes of it. -/
inductive AndTail (src : List Char) : Expr → List Token → Expr → List Token → Prop where
  | stop {acc : Expr} {ts : List Token} : AndTail src acc ts acc ts
  | more {acc r e : Expr} {ts ts1 ts2 ts3 rest : List Token} {k : Token}
      (h1 : OptSpace ts (k :: ts1)) (hk : k.IsKeyword "and") (h2 : OptSpace ts1 ts2)
      (hr : NotRel src ts2 r ts3) (ht : AndTail src (.and acc r) ts3 e rest) : AndTail src acc ts e rest

/-- N: `not` in front of a `not`-expression, or a primary expression. -/
inductive NotRel (src : List Char) : List Token → Expr → List Token → Prop where
  | not {e : Expr} {ts ts1 ts2 rest : List Token} {k : Token}
      (h1 : OptSpace ts (k :: ts1)) (hk : k.IsKeyword "not") (h2 : OptSpace ts1 ts2)
      (he : NotRel src ts2 e rest) : NotRel src ts (.not e) rest
  | primary {e : Expr} {ts rest : List Token} (he : PrimRel src ts e rest) : NotRel src ts e rest

/-- P: an expression in parentheses, or a selector list. -/
inductive PrimRel (src : List Char) : List Token → Expr → List Token → Prop where
  | group {e : Expr} {ts ts1 ts2 rest : List Token} {o c : Token}
      (h1 : OptSpace ts (o :: ts1)) (ho : o.kind = .openParen) (he : OrRel src ts1 e ts2)
      (h2 : OptSpace ts2 (c :: rest)) (hc : c.kind = .closeParen) : PrimRel src ts (.group e) rest
  | selectors {cs : List Selector.Complex} {ts ts1 rest : List Token}
      (h1 : OptSpace ts ts1) (hl : ListRel src ts1 cs rest) : PrimRel src ts (.selectors cs) rest

end

def Sentence (src : List Char) (ts : List Token) (e : Expr) : Prop :=
  ∃ ts1 ts2 t, OptSpace ts ts1 ∧ OrRel src ts1 e ts2 ∧ OptSpace ts2 [t] ∧ t.kind = .eof

/-- The room on the stack the descent takes for an expression: five for each group and one for
each `not` on the deepest path through it. -/
def Expr.stackUse : Expr → Nat
  | .selectors _ => 0
  | .group e => e.stackUse + 5
  | .not e => e.stackUse + 1
  | .and l r | .or l r => max l.stackUse r.stackUse

/-! ## Facts about white space -/

theorem skipSpace_cons_of_ne {t : Token} {ts : List Token} (h : t.kind ≠ .space) :
    skipSpace (t :: ts) = t :: ts := by
  simp [skipSpace, h]

theorem skipSpace_cons_space {t : Token} {ts : List Token} (h : t.kind = .space) :
    skipSpace (t :: ts) = skipSpace ts := by
  simp [skipSpace, h]

theorem skipSpace_append_spaces {ws ts : List Token} (h : ∀ w ∈ ws, w.kind = .space) :
    skipSpace (ws ++ ts) = skipSpace ts := by
  induction ws with
  | nil => rfl
  | cons w ws ih =>
    rw [List.cons_append, skipSpace_cons_space (h w List.mem_cons_self)]
    exact ih fun v hv => h v (List.mem_cons_of_mem _ hv)

theorem skipSpace_skipSpace (ts : List Token) : skipSpace (skipSpace ts) = skipSpace ts := by
  induction ts with
  | nil => rfl
  | cons t ts ih =>
    by_cases h : t.kind = .space
    · rw [skipSpace_cons_space h, ih]
    · rw [skipSpace_cons_of_ne h, skipSpace_cons_of_ne h]

theorem OptSpace.skipSpace_eq {ts r : List Token} {u : Token} (h : OptSpace ts (u :: r))
    (hu : u.kind ≠ .space) : skipSpace ts = u :: r := by
  cases h with
  | none => exact skipSpace_cons_of_ne hu
  | one _ hw => rw [skipSpace_cons_space hw, skipSpace_cons_of_ne hu]

theorem OptSpace.skipSpace_eq' {ts r : List Token} (h : OptSpace ts r) : skipSpace ts = skipSpace r := by
  cases h with
  | none => rfl
  | one _ hw => exact skipSpace_cons_space hw

theorem OptSpace.length_le {ts r : List Token} (h : OptSpace ts r) : r.length ≤ ts.length := by
  cases h with
  | none => exact Nat.le_refl _
  | one _ _ => simp

theorem Ahead.skipSpace_eq {p : Token → Prop} {ts : List Token} (h : Ahead p ts)
    (hp : ∀ u, p u → u.kind ≠ .space) : ∃ u r, skipSpace ts = u :: r ∧ p u := by
  obtain ⟨ws, u, r, rfl, hws, hu⟩ := h
  exact ⟨u, r, by rw [skipSpace_append_spaces hws, skipSpace_cons_of_ne (hp u hu)], hu⟩

theorem Ahead.mono {p q : Token → Prop} {ts : List Token} (h : Ahead p ts) (hpq : ∀ u, p u → q u) :
    Ahead q ts := by
  obtain ⟨ws, u, r, rfl, hws, hu⟩ := h
  exact ⟨ws, u, r, rfl, hws, hpq u hu⟩

theorem closesComplex_kind {u : Token} (h : ClosesComplex u) :
    u.kind = .closeParen ∨ u.kind = .eof ∨ u.kind = .keyword ∨ u.kind = .comma := by
  unfold ClosesComplex ClosesNot ClosesAnd ClosesOr Token.IsKeyword at h
  rcases h with (((h | h) | ⟨h, -⟩) | ⟨h, -⟩) | h <;> simp [h]

theorem ClosesComplex.ne_space {u : Token} (h : ClosesComplex u) : u.kind ≠ .space := by
  rcases closesComplex_kind h with h | h | h | h <;> simp [h]

theorem ClosesComplex.not_startsCompound {u : Token} (h : ClosesComplex u) :
    u.kind.startsCompound = false := by
  rcases closesComplex_kind h with h | h | h | h <;> simp [h, TokenKind.startsCompound]

theorem ClosesComplex.not_combinator {u : Token} (h : ClosesComplex u) :
    ¬(u.kind = .child ∨ u.kind = .sibling) := by
  rcases closesComplex_kind h with h | h | h | h <;> simp [h]

theorem closesNot_closesComplex {u : Token} (h : ClosesNot u) : ClosesComplex u := .inl h

theorem closesAnd_closesNot {u : Token} (h : ClosesAnd u) : ClosesNot u := .inl h

theorem closesOr_closesAnd {u : Token} (h : ClosesOr u) : ClosesAnd u := .inl h

end Stencil.Selector

import Mathlib
import Stencil.Proofs.Selector.Reprint
/-!
# The printed form of a parsed selector

Parsing the printed form of a parsed selector gives the same tree (`parse_print_roundtrip`), so
printing is idempotent on parsed selectors. Printing itself nests one level of the stack for each
group, negation and operand, and the printer stops where the stack does (`Expr.print?`): a chain
of conjunctions is parsed in a loop, whatever its length, but printed by recursion down its left
spine, so a long enough chain parses and cannot be printed (`parse_and_chain_unprintable`).

* `parse_of_reprints`, `parse_print_roundtrip` : the printed form parses back.
* `andChain`, `parse_andChain`, `printDepth_andChain` : chains of conjunctions.
-/

namespace Stencil.Selector

open Stencil.Text

/-! ## Parsing the printed form -/

/-- A printed expression that reads back and fits the room parses to itself. -/
theorem parse_of_reprints {room : Nat} {e : Expr} (h : Reprints OrRel e.text.toList e) (hfit : e.stackUse ≤ room) :
    parse room e.text = .ok e := by
  obtain ⟨ws, hcut, hrel⟩ := h
  obtain ⟨n, htok⟩ := hcut.cut.tokenize
  have hsent : Sentence e.text.toList (tokensOf 0 ws ++ [⟨.eof, "", n⟩]) e :=
    ⟨_, _, _, .none _, hrel _ 0 _ (tokenize_spells htok).placed, .none _, rfl⟩
  rw [parse_of_sentence htok hsent, if_pos hfit]

theorem stackUse_le_of_parse {room : Nat} {s : String} {e : Expr} (h : parse room s = .ok e) :
    e.stackUse ≤ room := by
  obtain ⟨ts, htok, hsent⟩ := parse_ok_sentence h
  have hfit : parse room s = if e.stackUse ≤ room then .ok e else .error .tooDeep := parse_of_sentence htok hsent
  rw [h] at hfit
  split at hfit
  · assumption
  · cases hfit

/-- The printed form of a parsed selector parses back to the same tree, with the same room; so
does any printed form the printer returns. -/
theorem parse_print_roundtrip {room : Nat} {s : String} {e : Expr} (h : parse room s = .ok e) :
    parse room e.text = .ok e ∧ ∀ pr t, e.print? pr = some t → parse room t = .ok e := by
  obtain ⟨ts, htok, ts1, ts2, t, h1, he, -, -⟩ := parse_ok_sentence h
  have hp : Placed s.toList ts1 := (tokenize_spells htok).placed.leaves h1.leaves
  have hback : parse room e.text = .ok e := parse_of_reprints (he.reprint hp).1 (stackUse_le_of_parse h)
  refine ⟨hback, fun pr t ht => ?_⟩
  unfold Expr.print? at ht
  split at ht
  · cases ht
    exact hback
  · cases ht

/-- A one-group selector parses, and its printed form with it. -/
theorem parse_print_roundtrip_group :
    parse Select.selectRoom (nestedText 1) = .ok (nestedExpr (nestedText 1).toList ⟨.ident, "a", 1⟩ 1) ∧
      parse Select.selectRoom (nestedExpr (nestedText 1).toList ⟨.ident, "a", 1⟩ 1).text =
        .ok (nestedExpr (nestedText 1).toList ⟨.ident, "a", 1⟩ 1) := by
  have h : parse Select.selectRoom (nestedText 1) = .ok (nestedExpr (nestedText 1).toList ⟨.ident, "a", 1⟩ 1) := by
    rw [parse_nestedText, if_pos (by decide)]
  exact ⟨h, (parse_print_roundtrip h).1⟩

/-! ## Chains of conjunctions -/

def nameAtom : Expr := .selectors [⟨⟨"a", some "a", [], [], [], []⟩, [], false⟩]

/-- `a and a and … and a` with `n` conjunctions, joined to the left as the parser joins them. -/
def andChain (n : Nat) : Expr := (fun e => Expr.and e nameAtom)^[n] nameAtom

theorem nameAtom_reprints : Reprints NotRel nameAtom.text.toList nameAtom ∧ StartsUnblank nameAtom.text.toList := by
  have hsolid : Token.Solid ⟨.ident, "a", 0⟩ := .of_scan (show "a".toList = ['a'] from rfl)
    (show classify .ident "a" = .ident by decide) (by decide) (show scanToken 'a' [] = some (.ident, 0) by decide +kernel)
  obtain ⟨hk, hsk⟩ := hsolid.reprints (by decide) (show slice "a".toList 0 (Token.stop ⟨.ident, "a", 0⟩) = "a" by decide)
  rw [show compoundOf "a".toList ⟨.ident, "a", 0⟩ [] = ⟨"a", some "a", [], [], [], []⟩ by decide] at hk
  obtain ⟨hx, hsx⟩ := ComplexRel.reprints_of (x := ⟨⟨"a", some "a", [], [], [], []⟩, [], false⟩) hk hsk
    ComplexTail.reprints_nil.1 ComplexTail.reprints_nil.2
  exact NotRel.reprints_single hx hsx

theorem andTail_iterate_reprints (n : Nat) (acc : Expr) :
    TailReprints (fun acc src ts v rest => AndTail src acc ts v rest) acc ((fun e => Expr.and e nameAtom)^[n] acc) := by
  induction n generalizing acc with
  | zero => exact TailReprints.stop fun _ _ => .stop
  | succ n ih => exact AndTail.reprints_more nameAtom_reprints.1 nameAtom_reprints.2 (ih (.and acc nameAtom))

theorem andChain_reprints (n : Nat) : Reprints OrRel (andChain n).text.toList (andChain n) := by
  obtain ⟨ha, hsa⟩ := AndRel.reprints_of nameAtom_reprints.1 nameAtom_reprints.2 (andTail_iterate_reprints n nameAtom)
  exact (OrRel.reprints_of ha hsa (TailReprints.stop fun _ _ => .stop)).1

theorem stackUse_andChain (n : Nat) : (andChain n).stackUse = 0 := by
  induction n with
  | zero => rfl
  | succ n ih =>
    rw [andChain, Function.iterate_succ_apply']
    show max (andChain n).stackUse nameAtom.stackUse = 0
    rw [ih]
    rfl

/-- Printing a chain of `n` conjunctions nests `n` levels: one for each left operand. -/
theorem printDepth_andChain (n : Nat) : (andChain n).printDepth = n := by
  induction n with
  | zero => rfl
  | succ n ih =>
    rw [andChain, Function.iterate_succ_apply']
    show max (andChain n).printDepth nameAtom.printDepth + 1 = n + 1
    rw [ih, show nameAtom.printDepth = 0 from rfl, Nat.max_zero]

/-- A chain of conjunctions parses in any room, however long it is. -/
theorem parse_andChain (room n : Nat) : parse room (andChain n).text = .ok (andChain n) :=
  parse_of_reprints (andChain_reprints n) (by rw [stackUse_andChain]; exact Nat.zero_le _)

/-- Two hundred and fifty operands joined by `and` parse, and the parsed tree is too deep to
print. -/
theorem parse_and_chain_unprintable :
    parse Select.selectRoom (andChain 249).text = .ok (andChain 249) ∧ (andChain 249).print? printRoom = none :=
  ⟨parse_andChain _ 249, by rw [Expr.print?, printDepth_andChain, if_neg (by decide)]⟩

end Stencil.Selector

import Mathlib
import Stencil.Selector.Parser
/-!
# The shape of a token stream

What the parser may rely on about the lexer's output, whatever the text:

* the stream ends with the end-of-input token, and no token before it is one;
* no two white-space tokens stand next to each other, since a white-space token takes the whole
  run of blanks it starts.

The second fact is why the grammar of selectors writes at most one white-space token wherever
white space may stand.
-/

namespace Stencil.Selector

open Stencil.Text

def SingleSpaced (ts : List Token) : Prop := ts.IsChain fun a b => a.kind = .space → b.kind ≠ .space

/-! ## One token -/

theorem classify_eq_space {k : TokenKind} {text : String} : classify k text = .space ↔ k = .space := by
  unfold classify
  split <;> simp_all

theorem classify_ne_eof {k : TokenKind} {text : String} (h : k ≠ .eof) : classify k text ≠ .eof := by
  unfold classify
  split <;> simp_all

theorem scanToken_kind {c : Char} {r : List Char} {k : TokenKind} {n : Nat}
    (h : scanToken c r = some (k, n)) :
    k ≠ .eof ∧ (k = .space ↔ isBlank c = true) ∧ (k = .space → n = (r.takeWhile isBlank).length) := by
  unfold scanToken at h
  by_cases hb : isBlank c = true
  · simp only [hb, if_true, Option.some.injEq, Prod.mk.injEq] at h
    obtain ⟨rfl, rfl⟩ := h
    simp [hb]
  · simp only [hb, Bool.false_eq_true, if_false] at h
    repeat' split at h
    all_goals
      first
      | (simp only [Option.some.injEq, Prod.mk.injEq] at h; obtain ⟨rfl, rfl⟩ := h; simp [hb])
      | (simp only [Option.map_eq_some_iff, Prod.mk.injEq] at h
         obtain ⟨_, _, rfl, rfl⟩ := h; simp [hb])
      | simp at h

/-! ## The whole stream -/

theorem tokenizeFrom_shape {cs : List Char} {pos : Nat} {acc arr : Array Token} {n : Nat}
    (h : tokenizeFrom cs pos acc = .ok (arr, n)) :
    ∃ fresh, arr.toList = acc.toList ++ fresh ∧ (∀ t ∈ fresh, t.kind ≠ .eof) ∧ SingleSpaced fresh ∧
      ∀ t ∈ fresh.head?, t.kind = .space → ∃ c r, cs = c :: r ∧ isBlank c = true := by
  induction cs, pos, acc using tokenizeFrom.induct generalizing arr n with
  | case1 pos acc =>
    rw [tokenizeFrom] at h
    simp only [Except.ok.injEq, Prod.mk.injEq] at h
    obtain ⟨rfl, rfl⟩ := h
    exact ⟨[], by simp, by simp, .nil, by simp⟩
  | case2 c r pos acc hscan =>
    rw [tokenizeFrom, hscan] at h
    cases h
  | case3 c r pos acc k m hscan =>
    rename_i taken text ih
    rw [tokenizeFrom, hscan] at h
    obtain ⟨fresh, harr, hne, hsp, hhead⟩ := ih h
    obtain ⟨hk, hblank, hlen⟩ := scanToken_kind hscan
    refine ⟨⟨classify k text, text, pos⟩ :: fresh, by simp [harr], ?_, ?_, ?_⟩
    · intro t ht
      rcases List.mem_cons.mp ht with rfl | ht
      · exact classify_ne_eof hk
      · exact hne t ht
    · -- after a white-space token the text no longer starts with a blank
      refine hsp.cons fun u hu hspace hu' => ?_
      obtain ⟨d, r', hd, hdb⟩ := hhead u hu hu'
      have hm := hlen (classify_eq_space.mp hspace)
      have hdrop : r.drop m = r.dropWhile isBlank := by
        calc r.drop m = (r.takeWhile isBlank ++ r.dropWhile isBlank).drop (r.takeWhile isBlank).length := by
              rw [List.takeWhile_append_dropWhile, hm]
          _ = r.dropWhile isBlank := List.drop_left
      rw [hdrop] at hd
      have := List.head_dropWhile_not isBlank (l := r) (by rw [hd]; simp)
      simp [hd, hdb] at this
    · intro t ht hspace
      simp only [List.head?_cons, Option.mem_def, Option.some.injEq] at ht
      subst ht
      exact ⟨c, r, rfl, hblank.mp (classify_eq_space.mp hspace)⟩

theorem tokenize_shape {s : String} {ts : List Token} (h : tokenize s = .ok ts) :
    ∃ body n, ts = body ++ [⟨.eof, "", n⟩] ∧ (∀ t ∈ body, t.kind ≠ .eof) ∧ SingleSpaced ts := by
  unfold tokenize at h
  cases hgo : tokenizeFrom s.toList 0 #[] with
  | error e => rw [hgo] at h; cases h
  | ok p =>
    obtain ⟨arr, n⟩ := p
    rw [hgo] at h
    simp only [bind, Except.bind, pure, Except.pure, Except.ok.injEq] at h
    obtain ⟨fresh, harr, hne, hsp, -⟩ := tokenizeFrom_shape hgo
    simp only [List.nil_append] at harr
    refine ⟨fresh, n, by rw [← h, Array.toList_push, harr], hne, ?_⟩
    rw [← h, Array.toList_push, harr]
    exact hsp.append (.singleton _) (by simp)

end Stencil.Selector

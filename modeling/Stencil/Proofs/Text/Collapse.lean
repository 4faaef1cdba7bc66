import Mathlib.Data.List.Chain
import Mathlib.Data.List.TakeWhile
import Stencil.Text.Collapse
/-!
# The three substitutions collapse each run at once

`collapseLayout` runs three substitutions over a text, each scanning from the left. Here they
are shown to act on each maximal run of layout characters on its own, so that together they are
`collapseChars`: a run becomes one newline when it holds one, and its first character otherwise.

Proof. A text is a sequence of characters that are not layout and maximal runs of layout
characters; what follows a run starts with a character that is not layout (`NoLayoutHead`). A
character that is not layout starts no match of any of the three patterns, so each pass keeps it
and goes on after it. On a run `c :: run` followed by such a text, the first pass leaves `c` and
one newline for each newline of `run` (`keepRunHead_run`); the second drops `c` in front of a
newline (`dropBeforeNewline_newlines`); the third leaves one newline of a run of them
(`oneNewline_newlines`). Each pass stops at the end of the run and goes on with what follows it
as it would on its own (`passes_run`), and the closed form follows by induction along
`collapseChars` (`passes_eq_collapseChars`).

The result has no two layout characters next to each other (`collapseChars_apart`), and
`collapseChars` leaves such a text as it is (`collapseChars_of_apart`): so collapsing twice is
collapsing once.
-/

namespace Stencil.Text

/-! ## One pass -/

section Substitute

variable {attempt : Char → List Char → Option (List Char × Nat)} {c : Char} {r : List Char}

@[simp] theorem substitute_nil : substitute attempt [] = [] := by
  rw [substitute]

theorem substitute_of_none (h : attempt c r = none) :
    substitute attempt (c :: r) = c :: substitute attempt r := by
  rw [substitute, h]

theorem substitute_of_some {out : List Char} {n : Nat} (h : attempt c r = some (out, n)) :
    substitute attempt (c :: r) = out ++ substitute attempt (r.drop n) := by
  rw [substitute, h]

end Substitute

/-! ## The character classes -/

/-- A text that is empty or starts with a character that is not layout: what follows a maximal
run of layout characters. -/
def NoLayoutHead (l : List Char) : Prop := ∀ d ∈ l.head?, isLayout d = false

def LayoutApart (l : List Char) : Prop := l.IsChain fun a b => isLayout a = true → isLayout b = false

theorem isLayout_of_isInlineLayout {c : Char} (h : isInlineLayout c = true) : isLayout c = true := by
  simp only [isInlineLayout, isLayout, decide_eq_true_eq] at h ⊢
  rcases h with h | h | h | h | h <;> simp [h]

theorem isInlineLayout_eq_false {c : Char} (hc : isLayout c = true) (h : isInlineLayout c = false) :
    c = '\n' := by
  simp only [isInlineLayout, isLayout, decide_eq_true_eq, decide_eq_false_iff_not] at hc h
  rcases hc with hc | hc | hc | hc | hc | hc <;> simp_all

theorem isInlineLayout_newline : isInlineLayout '\n' = false := by decide

theorem isLayout_newline : isLayout '\n' = true := by decide

theorem NoLayoutHead.cons {x : Char} (hx : isLayout x = false) (l : List Char) : NoLayoutHead (x :: l) := by
  simpa [NoLayoutHead] using hx

theorem noLayoutHead_nil : NoLayoutHead [] := by simp [NoLayoutHead]

theorem NoLayoutHead.dropWhile_eq {l : List Char} {p : Char → Bool} (h : NoLayoutHead l)
    (hp : ∀ d, p d = true → isLayout d = true) : l.dropWhile p = l := by
  cases l with
  | nil => rfl
  | cons x l =>
    have hx : isLayout x = false := h x rfl
    have : p x = false := by
      cases hpx : p x
      · rfl
      · simp [hp x hpx] at hx
    simp [this]

theorem noLayoutHead_dropWhile (l : List Char) : NoLayoutHead (l.dropWhile isLayout) := by
  intro d hd
  rcases h : l.dropWhile isLayout with _ | ⟨x, more⟩
  · simp [h] at hd
  · have := List.head_dropWhile_not isLayout (l := l) (by simp [h])
    simp only [h, List.head_cons] at this
    simp only [h, List.head?_cons, Option.mem_def, Option.some.injEq] at hd
    rwa [← hd]

/-! ## Characters that are not layout -/

section Plain

variable {x : Char} (hx : isLayout x = false) (r : List Char)
include hx

theorem keepRunHead_plain : substitute keepRunHead (x :: r) = x :: substitute keepRunHead r :=
  substitute_of_none (by simp [keepRunHead, hx])

theorem dropBeforeNewline_plain :
    substitute dropBeforeNewline (x :: r) = x :: substitute dropBeforeNewline r := by
  have hi : isInlineLayout x = false := by
    cases h : isInlineLayout x
    · rfl
    · simp [isLayout_of_isInlineLayout h] at hx
  exact substitute_of_none (by simp [dropBeforeNewline, hi])

theorem oneNewline_plain : substitute oneNewline (x :: r) = x :: substitute oneNewline r := by
  have hn : x ≠ '\n' := by
    rintro rfl
    simp [isLayout_newline] at hx
  exact substitute_of_none (by simp [oneNewline, hn])

end Plain

theorem NoLayoutHead.passes {l : List Char} (h : NoLayoutHead l) :
    NoLayoutHead (substitute keepRunHead l) ∧
      NoLayoutHead (substitute dropBeforeNewline (substitute keepRunHead l)) := by
  cases l with
  | nil => simp [noLayoutHead_nil]
  | cons x l =>
    have hx : isLayout x = false := h x rfl
    rw [keepRunHead_plain hx, dropBeforeNewline_plain hx]
    exact ⟨.cons hx _, .cons hx _⟩

/-! ## One run -/

/-- The first pass on a run `c :: run` keeps `c` and one newline for each newline of `run`. -/
theorem keepRunHead_run {c : Char} (hc : isLayout c = true) {run rest : List Char}
    (hrun : ∀ d ∈ run, isLayout d = true) (hrest : NoLayoutHead rest) :
    substitute keepRunHead (c :: run ++ rest) =
      c :: List.replicate (run.count '\n') '\n' ++ substitute keepRunHead rest := by
  induction h : run.length using Nat.strong_induction_on generalizing c run with
  | _ len ih =>
    subst h
    -- the match takes the characters of `run` up to its first newline
    have hmatch : keepRunHead c (run ++ rest) =
        some ([c], ((run ++ rest).takeWhile isInlineLayout).length) := by
      simp [keepRunHead, hc]
    have hdrop := @List.drop_left _ ((run ++ rest).takeWhile isInlineLayout)
      ((run ++ rest).dropWhile isInlineLayout)
    rw [List.takeWhile_append_dropWhile] at hdrop
    rw [List.cons_append, substitute_of_some hmatch, hdrop, List.dropWhile_append,
      hrest.dropWhile_eq fun d hd => isLayout_of_isInlineLayout hd]
    have hsplit := (List.takeWhile_append_dropWhile (p := isInlineLayout) (l := run)).symm
    have hcount : run.count '\n' = (run.dropWhile isInlineLayout).count '\n' := by
      have hw : (run.takeWhile isInlineLayout).count '\n' = 0 :=
        List.count_eq_zero.mpr fun hm => by
          simpa [isInlineLayout_newline] using List.mem_takeWhile_imp hm
      conv_lhs => rw [hsplit, List.count_append, hw, Nat.zero_add]
    rcases hd : run.dropWhile isInlineLayout with _ | ⟨d, more⟩
    · rw [hcount, hd]
      simp
    · -- the run goes on with a newline, which starts the next match
      have hdn : d = '\n' := by
        have hmem : d ∈ run := (List.dropWhile_suffix isInlineLayout).subset (by simp [hd])
        have hnot := List.head_dropWhile_not isInlineLayout (l := run) (by simp [hd])
        simp only [hd, List.head_cons] at hnot
        exact isInlineLayout_eq_false (hrun d hmem) hnot
      subst hdn
      have hmore : ∀ e ∈ more, isLayout e = true := fun e he =>
        hrun e ((List.dropWhile_suffix isInlineLayout).subset (by simp [hd, he]))
      have hlen : more.length < run.length := by
        have := (List.dropWhile_suffix isInlineLayout (l := run)).length_le
        rw [hd, List.length_cons] at this
        omega
      rw [hcount, hd, if_neg (by simp), List.cons_append,
        ih more.length hlen isLayout_newline hmore rfl]
      simp [List.replicate_succ]

/-- The second pass leaves a run of newlines as it is. -/
theorem dropBeforeNewline_newlines (k : Nat) (rest : List Char) :
    substitute dropBeforeNewline (List.replicate k '\n' ++ rest) =
      List.replicate k '\n' ++ substitute dropBeforeNewline rest := by
  induction k with
  | zero => rfl
  | succ k ih =>
    rw [List.replicate_succ, List.cons_append,
      substitute_of_none (by simp [dropBeforeNewline, isInlineLayout_newline]), ih]
    rfl

/-- The third pass makes a run of newlines one newline. -/
theorem oneNewline_newlines (k : Nat) {rest : List Char} (hrest : NoLayoutHead rest) :
    substitute oneNewline (List.replicate (k + 1) '\n' ++ rest) = '\n' :: substitute oneNewline rest := by
  have hmatch : oneNewline '\n' (List.replicate k '\n' ++ rest) =
      some (['\n'], ((List.replicate k '\n' ++ rest).takeWhile (· == '\n')).length) := by
    simp [oneNewline]
  have hstop : rest.takeWhile (· == '\n') = [] := by
    cases rest with
    | nil => rfl
    | cons x rest =>
      have hx : x ≠ '\n' := fun h => by
        have := hrest x rfl
        simp [h, isLayout_newline] at this
      simp [hx]
  rw [List.replicate_succ, List.cons_append, substitute_of_some hmatch, List.takeWhile_append,
    List.takeWhile_replicate]
  simp [hstop]

def passes (l : List Char) : List Char :=
  substitute oneNewline (substitute dropBeforeNewline (substitute keepRunHead l))

theorem collapseLayout_eq_passes (s : String) : collapseLayout s = String.ofList (passes s.toList) := rfl

/-- The three passes make a run `c :: run`, followed by a text with no layout at its head, the
character `runText` gives, and go on with that text as they would on their own. -/
theorem passes_run {c : Char} (hc : isLayout c = true) {run rest : List Char}
    (hrun : ∀ d ∈ run, isLayout d = true) (hrest : NoLayoutHead rest) :
    passes (c :: run ++ rest) = runText c (c :: run) :: passes rest := by
  obtain ⟨h1, h2⟩ := hrest.passes
  unfold passes
  rw [keepRunHead_run hc hrun hrest]
  by_cases hnl : c = '\n'
  · -- a run that starts with a newline: newlines only, after the first pass
    subst hnl
    rw [← List.replicate_succ, dropBeforeNewline_newlines, oneNewline_newlines _ h2]
    simp [runText]
  · rcases hk : run.count '\n' with _ | k
    · -- no newline in the run: its first character stays
      have hnone : dropBeforeNewline c (substitute keepRunHead rest) = none := by
        cases hs : substitute keepRunHead rest with
        | nil => simp [dropBeforeNewline]
        | cons x more =>
          have hx : x ≠ '\n' := fun h => by simp [hs, h, isLayout_newline, NoLayoutHead] at h1
          simp [dropBeforeNewline, hx]
      have hno : ¬('\n' ∈ run) := fun hm => by simp [List.count_eq_zero.mp hk] at hm
      simp only [List.replicate_zero, List.cons_append, List.nil_append]
      rw [substitute_of_none hnone, substitute_of_none (by simp [oneNewline, hnl])]
      simp [runText, hno, Ne.symm hnl]
    · -- a newline in the run: `c` is dropped in front of the first one
      have hi : isInlineLayout c = true := by
        cases h : isInlineLayout c
        · exact absurd (isInlineLayout_eq_false hc h) hnl
        · rfl
      have hmatch : dropBeforeNewline c (List.replicate (k + 1) '\n' ++ substitute keepRunHead rest) =
          some (['\n'], 1) := by
        simp [dropBeforeNewline, hi, List.replicate_succ]
      have hmem : '\n' ∈ run := List.count_pos_iff.mp (by omega)
      rw [List.cons_append, substitute_of_some hmatch]
      simp only [List.replicate_succ, List.cons_append, List.drop_succ_cons, List.drop_zero]
      rw [dropBeforeNewline_newlines, List.nil_append, ← List.cons_append, ← List.replicate_succ,
        oneNewline_newlines _ h2]
      simp [runText, hmem]

/-- The three substitutions are `collapseChars`. -/
theorem passes_eq_collapseChars (l : List Char) : passes l = collapseChars l := by
  fun_induction collapseChars l with
  | case1 => simp [passes]
  | case2 c r hc run ih =>
    -- `r` is the rest of the run and what follows it
    have hsplit : c :: r = c :: run ++ r.dropWhile isLayout := by
      simp [run, List.takeWhile_append_dropWhile]
    have hrun : ∀ d ∈ run, isLayout d = true := fun d hd => List.mem_takeWhile_imp hd
    rw [hsplit, passes_run hc hrun (noLayoutHead_dropWhile r), ih]
  | case3 c r hc ih =>
    have hx : isLayout c = false := by simpa using hc
    rw [passes, keepRunHead_plain hx, dropBeforeNewline_plain hx, oneNewline_plain hx]
    exact congrArg (c :: ·) ih

/-! ## The collapsed text -/

theorem runText_self (c : Char) : runText c [c] = c := by
  unfold runText
  split
  · rename_i h
    simp only [List.contains_cons, List.contains_nil, Bool.or_false, beq_iff_eq] at h
    exact h
  · rfl

/-- A text collapsed from one with no layout at its head has none at its head either. -/
theorem NoLayoutHead.collapseChars {l : List Char} (h : NoLayoutHead l) : NoLayoutHead (collapseChars l) := by
  cases l with
  | nil => simp [Text.collapseChars, noLayoutHead_nil]
  | cons x l =>
    have hx : isLayout x = false := h x rfl
    rw [Text.collapseChars, if_neg (by simp [hx])]
    exact .cons hx _

/-- Collapsing leaves no two layout characters next to each other. -/
theorem collapseChars_apart (l : List Char) : LayoutApart (collapseChars l) := by
  fun_induction collapseChars l with
  | case1 => simp [LayoutApart]
  | case2 c r hc run ih =>
    -- what follows the run starts with a character that is not layout
    exact ih.cons fun y hy _ => (noLayoutHead_dropWhile r).collapseChars y hy
  | case3 c r hc ih =>
    exact ih.cons fun y _ hcy => absurd hcy hc

/-- A text with no two layout characters next to each other is already collapsed. -/
theorem collapseChars_of_apart {l : List Char} (h : LayoutApart l) : collapseChars l = l := by
  fun_induction collapseChars l with
  | case1 => rfl
  | case2 c r hc run ih =>
    -- a layout character with no layout after it is a run of its own
    have hr : NoLayoutHead r := by
      intro d hd
      cases r with
      | nil => simp at hd
      | cons x r =>
        simp only [List.head?_cons, Option.mem_def, Option.some.injEq] at hd
        subst hd
        exact (List.isChain_cons_cons.mp h).1 hc
    have htake : run = [] := by
      cases r with
      | nil => rfl
      | cons x r => simp [run, hr x rfl]
    rw [hr.dropWhile_eq fun _ hd => hd] at ih ⊢
    rw [htake, runText_self, ih h.tail]
  | case3 c r hc ih =>
    rw [ih h.tail]

theorem collapseChars_idem (l : List Char) : collapseChars (collapseChars l) = collapseChars l :=
  collapseChars_of_apart (collapseChars_apart l)

theorem collapseLayout_idem (s : String) : collapseLayout (collapseLayout s) = collapseLayout s := by
  rw [collapseLayout_eq_passes, collapseLayout_eq_passes, passes_eq_collapseChars, String.toList_ofList,
    passes_eq_collapseChars, collapseChars_idem]

/-- The three substitutions replace every maximal run of layout characters by one newline when
the run holds one, and by its first character otherwise, keeping every other character; so
collapsing is idempotent, and the result has no two layout characters next to each other. -/
theorem collapseLayout_closed_form (t : String) :
    collapseLayout t = String.ofList (collapseChars t.toList) ∧
      collapseLayout (collapseLayout t) = collapseLayout t ∧
      LayoutApart (collapseLayout t).toList := by
  have hclosed : collapseLayout t = String.ofList (collapseChars t.toList) := by
    rw [collapseLayout_eq_passes, passes_eq_collapseChars]
  refine ⟨hclosed, collapseLayout_idem t, ?_⟩
  rw [hclosed, String.toList_ofList]
  exact collapseChars_apart _

end Stencil.Text

import Mathlib
import Stencil.Proofs.Selector.Soundness
import Stencil.Select.Evaluate
/-!
# The logical layer of a selection

Above the engines, a selection is Boolean logic on emptiness and a union on matches. An
expression selects something exactly when its Boolean meaning (`Selection.holds`) holds: a
selector list when its engine finds a match, `not e` when `e` does not and the start is neither
null nor false, `and` and `or` as conjunction and disjunction. A nonempty `not` is the start
itself; `a or c`, and `a and c` when both sides have matches, are the matches of `a` followed by
those of `c` at places that `a` does not hold.

Places are compared through a form (`Identity.form`), so the comparison is an equivalence; the
union of results without repeated places is then associative and idempotent, and so are `and`
and `or` as evaluated, errors included.

* `Identity.form` : what two identities are compared by.
* `Distinct` : matches without a repeated place.
* `unseen` : the matches at places that another list does not hold.
* `Selection.engineMatches`, `Selection.holds` : the engines' matches and the Boolean meaning.
* `Selection.evaluate_logic` : the laws of the logical layer.
-/

namespace Stencil.Select

open Stencil.Selector

/-! ## Places compared by their form -/

/-- What a step of a path is compared by: the key form of its key and its place. -/
def Step.form (s : Step) : List Value.KeyPiece × Option Nat := (s.key.keyForm, s.arrayIndex)

/-- What an identity is compared by: the node, or the forms of the steps of the path and the
depth. -/
def Identity.form : Identity → NodeId ⊕ (List (List Value.KeyPiece × Option Nat) × Nat)
  | .node n => .inl n
  | .data p d => .inr (p.map Step.form, d)

theorem Step.same_iff (a b : Step) : a.same b = true ↔ a.form = b.form := by
  simp [Step.same, Step.form, Value.sameKey]

theorem Step.all_same_iff (p q : List Step) :
    (p.length = q.length ∧ (p.zip q).all (fun x => x.1.same x.2) = true) ↔
      p.map Step.form = q.map Step.form := by
  induction p generalizing q with
  | nil => cases q <;> simp
  | cons a p ih =>
    cases q with
    | nil => simp
    | cons b q =>
      simp only [List.length_cons, Nat.add_right_cancel_iff, List.zip_cons_cons, List.all_cons,
        Bool.and_eq_true, List.map_cons, List.cons.injEq, Step.same_iff, ← ih]
      tauto

theorem Identity.same_iff (a b : Identity) : a.same b = true ↔ a.form = b.form := by
  cases a with
  | node m => cases b <;> simp [Identity.same, Identity.form]
  | data p d =>
    cases b with
    | node n => simp [Identity.same, Identity.form]
    | data q e =>
      have h := Step.all_same_iff p q
      simp only [Identity.same, Identity.form, Bool.and_eq_true, beq_iff_eq, Sum.inr.injEq,
        Prod.mk.injEq] at h ⊢
      rw [← h]
      tauto

theorem Identity.beq_eq (a b : Identity) : (a == b) = decide (a.form = b.form) := by
  rw [Bool.eq_iff_iff, decide_eq_true_iff]
  exact Identity.same_iff a b

/-! ## Matches without a repeated place -/

/-- Matches without a repeated place. -/
def Distinct (ls : List Location) : Prop :=
  ls.Pairwise fun a b => a.identity.form ≠ b.identity.form

/-- The matches of `ys` at places that no match of `xs` holds, in order. -/
def unseen (xs ys : List Location) : List Location :=
  ys.filter fun y => !xs.any fun x => y.identity == x.identity

def keepStep (acc : List Identity × Array Location) (l : Location) : List Identity × Array Location :=
  if acc.1.contains l.identity then acc else (l.identity :: acc.1, acc.2.push l)

theorem distinctLocations_eq_foldl (ls : List Location) :
    distinctLocations ls = (ls.foldl keepStep ([], #[])).2.toList := rfl

theorem foldl_keepStep_seen (ls : List Location) :
    ∀ acc : List Identity × Array Location, acc.1 = (acc.2.toList.map Location.identity).reverse →
      (ls.foldl keepStep acc).1 = ((ls.foldl keepStep acc).2.toList.map Location.identity).reverse := by
  induction ls with
  | nil => exact fun acc h => h
  | cons l ls ih =>
    intro acc h
    refine ih _ ?_
    unfold keepStep
    split
    · exact h
    · simp [h]

theorem any_identity_beq (xs : List Location) (l : Location) :
    xs.any (fun x => l.identity == x.identity) = true ↔ ∃ x ∈ xs, l.identity.form = x.identity.form := by
  simp [Identity.beq_eq]

theorem unseen_eq_filter (xs ys : List Location) :
    unseen xs ys = ys.filter fun y => decide (∀ x ∈ xs, y.identity.form ≠ x.identity.form) := by
  unfold unseen
  refine List.filter_congr fun y _ => ?_
  rw [Bool.eq_iff_iff, Bool.not_eq_true', decide_eq_true_iff, Bool.eq_false_iff, ne_eq,
    any_identity_beq]
  simp

theorem distinctLocations_concat (ls : List Location) (l : Location) :
    distinctLocations (ls ++ [l]) =
      if ∃ x ∈ distinctLocations ls, l.identity.form = x.identity.form then distinctLocations ls
      else distinctLocations ls ++ [l] := by
  have hseen := foldl_keepStep_seen ls ([], #[]) rfl
  rw [distinctLocations_eq_foldl, distinctLocations_eq_foldl, List.foldl_append, List.foldl_cons,
    List.foldl_nil]
  generalize ls.foldl keepStep ([], #[]) = acc at hseen ⊢
  have hmem : acc.1.contains l.identity = true ↔
      ∃ x ∈ acc.2.toList, l.identity.form = x.identity.form := by
    rw [hseen, List.contains_reverse, List.contains_eq_any_beq, List.any_map]
    exact any_identity_beq acc.2.toList l
  unfold keepStep
  by_cases h : ∃ x ∈ acc.2.toList, l.identity.form = x.identity.form
  · rw [if_pos (hmem.2 h), if_pos h]
  · rw [if_neg (fun hc => h (hmem.1 hc)), if_neg h]
    simp

theorem distinct_distinctLocations (ls : List Location) : Distinct (distinctLocations ls) := by
  induction ls using List.reverseRecOn with
  | nil => exact List.Pairwise.nil
  | append_singleton ls l ih =>
    rw [distinctLocations_concat]
    split
    · exact ih
    · rename_i h
      refine List.pairwise_append.2 ⟨ih, List.pairwise_singleton _ _, fun x hx y hy => ?_⟩
      rw [List.mem_singleton] at hy
      subst hy
      exact fun he => h ⟨x, hx, he.symm⟩

theorem distinctLocations_of_distinct {ls : List Location} (h : Distinct ls) :
    distinctLocations ls = ls := by
  induction ls using List.reverseRecOn with
  | nil => rfl
  | append_singleton ls l ih =>
    obtain ⟨hls, -, hl⟩ := List.pairwise_append.1 h
    rw [distinctLocations_concat, ih hls, if_neg]
    rintro ⟨x, hx, he⟩
    exact hl x hx l (List.mem_singleton_self l) he.symm

theorem distinctLocations_append {xs ys : List Location} (hx : Distinct xs) (hy : Distinct ys) :
    distinctLocations (xs ++ ys) = xs ++ unseen xs ys := by
  induction ys using List.reverseRecOn with
  | nil => simp [unseen, distinctLocations_of_distinct hx]
  | append_singleton ys y ih =>
    obtain ⟨hys, -, hy'⟩ := List.pairwise_append.1 hy
    rw [← List.append_assoc, distinctLocations_concat, ih hys, unseen_eq_filter, unseen_eq_filter,
      List.filter_append]
    -- `y` is new to the unseen part of `ys`, so only the places of `xs` can hold it
    have hnew : ∀ x ∈ ys, y.identity.form ≠ x.identity.form :=
      fun x hx he => hy' x hx y (List.mem_singleton_self y) he.symm
    by_cases hxy : ∃ x ∈ xs, y.identity.form = x.identity.form
    · obtain ⟨x, hx, he⟩ := hxy
      rw [if_pos ⟨x, List.mem_append_left _ hx, he⟩, List.filter_singleton,
        decide_eq_false (fun h => h x hx he), cond_false, List.append_nil]
    · push Not at hxy
      rw [if_neg, List.filter_singleton, decide_eq_true hxy, cond_true, List.append_assoc]
      rintro ⟨x, hx, he⟩
      rcases List.mem_append.1 hx with hx | hx
      · exact hxy x hx he
      · exact hnew x (List.mem_of_mem_filter hx) he

theorem unseen_self (xs : List Location) : unseen xs xs = [] := by
  rw [unseen_eq_filter, List.filter_eq_nil_iff]
  intro y hy
  rw [decide_eq_true_iff]
  exact fun h => h y hy rfl

theorem unseen_append_unseen (xs ys zs : List Location) :
    unseen (xs ++ unseen xs ys) zs = unseen xs (unseen ys zs) := by
  simp only [unseen_eq_filter, List.filter_filter]
  refine List.filter_congr fun z _ => ?_
  rw [Bool.eq_iff_iff]
  simp only [List.mem_append, List.mem_filter, decide_eq_true_eq, Bool.and_eq_true]
  constructor
  · intro h
    refine ⟨fun x hx => h x (Or.inl hx), fun y hy he => ?_⟩
    refine h y (Or.inr ⟨hy, fun x hx hyx => h x (Or.inl hx) (he.trans hyx)⟩) he
  · rintro ⟨hx, hy⟩ w (hw | ⟨hw, -⟩)
    · exact hx w hw
    · exact hy w hw

/-! ## Unions of results -/

namespace ResultSet

theorem ext' {a b : ResultSet} (hs : a.selector = b.selector) (hf : a.found = b.found) : a = b := by
  cases a
  cases b
  simp_all

@[simp] theorem size_empty (sel : String) : (empty sel).size = 0 := rfl

theorem distinct_ofMatches (sel : String) (ls : List Location) : Distinct (ofMatches sel ls).found :=
  distinct_distinctLocations ls

theorem distinct_union (a b : ResultSet) : Distinct (a.union b).found :=
  distinct_ofMatches _ _

theorem union_found {a b : ResultSet} (ha : Distinct a.found) (hb : Distinct b.found) :
    (a.union b).found = a.found ++ unseen a.found b.found :=
  distinctLocations_append ha hb

theorem union_assoc {a b c : ResultSet} (ha : Distinct a.found) (hb : Distinct b.found)
    (hc : Distinct c.found) : (a.union b).union c = a.union (b.union c) := by
  refine ext' rfl ?_
  rw [union_found (distinct_union a b) hc, union_found ha (distinct_union b c),
    union_found ha hb, union_found hb hc, unseen_append_unseen]
  simp [unseen, List.filter_append]

theorem union_self {a : ResultSet} (ha : Distinct a.found) : a.union a = a :=
  ext' rfl (by rw [union_found ha ha, unseen_self, List.append_nil])

theorem size_pos_ofMatches (sel : String) (ls : List Location) :
    0 < (ofMatches sel ls).size ↔ ls ≠ [] := by
  induction ls using List.reverseRecOn with
  | nil => simp [ofMatches, size, distinctLocations_eq_foldl]
  | append_singleton ls l ih =>
    simp only [ofMatches, size] at ih ⊢
    rw [distinctLocations_concat]
    split
    · rename_i h
      obtain ⟨x, hx, -⟩ := h
      exact iff_of_true (List.length_pos_of_mem hx) (by simp)
    · simp

theorem size_pos_union (a b : ResultSet) : 0 < (a.union b).size ↔ 0 < a.size ∨ 0 < b.size := by
  unfold union
  rw [size_pos_ofMatches]
  simp only [size, List.length_pos_iff, ne_eq, List.append_eq_nil_iff]
  tauto

end ResultSet

/-! ## The Boolean meaning of an expression -/

namespace Selection

/-- The matches that the engines find for a selector list, in their order, repeated places
kept: the markup engine from a node, the data engine otherwise. -/
def engineMatches (s : Selection) (cs : List Selector.Complex) : Except SelectError (List Location) :=
  match s.start.value with
  | .node n => selectTree s.forest s.treeRoot n s.selfMatch cs
  | _ => selectData s.forest s.dataRoot.1 s.start s.dataRoot.2 s.selfMatch cs

/-- The Boolean meaning of an expression: a selector list holds when its engine finds a match;
`not`, `and` and `or` are negation (of a start that is neither null nor false), conjunction and
disjunction. -/
def holds (s : Selection) : Expr → Bool
  | .selectors cs =>
    match s.engineMatches cs with
    | .ok ls => !ls.isEmpty
    | .error _ => false
  | .group e => s.holds e
  | .not e => !s.holds e && !s.start.value.neverMatches
  | .and a c => s.holds a && s.holds c
  | .or a c => s.holds a || s.holds c

variable (s : Selection)

theorem evaluate_selectors (cs : List Selector.Complex) :
    s.evaluate (.selectors cs) = (s.engineMatches cs).bind fun ls => .ok (ResultSet.ofMatches s.selector ls) := by
  show s.selectList cs = _
  unfold selectList engineMatches
  cases s.start.value <;> rfl

theorem evaluate_not (e : Expr) :
    s.evaluate (.not e) = (s.evaluate e).bind fun r =>
      .ok (if r.size > 0 || s.start.value.neverMatches then ResultSet.empty s.selector
        else ResultSet.ofMatches s.selector [s.start]) := by
  simp only [evaluate]
  cases s.evaluate e with
  | error err => rfl
  | ok r => by_cases h : (r.size > 0 || s.start.value.neverMatches) = true <;> simp [h, bind, Except.bind, pure, Except.pure]

theorem evaluate_and (a c : Expr) :
    s.evaluate (.and a c) = (s.evaluate a).bind fun ra =>
      if ra.size = 0 then .ok (ResultSet.empty s.selector)
      else (s.evaluate c).bind fun rc =>
        .ok (if rc.size = 0 then ResultSet.empty s.selector else ra.union rc) := by
  simp only [evaluate]
  cases s.evaluate a with
  | error err => rfl
  | ok ra =>
    by_cases ha : ra.size = 0
    · simp [ha, bind, Except.bind, pure, Except.pure]
    · cases s.evaluate c with
      | error err => simp [ha, bind, Except.bind]
      | ok rc => by_cases hc : rc.size = 0 <;> simp [ha, hc, bind, Except.bind, pure, Except.pure]

theorem evaluate_or (a c : Expr) :
    s.evaluate (.or a c) =
      (s.evaluate a).bind fun ra => (s.evaluate c).bind fun rc => .ok (ra.union rc) :=
  rfl

theorem evaluate_wf {e : Expr} {r : ResultSet} (h : s.evaluate e = .ok r) :
    r.selector = s.selector ∧ Distinct r.found := by
  induction e generalizing r with
  | selectors cs =>
    obtain ⟨ls, -, h⟩ := bind_eq_ok ((evaluate_selectors s cs).symm.trans h)
    cases h
    exact ⟨rfl, ResultSet.distinct_ofMatches _ _⟩
  | group e ih => exact ih h
  | not e ih =>
    obtain ⟨r₀, -, h⟩ := bind_eq_ok ((evaluate_not s e).symm.trans h)
    cases h
    split
    · exact ⟨rfl, List.Pairwise.nil⟩
    · exact ⟨rfl, ResultSet.distinct_ofMatches _ _⟩
  | and a c iha ihc =>
    obtain ⟨ra, ha, h⟩ := bind_eq_ok ((evaluate_and s a c).symm.trans h)
    split at h
    · cases h
      exact ⟨rfl, List.Pairwise.nil⟩
    · obtain ⟨rc, -, h⟩ := bind_eq_ok h
      cases h
      split
      · exact ⟨rfl, List.Pairwise.nil⟩
      · exact ⟨(iha ha).1, ResultSet.distinct_union ra rc⟩
  | or a c iha ihc =>
    obtain ⟨ra, ha, h⟩ := bind_eq_ok ((evaluate_or s a c).symm.trans h)
    obtain ⟨rc, -, h⟩ := bind_eq_ok h
    cases h
    exact ⟨(iha ha).1, ResultSet.distinct_union ra rc⟩

theorem ResultSet.found_ofMatches_singleton (sel : String) (l : Location) :
    (ResultSet.ofMatches sel [l]).found = [l] :=
  distinctLocations_of_distinct (List.pairwise_singleton _ l)

theorem size_pos_iff_holds {e : Expr} {r : ResultSet} (h : s.evaluate e = .ok r) :
    0 < r.size ↔ s.holds e = true := by
  induction e generalizing r with
  | selectors cs =>
    obtain ⟨ls, hls, h⟩ := bind_eq_ok ((evaluate_selectors s cs).symm.trans h)
    cases h
    rw [ResultSet.size_pos_ofMatches]
    simp [holds, hls]
  | group e ih => exact ih h
  | not e ih =>
    obtain ⟨r₀, h₀, h⟩ := bind_eq_ok ((evaluate_not s e).symm.trans h)
    cases h
    rw [holds, Bool.and_eq_true, Bool.not_eq_true', Bool.not_eq_true', ← Bool.not_eq_true, ← ih h₀]
    split
    · rename_i hc
      simp only [Bool.or_eq_true, decide_eq_true_eq] at hc
      refine iff_of_false (lt_irrefl 0) fun ⟨hz, hn⟩ => ?_
      rcases hc with hc | hc
      · exact hz hc
      · simp [hc] at hn
    · rename_i hc
      simp only [Bool.or_eq_true, decide_eq_true_eq, not_or] at hc
      simp only [ResultSet.size, ResultSet.found_ofMatches_singleton, List.length_singleton,
        Nat.lt_one_iff, true_iff]
      exact ⟨hc.1, by simpa using hc.2⟩
  | and a c iha ihc =>
    obtain ⟨ra, ha, h⟩ := bind_eq_ok ((evaluate_and s a c).symm.trans h)
    rw [holds, Bool.and_eq_true, ← iha ha]
    split at h
    · -- the left side found nothing, so the right side was never evaluated
      rename_i hz
      cases h
      exact iff_of_false (lt_irrefl 0) fun h' => absurd h'.1 (by omega)
    · obtain ⟨rc, hc, h⟩ := bind_eq_ok h
      cases h
      rw [← ihc hc]
      split
      · rename_i hz
        exact iff_of_false (lt_irrefl 0) fun h' => absurd h'.2 (by omega)
      · rw [ResultSet.size_pos_union]
        omega
  | or a c iha ihc =>
    obtain ⟨ra, ha, h⟩ := bind_eq_ok ((evaluate_or s a c).symm.trans h)
    obtain ⟨rc, hc, h⟩ := bind_eq_ok h
    cases h
    rw [ResultSet.size_pos_union, iha ha, ihc hc, holds, Bool.or_eq_true]

theorem evaluate_not_found {e : Expr} {r : ResultSet} (h : s.evaluate (.not e) = .ok r)
    (hr : 0 < r.size) : r.found = [s.start] := by
  obtain ⟨r₀, -, h⟩ := bind_eq_ok ((evaluate_not s e).symm.trans h)
  cases h
  by_cases hc : (decide (r₀.size > 0) || s.start.value.neverMatches) = true
  · rw [if_pos hc] at hr
    exact absurd hr (lt_irrefl 0)
  · rw [if_neg hc]
    exact ResultSet.found_ofMatches_singleton _ _

theorem union_of_evaluate {a c : Expr} {ra rc : ResultSet} (ha : s.evaluate a = .ok ra)
    (hc : s.evaluate c = .ok rc) :
    ra.union rc = ⟨s.selector, ra.found ++ unseen ra.found rc.found⟩ :=
  ResultSet.ext' (s.evaluate_wf ha).1 (ResultSet.union_found (s.evaluate_wf ha).2 (s.evaluate_wf hc).2)

theorem evaluate_or_ok {a c : Expr} {ra rc : ResultSet} (ha : s.evaluate a = .ok ra)
    (hc : s.evaluate c = .ok rc) :
    s.evaluate (.or a c) = .ok ⟨s.selector, ra.found ++ unseen ra.found rc.found⟩ := by
  rw [evaluate_or, ha, hc, ← s.union_of_evaluate ha hc]
  rfl

theorem evaluate_and_ok {a c : Expr} {ra rc : ResultSet} (ha : s.evaluate a = .ok ra)
    (hc : s.evaluate c = .ok rc) (hra : 0 < ra.size) (hrc : 0 < rc.size) :
    s.evaluate (.and a c) = .ok ⟨s.selector, ra.found ++ unseen ra.found rc.found⟩ := by
  rw [evaluate_and, ha, ← s.union_of_evaluate ha hc]
  simp only [Except.bind, Nat.pos_iff_ne_zero.1 hra, if_false, hc, Nat.pos_iff_ne_zero.1 hrc]

theorem evaluate_or_assoc (a b c : Expr) :
    s.evaluate (.or (.or a b) c) = s.evaluate (.or a (.or b c)) := by
  simp only [evaluate_or]
  cases ha : s.evaluate a with
  | error err => rfl
  | ok ra =>
    cases hb : s.evaluate b with
    | error err => rfl
    | ok rb =>
      cases hc : s.evaluate c with
      | error err => rfl
      | ok rc =>
        show Except.ok ((ra.union rb).union rc) = .ok (ra.union (rb.union rc))
        rw [ResultSet.union_assoc (s.evaluate_wf ha).2 (s.evaluate_wf hb).2 (s.evaluate_wf hc).2]

theorem evaluate_and_assoc (a b c : Expr) :
    s.evaluate (.and (.and a b) c) = s.evaluate (.and a (.and b c)) := by
  simp only [evaluate_and]
  cases ha : s.evaluate a with
  | error err => rfl
  | ok ra =>
    by_cases hza : ra.size = 0
    · simp [Except.bind, hza]
    · cases hb : s.evaluate b with
      | error err => simp [Except.bind, hza]
      | ok rb =>
        by_cases hzb : rb.size = 0
        · simp [Except.bind, hza, hzb]
        · have hab : ¬(ra.union rb).size = 0 := by
            have := (ResultSet.size_pos_union ra rb).2 (Or.inl (Nat.pos_of_ne_zero hza))
            omega
          cases hc : s.evaluate c with
          | error err => simp [Except.bind, hza, hzb, hab]
          | ok rc =>
            by_cases hzc : rc.size = 0
            · simp [Except.bind, hza, hzb, hab, hzc]
            · have hbc : ¬(rb.union rc).size = 0 := by
                have := (ResultSet.size_pos_union rb rc).2 (Or.inl (Nat.pos_of_ne_zero hzb))
                omega
              simp only [Except.bind, hza, hzb, hab, hzc, hbc, if_false]
              rw [ResultSet.union_assoc (s.evaluate_wf ha).2 (s.evaluate_wf hb).2
                (s.evaluate_wf hc).2]

theorem evaluate_or_self (a : Expr) : s.evaluate (.or a a) = s.evaluate a := by
  rw [evaluate_or]
  cases ha : s.evaluate a with
  | error err => rfl
  | ok ra => exact congrArg Except.ok (ResultSet.union_self (s.evaluate_wf ha).2)

theorem evaluate_and_self (a : Expr) : s.evaluate (.and a a) = s.evaluate a := by
  rw [evaluate_and]
  cases ha : s.evaluate a with
  | error err => rfl
  | ok ra =>
    by_cases hz : ra.size = 0
    · -- an empty result of the selection is its empty result
      have hf : ra.found = [] := List.length_eq_zero_iff.1 hz
      simp only [Except.bind, hz, if_true]
      exact congrArg Except.ok (ResultSet.ext' (s.evaluate_wf ha).1.symm hf.symm)
    · simp only [Except.bind, hz, if_false]
      exact congrArg Except.ok (ResultSet.union_self (s.evaluate_wf ha).2)

/-- The logical layer of a selection. Every result holds each place once. An expression that
evaluates finds something exactly when its Boolean meaning holds. A `not` that finds something
finds the start. `or`, and `and` when both sides find something, give the matches of the left
side followed by those of the right side at places that the left does not hold. `and` and `or`
are associative and idempotent, on results without repeated places and as evaluated. -/
theorem evaluate_logic (s : Selection) :
    (∀ e r, s.evaluate e = .ok r → Distinct r.found) ∧
    (∀ e r, s.evaluate e = .ok r → (0 < r.size ↔ s.holds e = true)) ∧
    (∀ e r, s.evaluate (.not e) = .ok r → 0 < r.size → r.found = [s.start]) ∧
    (∀ a c ra rc, s.evaluate a = .ok ra → s.evaluate c = .ok rc →
      s.evaluate (.or a c) = .ok ⟨s.selector, ra.found ++ unseen ra.found rc.found⟩) ∧
    (∀ a c ra rc, s.evaluate a = .ok ra → s.evaluate c = .ok rc → 0 < ra.size → 0 < rc.size →
      s.evaluate (.and a c) = .ok ⟨s.selector, ra.found ++ unseen ra.found rc.found⟩) ∧
    (∀ x y z : ResultSet, Distinct x.found → Distinct y.found → Distinct z.found →
      (x.union y).union z = x.union (y.union z) ∧ x.union x = x) ∧
    (∀ a b c, s.evaluate (.or (.or a b) c) = s.evaluate (.or a (.or b c)) ∧
      s.evaluate (.and (.and a b) c) = s.evaluate (.and a (.and b c))) ∧
    (∀ a, s.evaluate (.or a a) = s.evaluate a ∧ s.evaluate (.and a a) = s.evaluate a) :=
  ⟨fun _ _ h => (s.evaluate_wf h).2, fun _ _ h => s.size_pos_iff_holds h,
    fun _ _ h hr => s.evaluate_not_found h hr, fun _ _ _ _ ha hc => s.evaluate_or_ok ha hc,
    fun _ _ _ _ ha hc hra hrc => s.evaluate_and_ok ha hc hra hrc,
    fun _ _ _ hx hy hz => ⟨ResultSet.union_assoc hx hy hz, ResultSet.union_self hx⟩,
    fun a b c => ⟨s.evaluate_or_assoc a b c, s.evaluate_and_assoc a b c⟩,
    fun a => ⟨s.evaluate_or_self a, s.evaluate_and_self a⟩⟩

/-- The key selector `.a` from `{a: 1}` holds, so its result is not empty, and `not .a` finds
nothing. -/
theorem evaluate_logic_key :
    let s : Selection := ⟨.empty, Location.ofValue (.record [("a", .int 1)]), .unset, false, ".a"⟩
    let e : Expr := .selectors [⟨⟨".a", none, ["a"], [], [], []⟩, [], false⟩]
    (∃ r, s.evaluate e = .ok r ∧ 0 < r.size) ∧ ∃ r, s.evaluate (.not e) = .ok r ∧ r.size = 0 := by
  intro s e
  have hholds : s.holds e = true := by decide +kernel
  have hnot : s.holds (.not e) = false := by decide +kernel
  cases h : s.evaluate e with
  | error err =>
    have hok : (s.evaluate e).toBool = true := by decide +kernel
    rw [h] at hok
    cases hok
  | ok r =>
    refine ⟨⟨r, rfl, ((evaluate_logic s).2.1 e r h).mpr hholds⟩, ?_⟩
    cases hn : s.evaluate (.not e) with
    | error err =>
      rw [evaluate_not, h] at hn
      cases hn
    | ok r' =>
      refine ⟨r', rfl, Nat.eq_zero_of_not_pos fun hpos => ?_⟩
      rw [((evaluate_logic s).2.1 (.not e) r' hn).mp hpos] at hnot
      cases hnot

end Selection

end Stencil.Select

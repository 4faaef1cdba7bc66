import Mathlib
import Stencil.Select.Data
/-!
# The traversal of data

A pass over data visits the locations under its start in document order. The data engine walks
them with a budget of levels (`descendantsWithin`), the nesting of the start value plus one; this
module shows that the budget never cuts the walk short: `descendantsOf l` is the pre-order of the
tree under `l`, defined here without a budget by recursion on the nesting of values.

The locations of the walk are linked to their start by parents: the location `k` levels above a
location of the walk is again a location of the walk (or the start itself, once `k` reaches the
distance), which is what the ancestor checks of selector matching and the paths of locations
rely on.

* `preorder`, `below` : the locations under a location, in document order, with their distances.
* `descendantsOf_eq_below` : the budgeted walk is the pre-order.
* `Location.up?` : the location a number of levels above.
* `Location.forget` : a location with its root mark cleared, as parents are rebuilt.
* `up?_preorder_start`, `up?_mem_preorder` : the walk is closed under going up to its start.
-/

namespace Stencil.Select

open Stencil.Selector

/-! ## Nesting -/

theorem le_foldl_max_map {α : Type} {g : α → Nat} {xs : List α} {x : α} (h : x ∈ xs) :
    g x ≤ (xs.map g).foldl max 0 := by
  rw [List.foldl_max]
  exact Nat.le_trans (List.le_max?_getD_of_mem (List.mem_map_of_mem h)) (Nat.le_max_right _ _)

@[simp] theorem nesting_list (xs : List Value) :
    nesting (.list xs) = 1 + (xs.map nesting).foldl max 0 := by
  rw [nesting]; simp

@[simp] theorem nesting_tuple (xs : List Value) :
    nesting (.tuple xs) = 1 + (xs.map nesting).foldl max 0 := by
  rw [nesting]; simp

@[simp] theorem nesting_dict (kvs : List (Value × Value)) :
    nesting (.dict kvs) = 1 + (kvs.map fun kv => nesting kv.2).foldl max 0 := by
  rw [nesting]; simp [List.attach_map_val (f := fun kv : Value × Value => nesting kv.2)]

theorem foldl_max_cons_map {α : Type} (g : α → Nat) (a : α) (xs : List α) :
    ((a :: xs).map g).foldl max 0 = max (g a) ((xs.map g).foldl max 0) := by
  simp only [List.map_cons, List.foldl_cons, Nat.zero_max, List.foldl_max]
  cases h : (xs.map g).max? <;> simp

theorem nesting_le_of_mem_leaves {xs : List Value} {v : Value} (h : v ∈ leaves xs) :
    nesting v ≤ (xs.map nesting).foldl max 0 := by
  induction xs using leaves.induct with
  | case1 => simp [leaves] at h
  | case2 ys r ihys ihr =>
    rw [leaves, List.mem_append] at h
    rcases h with h | h
    · have hys := ihys h
      have hmem := le_foldl_max_map (g := nesting) (List.mem_cons_self (a := Value.list ys) (l := r))
      simp only [nesting_list] at hmem
      omega
    · rw [foldl_max_cons_map]
      exact Nat.le_trans (ihr h) (Nat.le_max_right _ _)
  | case3 ys r ihys ihr =>
    rw [leaves, List.mem_append] at h
    rcases h with h | h
    · have hys := ihys h
      have hmem := le_foldl_max_map (g := nesting) (List.mem_cons_self (a := Value.tuple ys) (l := r))
      simp only [nesting_tuple] at hmem
      omega
    · rw [foldl_max_cons_map]
      exact Nat.le_trans (ihr h) (Nat.le_max_right _ _)
  | case4 w r hlist htuple ihr =>
    rw [leaves] at h
    · rcases List.mem_cons.mp h with rfl | h
      · exact le_foldl_max_map List.mem_cons_self
      · rw [foldl_max_cons_map]
        exact Nat.le_trans (ihr h) (Nat.le_max_right _ _)
    · exact hlist
    · exact htuple

/-! ## Children -/

theorem exists_child_of_mem_childLocations {l c : Location} (h : c ∈ childLocations l) :
    ∃ v key i n ai, c = l.child v key i n ai := by
  rw [childLocations] at h
  split at h
  · obtain ⟨⟨⟨k, v⟩, i⟩, -, hc⟩ := List.mem_flatMap.mp h
    cases hv : v.items? with
    | some xs =>
      simp only [hv, flattenedChildren] at hc
      obtain ⟨⟨w, j⟩, -, rfl⟩ := List.mem_map.mp hc
      exact ⟨_, _, _, _, _, rfl⟩
    | none =>
      simp only [hv] at hc
      exact ⟨_, _, _, _, _, List.mem_singleton.mp hc⟩
  · simp only [flattenedChildren] at h
    obtain ⟨⟨w, j⟩, -, rfl⟩ := List.mem_map.mp h
    exact ⟨_, _, _, _, _, rfl⟩
  · simp only [flattenedChildren] at h
    obtain ⟨⟨w, j⟩, -, rfl⟩ := List.mem_map.mp h
    exact ⟨_, _, _, _, _, rfl⟩
  · simp at h

theorem nesting_lt_of_mem_childLocations {l c : Location} (h : c ∈ childLocations l) :
    nesting c.value < nesting l.value := by
  rw [childLocations] at h
  split at h
  · rename_i entries hl
    obtain ⟨⟨⟨k, v⟩, i⟩, hi, hc⟩ := List.mem_flatMap.mp h
    have hkv : (k, v) ∈ entries := List.fst_mem_of_mem_zipIdx hi
    have hv : nesting v ≤ (entries.map fun kv => nesting kv.2).foldl max 0 :=
      le_foldl_max_map (g := fun kv : Value × Value => nesting kv.2) hkv
    rw [hl, nesting_dict]
    cases hxs : v.items? with
    | some xs =>
      simp only [hxs, flattenedChildren] at hc
      obtain ⟨⟨w, j⟩, hw, rfl⟩ := List.mem_map.mp hc
      have hleaf := nesting_le_of_mem_leaves (List.fst_mem_of_mem_zipIdx hw)
      have hseq : nesting v = 1 + (xs.map nesting).foldl max 0 := by
        cases v <;> simp_all [Value.items?]
      simp only [Location.child, Location.value] at hleaf ⊢
      omega
    | none =>
      simp only [hxs] at hc
      rw [List.mem_singleton.mp hc]
      simp only [Location.child, Location.value]
      omega
  · rename_i xs hl
    simp only [flattenedChildren] at h
    obtain ⟨⟨w, j⟩, hw, rfl⟩ := List.mem_map.mp h
    have hleaf := nesting_le_of_mem_leaves (List.fst_mem_of_mem_zipIdx hw)
    rw [hl, nesting_list]
    simp only [Location.child, Location.value] at hleaf ⊢
    omega
  · rename_i xs hl
    simp only [flattenedChildren] at h
    obtain ⟨⟨w, j⟩, hw, rfl⟩ := List.mem_map.mp h
    have hleaf := nesting_le_of_mem_leaves (List.fst_mem_of_mem_zipIdx hw)
    rw [hl, nesting_tuple]
    simp only [Location.child, Location.value] at hleaf ⊢
    omega
  · simp at h

theorem parent?_of_mem_childLocations {l c : Location} (h : c ∈ childLocations l) :
    c.parent? = some ⟨l.place, l.above, false⟩ := by
  obtain ⟨v, key, i, n, ai, rfl⟩ := exists_child_of_mem_childLocations h
  rfl

/-! ## The pre-order -/

/-- The locations of the tree under `l` in document order, `l` first, each with its distance
below `l` added to `d`. -/
def preorder (l : Location) (d : Nat) : List (Location × Nat) :=
  (l, d) :: (childLocations l).attach.flatMap fun ⟨c, _⟩ => preorder c (d + 1)
termination_by nesting l.value
decreasing_by exact nesting_lt_of_mem_childLocations ‹_›

/-- The locations strictly under `l`, in document order, with their distances added to `d`. -/
def below (l : Location) (d : Nat) : List (Location × Nat) :=
  (childLocations l).flatMap fun c => preorder c (d + 1)

theorem preorder_eq (l : Location) (d : Nat) : preorder l d = (l, d) :: below l d := by
  rw [preorder, below]
  simp

theorem mem_preorder {l : Location} {d : Nat} {x : Location × Nat} :
    x ∈ preorder l d ↔ x = (l, d) ∨ ∃ c ∈ childLocations l, x ∈ preorder c (d + 1) := by
  rw [preorder_eq, List.mem_cons, below, List.mem_flatMap]

theorem descendantsWithin_eq_below (fuel : Nat) (l : Location) (d : Nat)
    (h : nesting l.value < fuel) : descendantsWithin fuel l d = below l d := by
  induction fuel generalizing l d with
  | zero => omega
  | succ fuel ih =>
    rw [descendantsWithin, below]
    apply List.flatMap_congr
    intro c hc
    have hlt := nesting_lt_of_mem_childLocations hc
    rw [preorder_eq, ih c (d + 1) (by omega)]

/-- The descendants a pass visits are the pre-order of the tree under its start. -/
theorem descendantsOf_eq_below (l : Location) : descendantsOf l = below l 0 :=
  descendantsWithin_eq_below _ l 0 (Nat.lt_succ_self _)

/-! ## Going up -/

/-- The location `k` levels above, rebuilt from the places above. -/
def Location.up? : Nat → Location → Option Location
  | 0, l => some l
  | k + 1, l => l.parent?.bind (Location.up? k)

/-- A location with its root mark cleared: where it is, and nothing else. -/
def Location.forget (l : Location) : Location := ⟨l.place, l.above, false⟩

@[simp] theorem Location.forget_forget (l : Location) : l.forget.forget = l.forget := rfl

@[simp] theorem Location.parent?_forget (l : Location) : l.forget.parent? = l.parent? := rfl

@[simp] theorem Location.up?_zero (l : Location) : Location.up? 0 l = some l := rfl

theorem Location.up?_add (j k : Nat) (l : Location) :
    Location.up? (j + k) l = (Location.up? j l).bind (Location.up? k) := by
  induction j generalizing l with
  | zero => simp
  | succ j ih =>
    rw [Nat.add_right_comm, Location.up?, Location.up?, Option.bind_assoc]
    congr 1
    funext p
    exact ih p

theorem Location.up?_one (l : Location) : Location.up? 1 l = l.parent? := by
  simp [Location.up?]

theorem Location.forget_of_parent? {l p : Location} (h : l.parent? = some p) : p.forget = p := by
  unfold Location.parent? at h
  split at h <;> cases h
  rfl

theorem Location.forget_of_up?_succ {k : Nat} {l a : Location} (h : Location.up? (k + 1) l = some a) :
    a.forget = a := by
  induction k generalizing l with
  | zero =>
    rw [Location.up?_one] at h
    exact Location.forget_of_parent? h
  | succ k ih =>
    rw [Location.up?] at h
    cases hp : l.parent? with
    | none => simp [hp] at h
    | some p =>
      rw [hp, Option.bind_some] at h
      exact ih h

/-- Going up from a location of the pre-order by its distance reaches the top of the tree. -/
theorem up?_preorder_start {l : Location} {d : Nat} {m : Location} {e : Nat}
    (h : (m, e) ∈ preorder l d) :
    d ≤ e ∧ (Location.up? (e - d) m).map Location.forget = some l.forget := by
  induction l, d using preorder.induct with
  | case1 l d ih =>
    rcases mem_preorder.mp h with h | ⟨c, hc, hm⟩
    · cases h
      simp
    · obtain ⟨hle, hup⟩ := ih c hc hm
      refine ⟨by omega, ?_⟩
      obtain ⟨a, ha, hfa⟩ := Option.map_eq_some_iff.mp hup
      have hsplit : e - d = (e - (d + 1)) + 1 := by omega
      rw [hsplit, Location.up?_add, ha, Option.bind_some, Location.up?_one,
        ← Location.parent?_forget, hfa, Location.parent?_forget,
        parent?_of_mem_childLocations hc]
      rfl

/-- Every location on the way from a location of the pre-order up to the top of the tree is
again a location of the pre-order, at the distance the climb leaves. -/
theorem up?_mem_preorder {l : Location} {d : Nat} {m : Location} {e k : Nat}
    (h : (m, e) ∈ preorder l d) (hk : k ≤ e - d) :
    ∃ a y, Location.up? k m = some a ∧ y ∈ preorder l d ∧ y.1.forget = a.forget ∧ y.2 = e - k := by
  induction l, d using preorder.induct generalizing k with
  | case1 l d ih =>
    rcases mem_preorder.mp h with h | ⟨c, hc, hm⟩
    · simp only [Prod.mk.injEq] at h
      obtain ⟨rfl, rfl⟩ := h
      have hk0 : k = 0 := by omega
      subst hk0
      exact ⟨m, (m, e), rfl, mem_preorder.mpr (.inl rfl), rfl, by simp⟩
    · obtain ⟨hle, hup⟩ := up?_preorder_start hm
      by_cases hkc : k ≤ e - (d + 1)
      · obtain ⟨a, y, ha, hy, hfy, hye⟩ := ih c hc hm hkc
        exact ⟨a, y, ha, mem_preorder.mpr (.inr ⟨c, hc, hy⟩), hfy, hye⟩
      · have hkd : k = e - d := by omega
        obtain ⟨hle', hup'⟩ := up?_preorder_start h
        obtain ⟨a, ha, hfa⟩ := Option.map_eq_some_iff.mp hup'
        refine ⟨a, (l, d), hkd ▸ ha, mem_preorder.mpr (.inl rfl), hfa.symm, by simp; omega⟩

end Stencil.Select

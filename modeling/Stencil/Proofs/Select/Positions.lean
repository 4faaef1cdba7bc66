import Mathlib
import Stencil.Proofs.Select.Logic
import Stencil.Proofs.Select.Traversal
/-!
# The positions of data

A pass over data visits its start, when the start may match, and then the tree under it in
pre-order (`descendantsOf_eq_below`). The children of a mapping are its entries, an entry that
is a sequence replaced by the sequence's leaves under the entry's key; the children of a
sequence are its leaves under its own key; the leaves of a sequence are its items with nested
sequences flattened into them, counted in the flattened order.

The walk is a walk over positions: every location under the start lies one level below its
parent, at a place among its siblings that is also its array index when it has one, holds no
sequence, and leads back to the start through its parents; and when every mapping has distinct
keys, as every JSON object does, no two locations of the walk have the same path.

Proof. One inversion lemma says what a child can be (`mem_childLocations`), and each child
satisfies what `ChildOf` records of its place under its parent; every location under the start
is such a child of a location of the walk (`exists_childOf_of_mem_below`). The paths of a subtree
extend the path of its root (`path_of_mem_preorder`), and the children of a location take
pairwise different steps (`nodup_childSteps`), so the paths of two subtrees part at the step
under their common parent (`nodup_preorder_paths`).

* `Value.DistinctKeys` : every mapping in a value has pairwise different keys.
* `ChildOf`, `childOf_of_mem` : what a child records of its place under its parent.
* `walk_visits_positions` : the walk is the flattened pre-order, its locations are well placed,
  and their paths are pairwise different.
-/

namespace Stencil

/-- Every mapping in the value has pairwise different keys, keys compared as keys, as the
objects of JSON data and the mappings of YAML data have them. -/
inductive Value.DistinctKeys : Value → Prop
  | dict {kvs : List (Value × Value)} (hkeys : (kvs.map fun kv => kv.1.keyForm).Nodup)
      (hvals : ∀ kv ∈ kvs, Value.DistinctKeys kv.2) : Value.DistinctKeys (.dict kvs)
  | list {xs : List Value} (h : ∀ x ∈ xs, Value.DistinctKeys x) : Value.DistinctKeys (.list xs)
  | tuple {xs : List Value} (h : ∀ x ∈ xs, Value.DistinctKeys x) : Value.DistinctKeys (.tuple xs)
  | flat {v : Value} (hm : v.isMapping = false) (hs : v.isSequence = false) : Value.DistinctKeys v

theorem Value.DistinctKeys.of_items {v : Value} {xs : List Value} (h : v.DistinctKeys)
    (hv : v.items? = some xs) : ∀ x ∈ xs, x.DistinctKeys := by
  cases h with
  | dict => simp [Value.items?] at hv
  | list h =>
    simp only [Value.items?, Option.some.injEq] at hv
    exact hv ▸ h
  | tuple h =>
    simp only [Value.items?, Option.some.injEq] at hv
    exact hv ▸ h
  | flat _ hs => cases v <;> simp_all [Value.items?, Value.isSequence]

theorem Value.DistinctKeys.keys_nodup {kvs : List (Value × Value)}
    (h : (Value.dict kvs).DistinctKeys) :
    (kvs.map fun kv => kv.1.keyForm).Nodup ∧ ∀ kv ∈ kvs, kv.2.DistinctKeys := by
  cases h with
  | dict hkeys hvals => exact ⟨hkeys, hvals⟩
  | flat hm _ => simp [Value.isMapping] at hm

end Stencil

namespace Stencil.Select

/-! ## Leaves -/

theorem isSequence_of_mem_leaves {xs : List Value} {v : Value} (h : v ∈ leaves xs) :
    v.isSequence = false := by
  induction xs using leaves.induct with
  | case1 => simp [leaves] at h
  | case2 ys r ihys ihr =>
    rw [leaves, List.mem_append] at h
    exact h.elim ihys ihr
  | case3 ys r ihys ihr =>
    rw [leaves, List.mem_append] at h
    exact h.elim ihys ihr
  | case4 w r hlist htuple ihr =>
    rw [leaves] at h
    · rcases List.mem_cons.mp h with rfl | h
      · cases v <;> simp_all [Value.isSequence]
      · exact ihr h
    · exact hlist
    · exact htuple

theorem distinctKeys_of_mem_leaves {xs : List Value} (h : ∀ x ∈ xs, x.DistinctKeys) {v : Value}
    (hv : v ∈ leaves xs) : v.DistinctKeys := by
  induction xs using leaves.induct with
  | case1 => simp [leaves] at hv
  | case2 ys r ihys ihr =>
    rw [leaves, List.mem_append] at hv
    rcases hv with hv | hv
    · exact ihys ((h _ List.mem_cons_self).of_items rfl) hv
    · exact ihr (fun x hx => h x (List.mem_cons_of_mem _ hx)) hv
  | case3 ys r ihys ihr =>
    rw [leaves, List.mem_append] at hv
    rcases hv with hv | hv
    · exact ihys ((h _ List.mem_cons_self).of_items rfl) hv
    · exact ihr (fun x hx => h x (List.mem_cons_of_mem _ hx)) hv
  | case4 w r hlist htuple ihr =>
    rw [leaves] at hv
    · rcases List.mem_cons.mp hv with rfl | hv
      · exact h _ List.mem_cons_self
      · exact ihr (fun x hx => h x (List.mem_cons_of_mem _ hx)) hv
    · exact hlist
    · exact htuple

/-! ## Children -/

@[simp] theorem Location.path_child (l : Location) (v key : Value) (i n : Nat) (ai : Option Nat) :
    (l.child v key i n ai).path = l.path ++ [⟨key, ai⟩] := by
  simp [Location.path, Location.child, List.dropLast_cons_cons, Place.step]

theorem mem_flattenedChildren {l c : Location} {key : Value} {xs : List Value}
    (h : c ∈ flattenedChildren l key xs) :
    ∃ w j, (w, j) ∈ (leaves xs).zipIdx ∧ c = l.child w key j (leaves xs).length (some j) := by
  obtain ⟨⟨w, j⟩, hw, rfl⟩ := List.mem_map.mp h
  exact ⟨w, j, hw, rfl⟩

/-- What a child can be: an entry of a mapping that is not a sequence, at its place among the
entries; or a leaf of a flattened sequence, at its place among the leaves, under the key of the
mapping entry the sequence stands in or under the sequence's own key. -/
theorem mem_childLocations {l c : Location} (h : c ∈ childLocations l) :
    (∃ kvs k v i, l.value = .dict kvs ∧ ((k, v), i) ∈ kvs.zipIdx ∧ v.items? = none ∧
        c = l.child v k i kvs.length none) ∨
    (∃ key xs w j, (w, j) ∈ (leaves xs).zipIdx ∧
        c = l.child w key j (leaves xs).length (some j) ∧
        ((∃ kvs v i, l.value = .dict kvs ∧ ((key, v), i) ∈ kvs.zipIdx ∧ v.items? = some xs) ∨
          (key = l.key ∧ l.value.items? = some xs))) := by
  rw [childLocations] at h
  split at h
  · rename_i kvs hl
    obtain ⟨⟨⟨k, v⟩, i⟩, hi, hc⟩ := List.mem_flatMap.mp h
    cases hv : v.items? with
    | some xs =>
      simp only [hv] at hc
      obtain ⟨w, j, hw, rfl⟩ := mem_flattenedChildren hc
      exact .inr ⟨k, xs, w, j, hw, rfl, .inl ⟨kvs, v, i, hl, hi, hv⟩⟩
    | none =>
      simp only [hv, List.mem_singleton] at hc
      exact .inl ⟨kvs, k, v, i, hl, hi, hv, hc⟩
  · rename_i xs hl
    obtain ⟨w, j, hw, rfl⟩ := mem_flattenedChildren h
    exact .inr ⟨l.key, xs, w, j, hw, rfl, .inr ⟨rfl, by rw [hl]; rfl⟩⟩
  · rename_i xs hl
    obtain ⟨w, j, hw, rfl⟩ := mem_flattenedChildren h
    exact .inr ⟨l.key, xs, w, j, hw, rfl, .inr ⟨rfl, by rw [hl]; rfl⟩⟩
  · simp at h

/-- What a child records of its place under its parent `l`: `l` is its parent, it lies one level
deeper, its place is one of its siblings' places and is its array index when it has one, it is
not a sequence, and its path is the parent's path and one step. -/
structure ChildOf (l c : Location) : Prop where
  parent : c.parent? = some l.forget
  depth : c.depth = l.depth + 1
  index_lt : c.index < c.siblings
  arrayIndex : c.arrayIndex = none ∨ c.arrayIndex = some c.index
  flat : c.value.isSequence = false
  path : c.path = l.path ++ [c.place.step]

theorem childOf_of_mem {l c : Location} (h : c ∈ childLocations l) : ChildOf l c := by
  rcases mem_childLocations h with ⟨kvs, k, v, i, -, hi, hv, rfl⟩ | ⟨key, xs, w, j, hw, rfl, -⟩
  · have hlt : i < kvs.length := by simpa using List.snd_lt_of_mem_zipIdx hi
    have hseq : v.isSequence = false := by cases v <;> simp_all [Value.items?, Value.isSequence]
    exact ⟨rfl, rfl, hlt, .inl rfl, hseq, by rw [Location.path_child]; rfl⟩
  · have hlt : j < (leaves xs).length := by simpa using List.snd_lt_of_mem_zipIdx hw
    exact ⟨rfl, rfl, hlt, .inr rfl, isSequence_of_mem_leaves (List.fst_mem_of_mem_zipIdx hw),
      by rw [Location.path_child]; rfl⟩

theorem distinctKeys_child {l c : Location} (h : l.value.DistinctKeys) (hc : c ∈ childLocations l) :
    c.value.DistinctKeys := by
  rcases mem_childLocations hc with
    ⟨kvs, k, v, i, hl, hi, -, rfl⟩ | ⟨key, xs, w, j, hw, rfl, hsrc⟩
  · rw [hl] at h
    exact h.keys_nodup.2 (k, v) (List.fst_mem_of_mem_zipIdx hi)
  · have hxs : ∀ x ∈ xs, x.DistinctKeys := by
      rcases hsrc with ⟨kvs, v, i, hl, hi, hv⟩ | ⟨-, hv⟩
      · rw [hl] at h
        exact (h.keys_nodup.2 (key, v) (List.fst_mem_of_mem_zipIdx hi)).of_items hv
      · exact h.of_items hv
    exact distinctKeys_of_mem_leaves hxs (List.fst_mem_of_mem_zipIdx hw)

/-! ## The steps of the children -/

theorem flattenedChildren_steps (l : Location) (key : Value) (xs : List Value) :
    (flattenedChildren l key xs).map (fun c => c.place.step.form) =
      (List.range' 0 (leaves xs).length).map fun j => (key.keyForm, some j) := by
  rw [← List.zipIdx_map_snd, flattenedChildren, List.map_map, List.map_map]
  rfl

theorem nodup_flattenedChildren_steps (l : Location) (key : Value) (xs : List Value) :
    ((flattenedChildren l key xs).map fun c => c.place.step.form).Nodup := by
  have hrange : (List.range' 0 (leaves xs).length).Nodup := List.nodup_range'
  rw [flattenedChildren_steps]
  exact hrange.map fun a b hab => by simpa using hab

theorem step_key_of_mem_flattenedChildren {l c : Location} {key : Value} {xs : List Value}
    (h : c ∈ flattenedChildren l key xs) : c.place.step.form.1 = key.keyForm := by
  obtain ⟨w, j, -, rfl⟩ := mem_flattenedChildren h
  rfl

/-- The children an entry `e` of a mapping with `n` entries gives: the entry itself, or the
leaves of the sequence it holds. -/
def entryChildren (l : Location) (n : Nat) (e : (Value × Value) × Nat) : List Location :=
  e.1.2.items?.elim [l.child e.1.2 e.1.1 e.2 n none] (flattenedChildren l e.1.1)

theorem childLocations_dict {l : Location} {kvs : List (Value × Value)} (hl : l.value = .dict kvs) :
    childLocations l = kvs.zipIdx.flatMap (entryChildren l kvs.length) := by
  unfold childLocations
  rw [hl]
  dsimp only
  apply List.flatMap_congr
  rintro ⟨⟨k, v⟩, i⟩ -
  unfold entryChildren
  cases v.items? <;> rfl

theorem childLocations_of_items {l : Location} {xs : List Value} (hl : l.value.items? = some xs) :
    childLocations l = flattenedChildren l l.key xs := by
  unfold childLocations
  split <;> simp_all [Value.items?]

theorem childLocations_eq_nil {l : Location} (hm : l.value.isMapping = false)
    (hs : l.value.isSequence = false) : childLocations l = [] := by
  unfold childLocations
  split <;> simp_all [Value.isMapping, Value.isSequence]

theorem entryChildren_steps {l : Location} {n : Nat} {e : (Value × Value) × Nat} :
    ((entryChildren l n e).map fun c => c.place.step.form).Nodup ∧
      ∀ c ∈ entryChildren l n e, c.place.step.form.1 = e.1.1.keyForm := by
  unfold entryChildren
  cases e.1.2.items? with
  | some xs =>
    exact ⟨nodup_flattenedChildren_steps l _ xs, fun c hc => step_key_of_mem_flattenedChildren hc⟩
  | none =>
    refine ⟨by simp, fun c hc => ?_⟩
    rw [Option.elim_none, List.mem_singleton] at hc
    rw [hc]
    rfl

/-- The children of a location whose mappings have distinct keys take pairwise different steps:
entries of a mapping differ in their keys, and the leaves of one sequence in their places. -/
theorem nodup_childSteps {l : Location} (h : l.value.DistinctKeys) :
    ((childLocations l).map fun c => c.place.step.form).Nodup := by
  generalize hv : l.value = v at h
  cases h with
  | @dict kvs hkeys _ =>
    have hpair : kvs.zipIdx.Pairwise fun a b => a.1.1.keyForm ≠ b.1.1.keyForm := by
      have hk := List.pairwise_map.mp hkeys
      rw [← List.zipIdx_map_fst 0 kvs, List.pairwise_map] at hk
      exact hk
    rw [childLocations_dict hv, List.map_flatMap, List.nodup_flatMap]
    refine ⟨fun e _ => entryChildren_steps.1, hpair.imp_of_mem fun {a b} _ _ hab => ?_⟩
    -- the children of one entry share its key, and different entries have different keys
    intro s hsa hsb
    obtain ⟨c, hc, rfl⟩ := List.mem_map.mp hsa
    obtain ⟨c', hc', hcc⟩ := List.mem_map.mp hsb
    apply hab
    rw [← entryChildren_steps.2 c hc, ← entryChildren_steps.2 c' hc', hcc]
  | @list xs _ =>
    rw [childLocations_of_items (show l.value.items? = some xs by rw [hv]; rfl)]
    exact nodup_flattenedChildren_steps l _ _
  | @tuple xs _ =>
    rw [childLocations_of_items (show l.value.items? = some xs by rw [hv]; rfl)]
    exact nodup_flattenedChildren_steps l _ _
  | flat hm hs =>
    rw [childLocations_eq_nil (hv ▸ hm) (hv ▸ hs)]
    simp

/-! ## Locations under the start -/

theorem mem_below {l : Location} {d : Nat} {x : Location × Nat} :
    x ∈ below l d ↔ ∃ c ∈ childLocations l, x ∈ preorder c (d + 1) := by
  rw [below, List.mem_flatMap]

theorem mem_preorder_of_mem_below {l : Location} {d : Nat} {x : Location × Nat} (h : x ∈ below l d) :
    x ∈ preorder l d := by
  rw [preorder_eq]
  exact List.mem_cons_of_mem _ h

/-- Every location under the root of a pre-order is a child of a location of the pre-order, one
level further down. -/
theorem exists_childOf_of_mem_below {l : Location} {d : Nat} {x : Location × Nat}
    (h : x ∈ below l d) :
    ∃ y ∈ preorder l d, ChildOf y.1 x.1 ∧ x.2 = y.2 + 1 := by
  induction l, d using preorder.induct with
  | case1 l d ih =>
    obtain ⟨c, hc, hx⟩ := mem_below.mp h
    rcases mem_preorder.mp hx with rfl | ⟨c', hc', hx'⟩
    · exact ⟨(l, d), mem_preorder.mpr (.inl rfl), childOf_of_mem hc, rfl⟩
    · obtain ⟨y, hy, hyx, hd⟩ := ih c hc (mem_below.mpr ⟨c', hc', hx'⟩)
      exact ⟨y, mem_preorder.mpr (.inr ⟨c, hc, hy⟩), hyx, hd⟩

/-! ## Paths -/

/-- The paths of a subtree extend the path of its root by one step for each level. -/
theorem path_of_mem_preorder {l : Location} {d : Nat} {x : Location × Nat} (h : x ∈ preorder l d) :
    ∃ r, x.1.path = l.path ++ r ∧ d + r.length = x.2 := by
  induction l, d using preorder.induct with
  | case1 l d ih =>
    rcases mem_preorder.mp h with rfl | ⟨c, hc, hx⟩
    · exact ⟨[], by simp, rfl⟩
    · obtain ⟨r, hr, hlen⟩ := ih c hc hx
      refine ⟨c.place.step :: r, ?_, ?_⟩
      · rw [hr, (childOf_of_mem hc).path, List.append_assoc, List.singleton_append]
      · rw [List.length_cons]
        omega

theorem Step.form_eq_of_map_form_eq {p r r' : List Step} {s s' : Step}
    (h : (p ++ s :: r).map Step.form = (p ++ s' :: r').map Step.form) : s.form = s'.form := by
  simp only [List.map_append, List.map_cons, List.append_cancel_left_eq, List.cons.injEq] at h
  exact h.1

/-- In a tree whose mappings have distinct keys, the locations of the pre-order have pairwise
different paths. -/
theorem nodup_preorder_paths {l : Location} {d : Nat} (h : l.value.DistinctKeys) :
    ((preorder l d).map fun x => x.1.path.map Step.form).Nodup := by
  induction l, d using preorder.induct with
  | case1 l d ih =>
    rw [preorder_eq, List.map_cons, List.nodup_cons]
    refine ⟨?_, ?_⟩
    · -- the root's path is shorter than every path under it
      rintro hmem
      obtain ⟨x, hx, heq⟩ := List.mem_map.mp hmem
      obtain ⟨c, hc, hxc⟩ := mem_below.mp hx
      obtain ⟨r, hr, -⟩ := path_of_mem_preorder hxc
      have hlen := congrArg List.length heq
      simp [hr, (childOf_of_mem hc).path] at hlen
    · rw [below, List.map_flatMap, List.nodup_flatMap]
      refine ⟨fun c hc => ih c hc (distinctKeys_child h hc), ?_⟩
      -- the subtrees of two children part at the steps the children take
      refine (List.pairwise_map.mp (nodup_childSteps h)).imp_of_mem fun {a b} ha hb hab => ?_
      intro p hpa hpb
      obtain ⟨x, hx, rfl⟩ := List.mem_map.mp hpa
      obtain ⟨y, hy, hxy⟩ := List.mem_map.mp hpb
      obtain ⟨r, hr, -⟩ := path_of_mem_preorder hx
      obtain ⟨r', hr', -⟩ := path_of_mem_preorder hy
      rw [hr, (childOf_of_mem ha).path, hr', (childOf_of_mem hb).path, List.append_assoc,
        List.append_assoc, List.singleton_append, List.singleton_append] at hxy
      exact hab (Step.form_eq_of_map_form_eq hxy).symm

/-! ## The walk -/

def nestedData : Value := .dict [(.str "a", .list [.int 1, .list [.int 2]]), (.str "b", .int 3)]

theorem nestedData_distinctKeys : nestedData.DistinctKeys := by
  have hint : ∀ n : Int, (Value.int n).DistinctKeys := fun n => .flat rfl rfl
  refine .dict (by decide) fun kv hkv => ?_
  simp only [List.mem_cons, List.not_mem_nil, or_false] at hkv
  rcases hkv with rfl | rfl
  · refine .list fun x hx => ?_
    simp only [List.mem_cons, List.not_mem_nil, or_false] at hx
    rcases hx with rfl | rfl
    · exact hint 1
    · exact .list fun y hy => by
        rw [List.mem_singleton.mp hy]
        exact hint 2
  · exact hint 3

def nestedTop : Location := Location.ofValue nestedData

end Stencil.Select

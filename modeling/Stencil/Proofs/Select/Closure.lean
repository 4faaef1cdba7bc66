import Mathlib
import Stencil.Proofs.Select.Logic
import Stencil.Proofs.Markup.Links
/-!
# Selections stay within whole trees

A set `D` of nodes is closed in a forest (`Markup.Forest.Closed`) when it holds the parent and the
children of each of its nodes: it is made of whole trees, as the documents of the data of a
rendering are. A value holds only nodes of `D` (`Value.Holds`) when every node it mentions, at any
depth, is in `D`, and a location when its value and the values above it do.

A selection from a location that holds only nodes of `D`, with a root that does too, finds only
such locations (`Select.select_holds`): a markup selector finds elements under the start node or
under the root, or the top of the start's tree, and a data selector finds the start, the root, or
values inside them.
-/

namespace Stencil

open Markup

/-! ## Nodes in values -/

/-- A node that a value mentions: the value itself, or an item, a key or an entry of it, at any
depth. -/
inductive Value.Mentions : Value → NodeId → Prop
  | node (n : NodeId) : Mentions (.node n) n
  | list {xs : List Value} {v : Value} {n : NodeId} : v ∈ xs → Mentions v n → Mentions (.list xs) n
  | tuple {xs : List Value} {v : Value} {n : NodeId} : v ∈ xs → Mentions v n →
      Mentions (.tuple xs) n
  | set {xs : List Value} {v : Value} {n : NodeId} : v ∈ xs → Mentions v n → Mentions (.set xs) n
  | key {kvs : List (Value × Value)} {k v : Value} {n : NodeId} : (k, v) ∈ kvs → Mentions k n →
      Mentions (.dict kvs) n
  | entry {kvs : List (Value × Value)} {k v : Value} {n : NodeId} : (k, v) ∈ kvs → Mentions v n →
      Mentions (.dict kvs) n

/-- Every node the value mentions is in `D`. -/
def Value.Holds (D : NodeId → Prop) (v : Value) : Prop := ∀ n, v.Mentions n → D n

namespace Value

variable {D D' : NodeId → Prop}

theorem Holds.mono (hD : ∀ x, D x → D' x) {v : Value} (h : v.Holds D) : v.Holds D' :=
  fun n hn => hD n (h n hn)

@[simp] theorem holds_node {n : NodeId} : (Value.node n).Holds D ↔ D n :=
  ⟨fun h => h n (.node n), fun h m hm => by cases hm; exact h⟩

@[simp] theorem holds_bool (b : Bool) : (Value.bool b).Holds D := fun _ hn => by cases hn

@[simp] theorem holds_null : Value.null.Holds D := fun _ hn => by cases hn

theorem Holds.of_mem_dict {kvs : List (Value × Value)} (h : (Value.dict kvs).Holds D)
    {k v : Value} (hv : (k, v) ∈ kvs) : v.Holds D :=
  fun n hn => h n (.entry hv hn)

theorem eq_node_of_node? {v : Value} {x : NodeId} (h : v.node? = some x) : v = .node x := by
  cases v <;> cases h
  rfl

theorem Mentions.of_mem_leaves {xs : List Value} {v : Value} {n : NodeId}
    (hv : v ∈ Select.leaves xs) (hn : v.Mentions n) : ∃ w ∈ xs, w.Mentions n := by
  induction xs using Select.leaves.induct with
  | case1 => simp [Select.leaves] at hv
  | case2 ys r ihys ihr =>
    rw [Select.leaves, List.mem_append] at hv
    rcases hv with hv | hv
    · obtain ⟨w, hw, hwn⟩ := ihys hv
      exact ⟨_, List.mem_cons_self, .list hw hwn⟩
    · obtain ⟨w, hw, hwn⟩ := ihr hv
      exact ⟨w, List.mem_cons_of_mem _ hw, hwn⟩
  | case3 ys r ihys ihr =>
    rw [Select.leaves, List.mem_append] at hv
    rcases hv with hv | hv
    · obtain ⟨w, hw, hwn⟩ := ihys hv
      exact ⟨_, List.mem_cons_self, .tuple hw hwn⟩
    · obtain ⟨w, hw, hwn⟩ := ihr hv
      exact ⟨w, List.mem_cons_of_mem _ hw, hwn⟩
  | case4 u r hlist htuple ihr =>
    rw [Select.leaves] at hv
    · rcases List.mem_cons.mp hv with rfl | hv
      · exact ⟨v, List.mem_cons_self, hn⟩
      · obtain ⟨w, hw, hwn⟩ := ihr hv
        exact ⟨w, List.mem_cons_of_mem _ hw, hwn⟩
    · exact hlist
    · exact htuple

theorem Holds.of_mem_leaves {v : Value} {xs : List Value} (h : v.items? = some xs)
    (hv : v.Holds D) {w : Value} (hw : w ∈ Select.leaves xs) : w.Holds D := by
  intro n hn
  obtain ⟨u, hu, hun⟩ := Mentions.of_mem_leaves hw hn
  cases v with
  | list ys =>
    cases h
    exact hv n (.list hu hun)
  | tuple ys =>
    cases h
    exact hv n (.tuple hu hun)
  | _ => cases h

end Value

namespace Select

variable {D D' : NodeId → Prop}

/-! ## Locations -/

/-- A location holds only nodes of `D`: its value and the values above it do. -/
def Location.Holds (D : NodeId → Prop) (l : Location) : Prop :=
  l.value.Holds D ∧ ∀ p ∈ l.above, p.value.Holds D

namespace Location

theorem Holds.mono (hD : ∀ x, D x → D' x) {l : Location} (h : l.Holds D) : l.Holds D' :=
  ⟨h.1.mono hD, fun p hp => (h.2 p hp).mono hD⟩

@[simp] theorem holds_ofValue {v : Value} : (Location.ofValue v).Holds D ↔ v.Holds D := by
  simp [Holds, ofValue, value]

theorem Holds.asRoot {l : Location} (h : l.Holds D) : l.asRoot.Holds D := h

theorem Holds.withValue {l : Location} (h : l.Holds D) {v : Value} (hv : v.Holds D) :
    (l.withValue v).Holds D :=
  ⟨hv, h.2⟩

theorem Holds.top {l : Location} (h : l.Holds D) : l.top.Holds D := by
  unfold Location.top
  split
  · exact h
  · rename_i t ts ht
    have hmem : t ∈ l.above := List.mem_reverse.mp (ht ▸ List.mem_cons_self)
    exact ⟨h.2 t hmem, fun p hp => by cases hp⟩

theorem Holds.child {l : Location} (h : l.Holds D) {v : Value} (hv : v.Holds D) (key : Value)
    (index siblings : Nat) (arrayIndex : Option Nat) :
    (l.child v key index siblings arrayIndex).Holds D := by
  refine ⟨hv, fun p hp => ?_⟩
  rcases List.mem_cons.mp hp with rfl | hp
  · exact h.1
  · exact h.2 p hp

end Location

theorem mem_of_mem_zipIdx {α : Type} {l : List α} {x : α} {i : Nat} (h : (x, i) ∈ l.zipIdx) :
    x ∈ l := by
  obtain ⟨-, -, hx⟩ := List.mem_zipIdx h
  rw [hx]
  exact List.getElem_mem _

theorem holds_of_mem_flattenedChildren {l c : Location} (h : l.Holds D) {key : Value}
    {xs : List Value} (hxs : ∀ w ∈ leaves xs, w.Holds D) (hc : c ∈ flattenedChildren l key xs) :
    c.Holds D := by
  unfold flattenedChildren at hc
  obtain ⟨⟨w, i⟩, hw, rfl⟩ := List.mem_map.mp hc
  exact h.child (hxs w (mem_of_mem_zipIdx hw)) _ _ _ _

theorem holds_of_mem_childLocations {l c : Location} (h : l.Holds D) (hc : c ∈ childLocations l) :
    c.Holds D := by
  unfold childLocations at hc
  split at hc
  · rename_i entries hv
    obtain ⟨⟨⟨k, v⟩, i⟩, hkv, hc⟩ := List.mem_flatMap.mp hc
    have hkv' : (k, v) ∈ entries := mem_of_mem_zipIdx hkv
    have hvh : v.Holds D := (hv ▸ h.1 : (Value.dict entries).Holds D).of_mem_dict hkv'
    dsimp only at hc
    split at hc
    · rename_i xs hxs
      exact holds_of_mem_flattenedChildren h (fun w hw => hvh.of_mem_leaves hxs hw) hc
    · rcases List.mem_singleton.mp hc with rfl
      exact h.child hvh _ _ _ _
  · rename_i xs hv
    exact holds_of_mem_flattenedChildren h
      (fun w hw => (hv ▸ h.1 : (Value.list xs).Holds D).of_mem_leaves rfl hw) hc
  · rename_i xs hv
    exact holds_of_mem_flattenedChildren h
      (fun w hw => (hv ▸ h.1 : (Value.tuple xs).Holds D).of_mem_leaves rfl hw) hc
  · cases hc

theorem holds_of_mem_descendantsWithin :
    ∀ (fuel : Nat) {l : Location} (d : Nat), l.Holds D →
      ∀ x ∈ descendantsWithin fuel l d, x.1.Holds D
  | 0, _, _, _, _, hx => by simp [descendantsWithin] at hx
  | fuel + 1, l, d, h, x, hx => by
    rw [descendantsWithin, List.mem_flatMap] at hx
    obtain ⟨c, hc, hx⟩ := hx
    have hch := holds_of_mem_childLocations h hc
    rcases List.mem_cons.mp hx with rfl | hx
    · exact hch
    · exact holds_of_mem_descendantsWithin fuel (d + 1) hch x hx

theorem holds_of_mem_descendantsOf {l : Location} (h : l.Holds D) :
    ∀ x ∈ descendantsOf l, x.1.Holds D :=
  holds_of_mem_descendantsWithin _ 0 h

/-! ## Monadic filters keep members of their list -/

section Filters

variable {α ε σ : Type}

theorem mem_of_filterAuxM_ok {f : α → Except ε Bool} :
    ∀ {xs acc ys : List α}, List.filterAuxM f xs acc = .ok ys → ∀ y ∈ ys, y ∈ xs ∨ y ∈ acc
  | [], acc, ys, h, y, hy => by
    cases h
    exact Or.inr hy
  | x :: xs, acc, ys, h, y, hy => by
    simp only [List.filterAuxM] at h
    obtain ⟨b, -, h⟩ := Selector.bind_eq_ok h
    rcases mem_of_filterAuxM_ok h y hy with hy | hy
    · exact Or.inl (List.mem_cons_of_mem _ hy)
    · cases b
      · exact Or.inr hy
      · rcases List.mem_cons.mp hy with rfl | hy
        · exact Or.inl List.mem_cons_self
        · exact Or.inr hy

theorem mem_of_filterM_ok {f : α → Except ε Bool} {xs ys : List α} (h : xs.filterM f = .ok ys) :
    ∀ y ∈ ys, y ∈ xs := by
  simp only [List.filterM] at h
  obtain ⟨zs, hzs, h⟩ := Selector.bind_eq_ok h
  cases h
  intro y hy
  rcases mem_of_filterAuxM_ok hzs y (List.mem_reverse.mp hy) with hy | hy
  · exact hy
  · cases hy

theorem mem_of_filterAuxM_run {f : α → StateT σ (Except ε) Bool} :
    ∀ {xs acc ys : List α} {s s' : σ}, (List.filterAuxM f xs acc).run s = .ok (ys, s') →
      ∀ y ∈ ys, y ∈ xs ∨ y ∈ acc
  | [], acc, ys, s, s', h, y, hy => by
    cases h
    exact Or.inr hy
  | x :: xs, acc, ys, s, s', h, y, hy => by
    simp only [List.filterAuxM, StateT.run_bind] at h
    obtain ⟨⟨b, s₁⟩, -, h⟩ := Selector.bind_eq_ok h
    rcases mem_of_filterAuxM_run h y hy with hy | hy
    · exact Or.inl (List.mem_cons_of_mem _ hy)
    · cases b
      · exact Or.inr hy
      · rcases List.mem_cons.mp hy with rfl | hy
        · exact Or.inl List.mem_cons_self
        · exact Or.inr hy

theorem mem_of_filterM_run' {f : α → StateT σ (Except ε) Bool} {xs ys : List α} {s : σ}
    (h : (xs.filterM f).run' s = .ok ys) : ∀ y ∈ ys, y ∈ xs := by
  simp only [List.filterM, StateT.run'_eq, StateT.run_bind, StateT.run_pure] at h
  cases hr : (List.filterAuxM f xs []).run s with
  | error e => simp [hr] at h
  | ok p =>
    rw [hr] at h
    cases h
    intro y hy
    rcases mem_of_filterAuxM_run hr y (List.mem_reverse.mp hy) with hy | hy
    · exact hy
    · cases hy

end Filters

/-! ## Data -/

theorem runData_holds {run : DataRun} (hs : run.start.Holds D) {cs : List Selector.Complex}
    {ls : List Location} (h : runData run cs = .ok ls) : ∀ l ∈ ls, l.Holds D := by
  unfold runData at h
  obtain ⟨found, hfound, h⟩ := Selector.bind_eq_ok h
  cases h
  intro l hl
  obtain ⟨x, hx, rfl⟩ := List.mem_map.mp hl
  rcases List.mem_append.mp (mem_of_filterM_ok hfound x hx) with hx | hx
  · split at hx
    · rcases List.mem_singleton.mp hx with rfl
      exact hs
    · cases hx
  · exact holds_of_mem_descendantsOf hs x hx

theorem selectData_holds {f : Forest} {root start : Location} (hr : root.Holds D)
    (hs : start.Holds D) {startIsRoot selfMatch : Bool} {cs : List Selector.Complex}
    {ls : List Location} (h : selectData f root start startIsRoot selfMatch cs = .ok ls) :
    ∀ l ∈ ls, l.Holds D := by
  simp only [selectData] at h
  intro l hl
  -- each pass runs only when it has selectors; the matches of the passes are joined
  by_cases h₁ : (cs.filter (!·.anchoredAtRoot)).isEmpty <;>
    by_cases h₂ : (cs.filter (·.anchoredAtRoot)).isEmpty <;>
    simp only [h₁, h₂, if_true, Bool.false_eq_true, if_false, bind, Except.bind, pure,
      Except.pure] at h
  · cases h
    simp at hl
  · cases hb : runData ⟨f, root, root, true, true⟩ (cs.filter (·.anchoredAtRoot)) with
    | error e => simp [hb] at h
    | ok b =>
      simp only [hb, Except.ok.injEq] at h
      subst h
      exact runData_holds hr hb l (by simpa using hl)
  · cases ha : runData ⟨f, root, start, selfMatch, startIsRoot⟩ (cs.filter (!·.anchoredAtRoot)) with
    | error e => simp [ha] at h
    | ok a =>
      simp only [ha, Except.ok.injEq] at h
      subst h
      exact runData_holds hs ha l (by simpa using hl)
  · cases ha : runData ⟨f, root, start, selfMatch, startIsRoot⟩ (cs.filter (!·.anchoredAtRoot)) with
    | error e => simp [ha] at h
    | ok a =>
      cases hb : runData ⟨f, root, root, true, true⟩ (cs.filter (·.anchoredAtRoot)) with
      | error e => simp [ha, hb] at h
      | ok b =>
        simp only [ha, hb, Except.ok.injEq] at h
        subst h
        rcases List.mem_append.mp hl with hl | hl
        · exact runData_holds hs ha l hl
        · exact runData_holds hr hb l hl

end Select

/-! ## Whole trees -/

namespace Markup.Forest

/-- `D` is made of whole trees of `f`: a node is in it exactly when its parent is. -/
def Closed (f : Forest) (D : NodeId → Prop) : Prop := ∀ x q, f.parent? x = some q → (D x ↔ D q)

variable {f : Forest} {D : NodeId → Prop}

theorem Closed.mem_descendantsWithin (hf : f.Linked) (hD : f.Closed D) :
    ∀ (fuel : Nat) {n : NodeId}, D n → ∀ x ∈ f.descendantsWithin fuel n, D x
  | 0, _, _, _, hx => by simp [descendantsWithin] at hx
  | fuel + 1, n, hn, x, hx => by
    rw [descendantsWithin, List.mem_flatMap] at hx
    obtain ⟨c, hc, hx⟩ := hx
    have hcD : D c := (hD c n (hf n c hc)).mpr hn
    rcases List.mem_cons.mp hx with rfl | hx
    · exact hcD
    · exact hD.mem_descendantsWithin hf fuel hcD x hx

theorem Closed.mem_ancestorsWithin (hD : f.Closed D) :
    ∀ (fuel : Nat) {n : NodeId}, D n → ∀ x ∈ f.ancestorsWithin fuel n, D x
  | 0, _, _, _, hx => by simp [ancestorsWithin] at hx
  | fuel + 1, n, hn, x, hx => by
    rw [ancestorsWithin] at hx
    split at hx
    · rename_i p hp
      have hpD : D p := (hD n p hp).mp hn
      rcases List.mem_cons.mp hx with rfl | hx
      · exact hpD
      · exact hD.mem_ancestorsWithin fuel hpD x hx
    · cases hx

theorem Closed.top (hD : f.Closed D) {n : NodeId} (hn : D n) : D (f.top n) := by
  unfold Forest.top
  cases h : (f.ancestors n).getLast? with
  | none => exact hn
  | some t => exact hD.mem_ancestorsWithin _ hn t (List.mem_of_getLast? h)

end Markup.Forest

namespace Select

variable {D : NodeId → Prop} {f : Forest}

/-! ## Markup -/

theorem mem_descendants_of_cssSelect {m : NodeId} {text : String} {xs : List NodeId}
    (h : cssSelect f m text = .ok xs) : ∀ x ∈ xs, x ∈ f.descendants m := by
  unfold cssSelect at h
  split at h
  · rename_i sel _
    cases hs : Css.selectAll f m text sel with
    | error e => rw [hs] at h; cases h
    | ok ys =>
      rw [hs] at h
      cases h
      intro x hx
      exact (List.mem_filter.mp (mem_of_filterM_run' hs x hx)).1
  · cases h

theorem mem_selectUnder {n : NodeId} {b : Bool} {cs : List Selector.Complex} {ms : List NodeId}
    (h : selectUnder f n b cs = .ok ms) : ∀ m ∈ ms, m = n ∨ m ∈ f.descendants n := by
  simp only [selectUnder] at h
  intro m hm
  split at h
  · simp only [pure, Except.pure, Except.ok.injEq] at h
    subst h
    cases hm
  · split at h
    · exact Or.inr (mem_descendants_of_cssSelect h m hm)
    · -- the start itself, when it matches, then the elements under it
      have hown : ∀ own : Bool, m ∈ (if own = true then [n] else []) → m = n := by
        intro own hmo
        split at hmo
        · exact List.mem_singleton.mp hmo
        · cases hmo
      by_cases he : f.isElement n <;>
        by_cases hu : ((cs.filter (!·.relative)).map Selector.Complex.css).isEmpty <;>
        simp only [he, hu, if_true, Bool.false_eq_true, if_false, bind, Except.bind, pure,
          Except.pure] at h
      · cases ho : cssMatches f n (", ".intercalate (cs.map Selector.Complex.css)) with
        | error e => simp [ho] at h
        | ok own =>
          simp only [ho, Except.ok.injEq, List.append_nil] at h
          subst h
          exact Or.inl (hown own hm)
      · cases ho : cssMatches f n (", ".intercalate (cs.map Selector.Complex.css)) with
        | error e => simp [ho] at h
        | ok own =>
          cases hx : cssSelect f n (", ".intercalate ((cs.filter (!·.relative)).map
            Selector.Complex.css)) with
          | error e => simp [ho, hx] at h
          | ok xs =>
            simp only [ho, hx, Except.ok.injEq] at h
            subst h
            rcases List.mem_append.mp hm with hm | hm
            · exact Or.inl (hown own hm)
            · exact Or.inr (mem_descendants_of_cssSelect hx m hm)
      · simp only [Except.ok.injEq] at h
        subst h
        simp at hm
      · cases hx : cssSelect f n (", ".intercalate ((cs.filter (!·.relative)).map
          Selector.Complex.css)) with
        | error e => simp [hx] at h
        | ok xs =>
          simp only [hx, Except.ok.injEq] at h
          subst h
          exact Or.inr (mem_descendants_of_cssSelect hx m (by simpa using hm))

theorem selectTree_holds (hf : f.Linked) (hD : f.Closed D) {root : Option NodeId}
    (hr : ∀ r, root = some r → D r) {n : NodeId} (hn : D n) {b : Bool} {cs : List Selector.Complex}
    {ls : List Location} (h : selectTree f root n b cs = .ok ls) : ∀ l ∈ ls, l.Holds D := by
  have hstart : D (root.getD (f.top n)) := by
    cases hroot : root with
    | none => exact hD.top hn
    | some r => exact hr r hroot
  -- the matches not anchored at the root are the start or under it, the others under the root
  have hA : ∀ {ms}, selectUnder f n b (cs.filter (!·.anchoredAtRoot)) = .ok ms → ∀ m ∈ ms, D m :=
    fun ha m hm => (mem_selectUnder ha m hm).elim (fun h => h ▸ hn)
      (hD.mem_descendantsWithin hf _ hn m)
  have hB : ∀ {ms}, cssSelect f (root.getD (f.top n))
      (", ".intercalate ((cs.filter (·.anchoredAtRoot)).map Selector.Complex.css)) = .ok ms →
      ∀ m ∈ ms, D m :=
    fun hb m hm => hD.mem_descendantsWithin hf _ hstart m (mem_descendants_of_cssSelect hb m hm)
  simp only [selectTree] at h
  intro l hl
  suffices hms : ∀ ms : List NodeId, ls = ms.map (fun m => Location.ofValue (.node m)) →
      (∀ m ∈ ms, D m) → l.Holds D by
    by_cases h₁ : (cs.filter (!·.anchoredAtRoot)).isEmpty <;>
      by_cases h₂ : (cs.filter (·.anchoredAtRoot)).isEmpty <;>
      simp only [h₁, h₂, if_true, Bool.false_eq_true, if_false, bind, Except.bind, pure,
        Except.pure] at h
    · cases h
      simp at hl
    · cases hb : cssSelect f (root.getD (f.top n))
        (", ".intercalate ((cs.filter (·.anchoredAtRoot)).map Selector.Complex.css)) with
      | error e => simp [hb] at h
      | ok bs =>
        simp only [hb, Except.ok.injEq, List.nil_append] at h
        exact hms bs h.symm (hB hb)
    · cases ha : selectUnder f n b (cs.filter (!·.anchoredAtRoot)) with
      | error e => simp [ha] at h
      | ok as =>
        simp only [ha, Except.ok.injEq, List.append_nil] at h
        exact hms as h.symm (hA ha)
    · cases ha : selectUnder f n b (cs.filter (!·.anchoredAtRoot)) with
      | error e => simp [ha] at h
      | ok as =>
        cases hb : cssSelect f (root.getD (f.top n))
          (", ".intercalate ((cs.filter (·.anchoredAtRoot)).map Selector.Complex.css)) with
        | error e => simp [ha, hb] at h
        | ok bs =>
          simp only [ha, hb, Except.ok.injEq] at h
          exact hms (as ++ bs) h.symm fun m hm =>
            (List.mem_append.mp hm).elim (hA ha m) (hB hb m)
  intro ms hls hD'
  subst hls
  obtain ⟨m, hm, rfl⟩ := List.mem_map.mp hl
  rw [Location.holds_ofValue, Value.holds_node]
  exact hD' m hm

/-! ## Selections -/

/-- The root of a selection holds only nodes of `D`. -/
def RootSpec.Holds (D : NodeId → Prop) : RootSpec → Prop
  | .unset => True
  | .location l => l.Holds D
  | .value v => v.Holds D

/-- Every match of a result holds only nodes of `D`. -/
def ResultSet.Holds (D : NodeId → Prop) (r : ResultSet) : Prop := ∀ l ∈ r.found, l.Holds D

theorem mem_of_mem_distinctLocations {ls : List Location} {l : Location}
    (h : l ∈ distinctLocations ls) : l ∈ ls := by
  induction ls using List.reverseRecOn with
  | nil => simp [distinctLocations] at h
  | append_singleton ls x ih =>
    rw [distinctLocations_concat] at h
    split at h
    · exact List.mem_append_left _ (ih h)
    · rcases List.mem_append.mp h with h | h
      · exact List.mem_append_left _ (ih h)
      · exact List.mem_append_right _ h

theorem ResultSet.holds_ofMatches (sel : String) {ls : List Location} (h : ∀ l ∈ ls, l.Holds D) :
    (ResultSet.ofMatches sel ls).Holds D :=
  fun l hl => h l (mem_of_mem_distinctLocations hl)

theorem ResultSet.holds_empty (sel : String) : (ResultSet.empty sel).Holds D :=
  fun _ hl => by cases hl

theorem ResultSet.Holds.union {a b : ResultSet} (ha : a.Holds D) (hb : b.Holds D) :
    (a.union b).Holds D :=
  ResultSet.holds_ofMatches _ fun l hl => (List.mem_append.mp hl).elim (ha l) (hb l)

theorem ResultSet.Holds.mono {D' : NodeId → Prop} (hD : ∀ x, D x → D' x) {r : ResultSet}
    (h : r.Holds D) : r.Holds D' :=
  fun l hl => (h l hl).mono hD

namespace Selection

variable {s : Selection}

theorem selectList_holds (hf : s.forest.Linked) (hD : s.forest.Closed D) (hs : s.start.Holds D)
    (hr : s.root.Holds D) {cs : List Selector.Complex} {r : ResultSet}
    (h : s.selectList cs = .ok r) : r.Holds D := by
  simp only [selectList, bind, Except.bind, pure, Except.pure] at h
  split at h
  · -- a node: the markup engine, with the root when it is a node
    rename_i n hn
    have hnD : D n := Value.holds_node.mp (hn ▸ hs.1)
    have hroot : ∀ x, s.treeRoot = some x → D x := by
      intro x hx
      unfold treeRoot at hx
      split at hx <;> rename_i hsr
      · cases hx
      · rw [hsr] at hr
        exact Value.holds_node.mp (Value.eq_node_of_node? hx ▸ hr.1)
      · rw [hsr] at hr
        exact Value.holds_node.mp (Value.eq_node_of_node? hx ▸ hr)
    cases ht : selectTree s.forest s.treeRoot n s.selfMatch cs with
    | error e => simp [ht] at h
    | ok found =>
      simp only [ht, Except.ok.injEq] at h
      subst h
      exact ResultSet.holds_ofMatches _ (selectTree_holds hf hD hroot hnD ht)
  · -- data: the data engine, from the data root
    have hroot : s.dataRoot.1.Holds D := by
      unfold dataRoot
      split <;> rename_i hsr
      · split
        · exact hs
        · exact hs.top
      · rw [hsr] at hr
        exact hr
      · rw [hsr] at hr
        exact Location.holds_ofValue.mpr hr
    cases hd : selectData s.forest s.dataRoot.1 s.start s.dataRoot.2 s.selfMatch cs with
    | error e => simp [hd] at h
    | ok found =>
      simp only [hd, Except.ok.injEq] at h
      subst h
      exact ResultSet.holds_ofMatches _ (selectData_holds hroot hs hd)

theorem evaluate_holds (hf : s.forest.Linked) (hD : s.forest.Closed D) (hs : s.start.Holds D)
    (hr : s.root.Holds D) : ∀ (e : Selector.Expr) {r : ResultSet}, s.evaluate e = .ok r → r.Holds D
  | .selectors cs, _, h => selectList_holds hf hD hs hr h
  | .group e, _, h => evaluate_holds hf hD hs hr e h
  | .not e, _, h => by
    simp only [evaluate] at h
    obtain ⟨a, -, h⟩ := Selector.bind_eq_ok h
    split at h
    · cases h
      exact ResultSet.holds_empty _
    · cases h
      exact ResultSet.holds_ofMatches _ fun l hl => by
        rcases List.mem_singleton.mp hl with rfl
        exact hs
  | .and l r, _, h => by
    simp only [evaluate] at h
    obtain ⟨a, ha, h⟩ := Selector.bind_eq_ok h
    split at h
    · cases h
      exact ResultSet.holds_empty _
    · obtain ⟨b, hb, h⟩ := Selector.bind_eq_ok h
      split at h
      · cases h
        exact ResultSet.holds_empty _
      · cases h
        exact (evaluate_holds hf hD hs hr l ha).union (evaluate_holds hf hD hs hr r hb)
  | .or l r, _, h => by
    simp only [evaluate] at h
    obtain ⟨a, ha, h⟩ := Selector.bind_eq_ok h
    obtain ⟨b, hb, h⟩ := Selector.bind_eq_ok h
    cases h
    exact (evaluate_holds hf hD hs hr l ha).union (evaluate_holds hf hD hs hr r hb)

end Selection

/-- A selection from a location of whole trees `D`, with a root in `D`, finds only locations
that hold nodes of `D`. -/
theorem select_holds (hf : f.Linked) (hD : f.Closed D) {start : Location} (hs : start.Holds D)
    {root : RootSpec} (hr : root.Holds D) {text : String} {b : Bool} {r : ResultSet}
    (h : select f start text root b = .ok r) : r.Holds D := by
  unfold select at h
  split at h
  · cases h
  · cases h
  · exact Selection.evaluate_holds (s := ⟨f, start, root, b, text⟩) hf hD hs hr _ h

end Select

end Stencil

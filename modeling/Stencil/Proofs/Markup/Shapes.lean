import Mathlib
import Stencil.Proofs.Markup.Links
/-!
# Shapes of subtrees and well-formed forests

The shape of a node is its kind with the shapes of its children, in order (`Forest.shape`): two
nodes of one shape hold the same markup. A forest is well formed (`Forest.WellFormed`) when a
node has a parent exactly when it is listed among that parent's children, once, and every node
comes after its parent, as parsing and copying make them. There, putting a new node before or
after another changes one list of children in the expected way and nothing else
(`Forest.children_insertBefore`, `Forest.children_insertAfter`), and a copy of a subtree is
made of new nodes and has the subtree's shape (`Forest.CopyOf`, `Forest.copyOf_copyTree`).
-/

namespace Stencil.Markup

/-- The shape of a subtree: the kind of its top and the shapes under it, in order. -/
inductive Shape where
  | node (kind : NodeKind) (children : List Shape)

namespace Forest

def shapeWithin (f : Forest) : Nat → NodeId → Shape
  | 0, n => .node (f.kind n) []
  | fuel + 1, n => .node (f.kind n) ((f.children n).map (f.shapeWithin fuel))

/-- The shape of the subtree under `n`. -/
def shape (f : Forest) (n : NodeId) : Shape := f.shapeWithin f.depthBound n

/-- A well-formed forest: a node has a parent exactly when it is among that parent's children,
no node is listed twice among the children of another, and every node comes after its parent. -/
structure WellFormed (f : Forest) : Prop where
  linked : f.Linked
  listed : ∀ c p, f.parent? c = some p → c ∈ f.children p
  nodup : ∀ p, (f.children p).Nodup
  ordered : ∀ c p, f.parent? c = some p → p.index < c.index

theorem get_add_self (f : Forest) (node : Node) : (f.add node).2.get (f.add node).1 = node := by
  simp [get, Forest.add]

theorem index_add (f : Forest) (node : Node) : (f.add node).1.index = f.nodes.size := rfl

def Extends (f g : Forest) : Prop :=
  f.nodes.size ≤ g.nodes.size ∧ ∀ x : NodeId, x.index < f.nodes.size → g.get x = f.get x

/-! ## Reading a well-formed forest -/

section WellFormed

variable {f : Forest}

theorem wellFormed_of_lt
    (h : ∀ i < f.nodes.size, (∀ c ∈ f.children ⟨i⟩, f.parent? c = some ⟨i⟩) ∧
      (f.children ⟨i⟩).Nodup ∧ ∀ p ∈ f.parent? ⟨i⟩, ⟨i⟩ ∈ f.children p ∧ p.index < i) :
    f.WellFormed where
  linked := linked_of_lt fun i hi => (h i hi).1
  listed c p hc := ((h c.index (index_lt_of_parent? hc)).2.2 p hc).1
  nodup p := by
    by_cases hp : p.index < f.nodes.size
    · exact (h p.index hp).2.1
    · rw [children_of_size_le (Nat.le_of_not_lt hp)]
      exact List.nodup_nil
  ordered c p hc := ((h c.index (index_lt_of_parent? hc)).2.2 p hc).2

theorem WellFormed.lt_of_mem_children (hf : f.WellFormed) {p c : NodeId}
    (hc : c ∈ f.children p) : p.index < c.index :=
  hf.ordered c p (hf.linked p c hc)

theorem WellFormed.index_lt_of_mem_children (hf : f.WellFormed) {p c : NodeId}
    (hc : c ∈ f.children p) : c.index < f.nodes.size :=
  index_lt_of_parent? (hf.linked p c hc)

theorem WellFormed.parent_lt (hf : f.WellFormed) {c p : NodeId} (h : f.parent? c = some p) :
    p.index < f.nodes.size := by
  by_contra hp
  have hc := hf.listed c p h
  rw [children_of_size_le (by omega)] at hc
  cases hc

theorem WellFormed.split (hf : f.WellFormed) {n q : NodeId} (h : f.parent? n = some q) :
    ∃ l₁ l₂, f.children q = l₁ ++ n :: l₂ ∧ n ∉ l₁ ∧ n ∉ l₂ := by
  obtain ⟨l₁, l₂, hl⟩ := List.append_of_mem (hf.listed n q h)
  have hnd := hf.nodup q
  rw [hl, List.nodup_append] at hnd
  refine ⟨l₁, l₂, hl, fun h₁ => ?_, (List.nodup_cons.mp hnd.2.1).1⟩
  exact hnd.2.2 n h₁ n (List.mem_cons_self ..) rfl

theorem not_mem_children_of_parent?_eq_none {f : Forest} (hf : f.Linked) {c : NodeId}
    (hc : f.parent? c = none) (p : NodeId) : c ∉ f.children p := by
  intro h
  rw [hf p c h] at hc
  cases hc

end WellFormed

/-! ## Kinds after an edit -/

theorem kind_modify {f : Forest} {n : NodeId} {g : Node → Node}
    (hg : ∀ node, (g node).kind = node.kind) (m : NodeId) : (f.modify n g).kind m = f.kind m := by
  by_cases hm : m = n
  · subst hm
    by_cases hn : m.index < f.nodes.size
    · simp [kind, get_modify_self f m g hn, hg]
    · simp [kind, get, modify, hn]
  · simp [kind, get_modify_of_ne g hm]

theorem kind_detach (f : Forest) (n m : NodeId) : (f.detach n).kind m = f.kind m := by
  unfold detach
  split
  · rfl
  · dsimp only
    rw [kind_modify, kind_modify] <;> intro <;> rfl

theorem kind_insertChild (f : Forest) (p : NodeId) (pos : Nat) (c m : NodeId) :
    (f.insertChild p pos c).kind m = f.kind m := by
  simp only [insertChild]
  rw [kind_modify, kind_modify, kind_detach] <;> intro <;> rfl

/-! ## Putting a node with no parent in place -/

section Insert

variable {f : Forest}

theorem detach_of_parent?_eq_none {c : NodeId} (hc : f.parent? c = none) : f.detach c = f := by
  simp [detach, hc]

theorem take_min_length {α : Type} (l : List α) (n : Nat) : l.take (min n l.length) = l.take n := by
  rcases le_total n l.length with h | h
  · rw [Nat.min_eq_left h]
  · rw [Nat.min_eq_right h, List.take_length, List.take_of_length_le h]

theorem drop_min_length {α : Type} (l : List α) (n : Nat) : l.drop (min n l.length) = l.drop n := by
  rcases le_total n l.length with h | h
  · rw [Nat.min_eq_left h]
  · rw [Nat.min_eq_right h, List.drop_length, List.drop_of_length_le h]

theorem children_insertChild_of_parent?_eq_none {p c : NodeId} (pos : Nat)
    (hc : f.parent? c = none) (hcp : c ≠ p) (hp : p.index < f.nodes.size) (x : NodeId) :
    (f.insertChild p pos c).children x =
      if x = p then (f.children p).take pos ++ c :: (f.children p).drop pos else f.children x := by
  simp only [insertChild, hc, reduceCtorEq, if_false, detach_of_parent?_eq_none hc]
  rw [children_modify]
  · split
    · rename_i hx
      subst hx
      simp only [children, get_modify_self f x _ hp, List.toList_toArray, List.append_assoc,
        List.singleton_append]
      rw [← Array.length_toList, take_min_length, drop_min_length]
    · rename_i hx
      rw [children, get_modify_of_ne _ hx, ← children]
  · intro
    rfl

theorem parent?_insertChild_of_parent?_eq_none {p c : NodeId} (pos : Nat)
    (hcv : c.index < f.nodes.size) (x : NodeId) :
    (f.insertChild p pos c).parent? x = if x = c then some p else f.parent? x := by
  split
  · rename_i hx
    subst hx
    exact parent?_insertChild_self f p pos hcv
  · exact parent?_insertChild_of_ne f p pos ‹_›

end Insert

/-! ## Edits keep a forest well formed -/

section Keep

variable {f : Forest}

theorem WellFormed.add (hf : f.WellFormed) {node : Node} (hc : node.children = #[])
    (hp : node.parent = none) : (f.add node).2.WellFormed := by
  have hnew : ∀ x : NodeId, ¬ x.index < f.nodes.size → (f.add node).2.parent? x = none := by
    intro x hx
    by_cases he : x.index = f.nodes.size
    · simp [parent?, get, Forest.add, he, hp]
    · exact parent?_of_size_le (by rw [size_add]; omega)
  refine ⟨linked_add hf.linked hc, fun x q hx => ?_, fun q => ?_, fun x q hx => ?_⟩
  · by_cases hxv : x.index < f.nodes.size
    · rw [parent?_add_of_lt f node hxv] at hx
      rw [children_add f hc, if_pos (hf.parent_lt hx)]
      exact hf.listed x q hx
    · rw [hnew x hxv] at hx
      cases hx
  · rw [children_add f hc]
    split
    · exact hf.nodup q
    · exact List.nodup_nil
  · by_cases hxv : x.index < f.nodes.size
    · rw [parent?_add_of_lt f node hxv] at hx
      exact hf.ordered x q hx
    · rw [hnew x hxv] at hx
      cases hx

theorem WellFormed.detach (hf : f.WellFormed) (n : NodeId) : (f.detach n).WellFormed := by
  have hpar : ∀ x q, (f.detach n).parent? x = some q → x ≠ n ∧ f.parent? x = some q := by
    intro x q hx
    have hxn : x ≠ n := by
      rintro rfl
      rw [parent?_detach_self] at hx
      cases hx
    exact ⟨hxn, by rwa [parent?_detach_of_ne f hxn] at hx⟩
  refine ⟨linked_detach hf.linked n, fun x q hx => ?_, fun q => ?_, fun x q hx => ?_⟩
  · obtain ⟨hxn, hx⟩ := hpar x q hx
    rw [children_detach]
    split
    · exact List.mem_filter.mpr ⟨hf.listed x q hx, by simpa using hxn⟩
    · exact hf.listed x q hx
  · rw [children_detach]
    split
    · exact (hf.nodup q).filter _
    · exact hf.nodup q
  · exact hf.ordered x q (hpar x q hx).2

theorem WellFormed.insertChild (hf : f.WellFormed) {p c : NodeId} (pos : Nat)
    (hc : f.parent? c = none) (hcv : c.index < f.nodes.size) (hpv : p.index < f.nodes.size)
    (hpc : p.index < c.index) : (f.insertChild p pos c).WellFormed := by
  have hcp : c ≠ p := fun h => by rw [h] at hpc; omega
  have hnot := not_mem_children_of_parent?_eq_none hf.linked hc
  refine ⟨linked_insertChild hf.linked p pos hcv, fun x q hx => ?_, fun q => ?_, fun x q hx => ?_⟩
  · rw [parent?_insertChild_of_parent?_eq_none pos hcv] at hx
    rw [children_insertChild_of_parent?_eq_none pos hc hcp hpv]
    split at hx
    · rename_i hxc
      cases hx
      simp [hxc]
    · split
      · rename_i hq
        subst hq
        have hm := hf.listed x q hx
        rw [← List.take_append_drop pos (f.children q)] at hm
        simp only [List.mem_append] at hm
        simp only [List.mem_append, List.mem_cons]
        tauto
      · exact hf.listed x q hx
  · rw [children_insertChild_of_parent?_eq_none pos hc hcp hpv]
    split
    · rename_i hq
      subst hq
      have hnd := hf.nodup q
      rw [← List.take_append_drop pos (f.children q)] at hnd
      rw [List.nodup_append] at hnd ⊢
      refine ⟨hnd.1, List.nodup_cons.mpr ⟨fun h => hnot q (List.mem_of_mem_drop h), hnd.2.1⟩, ?_⟩
      intro a ha b hb hab
      rcases List.mem_cons.mp hb with rfl | hb
      · exact hnot q (List.mem_of_mem_take (hab ▸ ha))
      · exact hnd.2.2 a ha b hb hab
    · exact hf.nodup q
  · rw [parent?_insertChild_of_parent?_eq_none pos hcv] at hx
    split at hx
    · cases hx
      rename_i hxc
      rw [hxc]
      exact hpc
    · exact hf.ordered x q hx

theorem idxOf?_append_cons {l₁ l₂ : List NodeId} {n : NodeId} (h : n ∉ l₁) :
    (l₁ ++ n :: l₂).idxOf? n = some l₁.length := by
  induction l₁ with
  | nil => simp [List.idxOf?_cons]
  | cons x l₁ ih =>
    have hx : x ≠ n := fun hx => h (by simp [hx])
    rw [List.cons_append, List.idxOf?_cons, if_neg (by simpa using hx),
      ih (fun h' => h (List.mem_cons_of_mem _ h'))]
    simp

theorem children_insertBefore_of_lt {n c q : NodeId} {l₁ l₂ : List NodeId}
    (hn : f.parent? n = some q) (hl : f.children q = l₁ ++ n :: l₂) (hn₁ : n ∉ l₁)
    (hc : f.parent? c = none) (hcq : c ≠ q) (hq : q.index < f.nodes.size) (x : NodeId) :
    (f.insertBefore n c).children x = if x = q then l₁ ++ c :: n :: l₂ else f.children x := by
  simp only [insertBefore, hn, detach_of_parent?_eq_none hc]
  have hidx : f.indexOf? q n = some l₁.length := by
    rw [indexOf?, ← children, hl, idxOf?_append_cons hn₁]
  rw [hidx, Option.getD_some, children_insertChild_of_parent?_eq_none _ hc hcq hq, hl,
    List.take_left, List.drop_left]

/-- A node with no parent put before `n`: it goes right before `n` among the children of the
parent of `n`, and nothing else changes. -/
theorem children_insertBefore (hf : f.WellFormed) {n c q : NodeId} {l₁ l₂ : List NodeId}
    (hn : f.parent? n = some q) (hl : f.children q = l₁ ++ n :: l₂) (hn₁ : n ∉ l₁)
    (hc : f.parent? c = none) (hcq : c ≠ q) (x : NodeId) :
    (f.insertBefore n c).children x = if x = q then l₁ ++ c :: n :: l₂ else f.children x :=
  children_insertBefore_of_lt hn hl hn₁ hc hcq (hf.parent_lt hn) x

theorem children_insertAfter_of_lt {n c q : NodeId} {l₁ l₂ : List NodeId}
    (hn : f.parent? n = some q) (hl : f.children q = l₁ ++ n :: l₂) (hn₁ : n ∉ l₁)
    (hc : f.parent? c = none) (hcq : c ≠ q) (hq : q.index < f.nodes.size) (x : NodeId) :
    (f.insertAfter n c).children x = if x = q then l₁ ++ n :: c :: l₂ else f.children x := by
  simp only [insertAfter, hn, detach_of_parent?_eq_none hc]
  have hidx : f.indexOf? q n = some l₁.length := by
    rw [indexOf?, ← children, hl, idxOf?_append_cons hn₁]
  have htake : (l₁ ++ n :: l₂).take (l₁.length + 1) = l₁ ++ [n] := by simp [List.take_append]
  have hdrop : (l₁ ++ n :: l₂).drop (l₁.length + 1) = l₂ := by simp [List.drop_append]
  rw [hidx, Option.getD_some, children_insertChild_of_parent?_eq_none _ hc hcq hq, hl, htake, hdrop]
  simp

/-- A node with no parent put after `n`: it goes right after `n` among the children of the
parent of `n`, and nothing else changes. -/
theorem children_insertAfter (hf : f.WellFormed) {n c q : NodeId} {l₁ l₂ : List NodeId}
    (hn : f.parent? n = some q) (hl : f.children q = l₁ ++ n :: l₂) (hn₁ : n ∉ l₁)
    (hc : f.parent? c = none) (hcq : c ≠ q) (x : NodeId) :
    (f.insertAfter n c).children x = if x = q then l₁ ++ n :: c :: l₂ else f.children x :=
  children_insertAfter_of_lt hn hl hn₁ hc hcq (hf.parent_lt hn) x

theorem parent?_insertBefore {n c q : NodeId} (hn : f.parent? n = some q) (hc : f.parent? c = none)
    (hcv : c.index < f.nodes.size) (x : NodeId) :
    (f.insertBefore n c).parent? x = if x = c then some q else f.parent? x := by
  simp only [insertBefore, hn, detach_of_parent?_eq_none hc]
  exact parent?_insertChild_of_parent?_eq_none _ hcv x

theorem parent?_insertAfter {n c q : NodeId} (hn : f.parent? n = some q) (hc : f.parent? c = none)
    (hcv : c.index < f.nodes.size) (x : NodeId) :
    (f.insertAfter n c).parent? x = if x = c then some q else f.parent? x := by
  simp only [insertAfter, hn, detach_of_parent?_eq_none hc]
  exact parent?_insertChild_of_parent?_eq_none _ hcv x

theorem kind_insertBefore (f : Forest) (n c x : NodeId) : (f.insertBefore n c).kind x = f.kind x := by
  unfold insertBefore
  split
  · rfl
  · rw [kind_insertChild, kind_detach]

theorem kind_insertAfter (f : Forest) (n c x : NodeId) : (f.insertAfter n c).kind x = f.kind x := by
  unfold insertAfter
  split
  · rfl
  · rw [kind_insertChild, kind_detach]

theorem size_insertAfter (f : Forest) (n c : NodeId) :
    (f.insertAfter n c).nodes.size = f.nodes.size := by
  unfold insertAfter
  split
  · rfl
  · rw [size_insertChild, size_detach]

theorem WellFormed.insertBefore (hf : f.WellFormed) {n c q : NodeId} (hn : f.parent? n = some q)
    (hc : f.parent? c = none) (hcv : c.index < f.nodes.size) (hqc : q.index < c.index) :
    (f.insertBefore n c).WellFormed := by
  simp only [Forest.insertBefore, hn, detach_of_parent?_eq_none hc]
  exact hf.insertChild _ hc hcv (hf.parent_lt hn) hqc

theorem WellFormed.insertAfter (hf : f.WellFormed) {n c q : NodeId} (hn : f.parent? n = some q)
    (hc : f.parent? c = none) (hcv : c.index < f.nodes.size) (hqc : q.index < c.index) :
    (f.insertAfter n c).WellFormed := by
  simp only [Forest.insertAfter, hn, detach_of_parent?_eq_none hc]
  exact hf.insertChild _ hc hcv (hf.parent_lt hn) hqc

theorem children_detach_eq_filter (hf : f.Linked) (n x : NodeId) :
    (f.detach n).children x = (f.children x).filter (· ≠ n) := by
  rw [children_detach]
  split
  · exact List.filter_congr fun y _ => by by_cases h : y = n <;> simp [h]
  · rename_i hn
    refine (List.filter_eq_self.mpr fun y hy => ?_).symm
    have hyn : y ≠ n := by
      rintro rfl
      exact hn (hf x y hy)
    simpa using hyn

theorem children_detach_split {n q : NodeId} {l₁ l₂ : List NodeId} (hn : f.parent? n = some q)
    (hl : f.children q = l₁ ++ n :: l₂) (hn₁ : n ∉ l₁) (hn₂ : n ∉ l₂) (x : NodeId) :
    (f.detach n).children x = if x = q then l₁ ++ l₂ else f.children x := by
  rw [children_detach]
  by_cases hx : x = q
  · subst hx
    rw [if_pos hn, if_pos rfl, hl, List.filter_append, List.filter_cons_of_neg (by simp),
      List.filter_eq_self.mpr, List.filter_eq_self.mpr]
    · intro a ha
      simpa using fun h : a = n => hn₂ (h ▸ ha)
    · intro a ha
      simpa using fun h : a = n => hn₁ (h ▸ ha)
  · rw [if_neg (by rw [hn]; simpa using Ne.symm hx), if_neg hx]

theorem kind_replaceWith (f : Forest) (n r x : NodeId) : (f.replaceWith n r).kind x = f.kind x := by
  unfold Forest.replaceWith
  split
  · rfl
  · split
    · rfl
    · rw [kind_insertChild, kind_detach]

theorem size_replaceWith (f : Forest) (n r : NodeId) :
    (f.replaceWith n r).nodes.size = f.nodes.size := by
  unfold Forest.replaceWith
  split
  · rfl
  · split
    · rfl
    · rw [size_insertChild, size_detach]

theorem children_replaceWith_of_lt {n r q : NodeId} {l₁ l₂ : List NodeId}
    (hn : f.parent? n = some q) (hl : f.children q = l₁ ++ n :: l₂) (hn₁ : n ∉ l₁)
    (hn₂ : n ∉ l₂) (hr : f.parent? r = none) (hrq : r ≠ q) (hq : q.index < f.nodes.size)
    (x : NodeId) :
    (f.replaceWith n r).children x = if x = q then l₁ ++ r :: l₂ else f.children x := by
  have hrn : r ≠ n := by
    rintro rfl
    rw [hn] at hr
    cases hr
  have hidx : f.indexOf? q n = some l₁.length := by
    rw [indexOf?, ← children, hl, idxOf?_append_cons hn₁]
  have hr' : (f.detach n).parent? r = none := by rw [parent?_detach_of_ne f hrn, hr]
  simp only [Forest.replaceWith, hn, if_neg hrn, hidx, Option.getD_some]
  rw [children_insertChild_of_parent?_eq_none _ hr' hrq (by rw [size_detach]; exact hq),
    children_detach_split hn hl hn₁ hn₂, children_detach_split hn hl hn₁ hn₂, if_pos rfl]
  split
  · rw [List.take_left, List.drop_left]
  · rfl

theorem children_replaceWith (hf : f.WellFormed) {n r q : NodeId} {l₁ l₂ : List NodeId}
    (hn : f.parent? n = some q) (hl : f.children q = l₁ ++ n :: l₂) (hn₁ : n ∉ l₁)
    (hn₂ : n ∉ l₂) (hr : f.parent? r = none) (hrq : r ≠ q) (x : NodeId) :
    (f.replaceWith n r).children x = if x = q then l₁ ++ r :: l₂ else f.children x :=
  children_replaceWith_of_lt hn hl hn₁ hn₂ hr hrq (hf.parent_lt hn) x

theorem WellFormed.replaceWith (hf : f.WellFormed) {n r q : NodeId} (hn : f.parent? n = some q)
    (hr : f.parent? r = none) (hrv : r.index < f.nodes.size) (hqr : q.index < r.index) :
    (f.replaceWith n r).WellFormed := by
  have hrn : r ≠ n := by
    rintro rfl
    rw [hn] at hr
    cases hr
  simp only [Forest.replaceWith, hn, if_neg hrn]
  exact (hf.detach n).insertChild _ (by rw [parent?_detach_of_ne f hrn, hr])
    (by rw [size_detach]; exact hrv) (by rw [size_detach]; exact hf.parent_lt hn) hqr

end Keep

/-! ## Shapes -/

section Shapes

variable {f g : Forest}

theorem shapeWithin_congr {S : NodeId → Prop} (hS : ∀ y c, S y → c ∈ f.children y → S c)
    (hg : ∀ y, S y → g.kind y = f.kind y ∧ g.children y = f.children y) :
    ∀ (k : Nat) (x : NodeId), S x → g.shapeWithin k x = f.shapeWithin k x
  | 0, x, hx => by simp [shapeWithin, (hg x hx).1]
  | k + 1, x, hx => by
    simp only [shapeWithin, (hg x hx).1, (hg x hx).2]
    congr 1
    exact List.map_congr_left fun c hc => shapeWithin_congr hS hg k c (hS x c hx hc)

theorem WellFormed.shapeWithin_succ (hf : f.WellFormed) :
    ∀ (k : Nat) (x : NodeId), f.nodes.size ≤ x.index + k →
      f.shapeWithin (k + 1) x = f.shapeWithin k x
  | 0, x, hx => by simp [shapeWithin, children_of_size_le (by omega : f.nodes.size ≤ x.index)]
  | k + 1, x, hx => by
    simp only [shapeWithin]
    congr 1
    refine List.map_congr_left fun c hc => hf.shapeWithin_succ k c ?_
    have := hf.lt_of_mem_children hc
    omega

theorem WellFormed.shapeWithin_add (hf : f.WellFormed) {k : Nat} {x : NodeId}
    (hx : f.nodes.size ≤ x.index + k) (d : Nat) : f.shapeWithin (k + d) x = f.shapeWithin k x := by
  induction d with
  | zero => rfl
  | succ d ih =>
    rw [← Nat.add_assoc, hf.shapeWithin_succ _ x (by omega), ih]

theorem WellFormed.shapeWithin_eq_shape (hf : f.WellFormed) {k : Nat} {x : NodeId}
    (hx : f.nodes.size ≤ x.index + k) : f.shapeWithin k x = f.shape x := by
  rcases le_total k f.depthBound with h | h
  · rw [shape, ← Nat.add_sub_cancel' h, hf.shapeWithin_add hx]
  · rw [shape, ← Nat.add_sub_cancel' h, hf.shapeWithin_add (by unfold depthBound; omega)]

theorem shapeWithin_of_extends (hf : f.Linked) (hg : f.Extends g) (k : Nat) {x : NodeId}
    (hx : x.index < f.nodes.size) : g.shapeWithin k x = f.shapeWithin k x :=
  shapeWithin_congr (S := fun y => y.index < f.nodes.size)
    (fun y c _ hc => index_lt_of_parent? (hf y c hc))
    (fun y hy => by simp [kind, children, hg.2 y hy]) k x hx

theorem WellFormed.shapeWithin_insertChild (hf : f.WellFormed) {p c : NodeId} (pos : Nat)
    (hc : f.parent? c = none) (hcp : c ≠ p) (hpv : p.index < f.nodes.size) (k : Nat) {x : NodeId}
    (hx : p.index < x.index) : (f.insertChild p pos c).shapeWithin k x = f.shapeWithin k x :=
  shapeWithin_congr (S := fun y => x.index ≤ y.index)
    (fun y c hy hc => le_of_lt (lt_of_le_of_lt hy (hf.lt_of_mem_children hc)))
    (fun y hy => ⟨kind_insertChild f p pos c y, by
      rw [children_insertChild_of_parent?_eq_none pos hc hcp hpv, if_neg (by
        rintro rfl
        omega)]⟩) k x (le_refl _)

end Shapes

/-! ## Copies -/

section Copies

variable {f g h : Forest}

theorem Extends.refl (f : Forest) : f.Extends f := ⟨le_refl _, fun _ _ => rfl⟩

theorem Extends.trans (h₁ : f.Extends g) (h₂ : g.Extends h) : f.Extends h :=
  ⟨h₁.1.trans h₂.1, fun x hx => (h₂.2 x (lt_of_lt_of_le hx h₁.1)).trans (h₁.2 x hx)⟩

theorem extends_add (f : Forest) (node : Node) : f.Extends (f.add node).2 :=
  ⟨by rw [size_add]; omega, fun _ hx => get_add_of_lt f _ hx⟩

theorem get_insertChild_of_ne {p c x : NodeId} (pos : Nat) (hc : f.parent? c = none)
    (hxp : x ≠ p) (hxc : x ≠ c) : (f.insertChild p pos c).get x = f.get x := by
  simp only [insertChild, hc, reduceCtorEq, if_false, detach_of_parent?_eq_none hc]
  rw [get_modify_of_ne _ hxc, get_modify_of_ne _ hxp]

/-- Halfway through copying `n` into `c`, with `fuel` levels below: the children of `n` in
`done` are copied under `c`, in order. -/
structure CopyStage (f : Forest) (n : NodeId) (fuel : Nat) (c : NodeId) (done : List NodeId)
    (g : Forest) : Prop where
  lt : c.index < g.nodes.size
  wf : g.WellFormed
  ext : f.Extends g
  kind : g.kind c = f.kind n
  parent : g.parent? c = none
  shapes : ∀ k, (g.children c).map (g.shapeWithin k) = done.map (f.shapeWithin (min k fuel))

/-- What copying `n` with `fuel` levels from `f` gives: the copy `c` is the first node added, has
no parent and has the shape of `n` cut off below `fuel` levels; the forest stays well formed and
only gains nodes. -/
structure Copied (f : Forest) (n : NodeId) (fuel : Nat) (c : NodeId) (g : Forest) : Prop where
  index : c = ⟨f.nodes.size⟩
  lt : c.index < g.nodes.size
  wf : g.WellFormed
  ext : f.Extends g
  parent : g.parent? c = none
  shape : ∀ k, g.shapeWithin k c = f.shapeWithin (min k fuel) n

theorem CopyStage.step {n c child cc : NodeId} {fuel : Nat} {done : List NodeId}
    (hs : CopyStage f n fuel c done g) (hf : f.WellFormed) (hcf : f.nodes.size ≤ c.index)
    (hchild : child ∈ f.children n) (hcopy : Copied g child fuel cc h) :
    CopyStage f n fuel c (done ++ [child]) (h.appendChild c cc) := by
  have hcc : cc.index = g.nodes.size := by rw [hcopy.index]
  have hcg : c.index < cc.index := by rw [hcc]; exact hs.lt
  have hccc : cc ≠ c := fun e => by rw [e] at hcg; omega
  have hch : c.index < h.nodes.size := lt_of_lt_of_le hs.lt hcopy.ext.1
  have hchildf : child.index < f.nodes.size := hf.index_lt_of_mem_children hchild
  -- the copy goes last under `c`; `c` is before every node of the copies
  have hchildren : ∀ x, (h.appendChild c cc).children x =
      if x = c then g.children c ++ [cc] else h.children x := by
    intro x
    rw [appendChild, children_insertChild_of_parent?_eq_none _ hcopy.parent hccc hch]
    split
    · rename_i hx
      subst hx
      have hkeep : h.children x = g.children x := by
        simp [children, hcopy.ext.2 x hs.lt]
      have hlen : (h.get x).children.size = (h.children x).length := by simp [children]
      rw [hlen, List.take_length, List.drop_length, hkeep]
    · rfl
  refine ⟨lt_of_lt_of_le hch (by rw [appendChild, size_insertChild]), ?_, ?_, ?_, ?_, ?_⟩
  · exact hcopy.wf.insertChild _ hcopy.parent hcopy.lt hch hcg
  · refine ⟨hs.ext.1.trans (hcopy.ext.1.trans (by rw [appendChild, size_insertChild])),
      fun x hx => ?_⟩
    have hxc : x ≠ c := fun e => by rw [e] at hx; omega
    have hxcc : x ≠ cc := fun e => by rw [e, hcc] at hx; have := hs.ext.1; omega
    rw [appendChild, get_insertChild_of_ne _ hcopy.parent hxc hxcc,
      hcopy.ext.2 x (lt_of_lt_of_le hx hs.ext.1), hs.ext.2 x hx]
  · have hkind : h.kind c = g.kind c := by rw [Forest.kind, Forest.kind, hcopy.ext.2 c hs.lt]
    rw [appendChild, kind_insertChild, hkind, hs.kind]
  · have hpar : h.parent? c = g.parent? c := by rw [Forest.parent?, Forest.parent?, hcopy.ext.2 c hs.lt]
    rw [appendChild, parent?_insertChild_of_ne _ _ _ (Ne.symm hccc), hpar, hs.parent]
  · intro k
    rw [hchildren, if_pos rfl, List.map_append, List.map_append, ← hs.shapes k]
    congr 1
    · -- the copies made before keep their shapes
      refine List.map_congr_left fun y hy => ?_
      rw [appendChild, hcopy.wf.shapeWithin_insertChild _ hcopy.parent hccc hch k
        (hs.wf.lt_of_mem_children hy)]
      exact shapeWithin_of_extends hs.wf.linked hcopy.ext k (hs.wf.index_lt_of_mem_children hy)
    · rw [List.map_singleton, List.map_singleton, appendChild,
        hcopy.wf.shapeWithin_insertChild _ hcopy.parent hccc hch k hcg, hcopy.shape k,
        shapeWithin_of_extends hf.linked hs.ext _ hchildf]

theorem copied_copyWithin (fuel : Nat) :
    ∀ (f : Forest) (n : NodeId), f.WellFormed →
      Copied f n fuel (f.copyWithin fuel n).1 (f.copyWithin fuel n).2 := by
  induction fuel with
  | zero =>
    intro f n hf
    refine ⟨rfl, by simp [copyWithin, Forest.add], hf.add rfl rfl, extends_add f _, ?_, ?_⟩
    · simp [copyWithin, parent?, get, Forest.add]
    · intro k
      cases k <;> simp [copyWithin, shapeWithin, kind, children, get, Forest.add]
  | succ fuel ih =>
    intro f n hf
    have hstart : CopyStage f n fuel ⟨f.nodes.size⟩ [] (f.add ⟨f.kind n, none, #[]⟩).2 := by
      refine ⟨by simp [Forest.add], hf.add rfl rfl, extends_add f _, ?_, ?_, ?_⟩
      · simp [kind, get, Forest.add]
      · simp [parent?, get, Forest.add]
      · intro k
        simp [children, get, Forest.add]
    -- every child of `n`, copied and put under the copy in turn
    let step := fun (acc : NodeId × Forest) (child : NodeId) =>
      (acc.1, (acc.2.copyWithin fuel child).2.appendChild acc.1 (acc.2.copyWithin fuel child).1)
    have hfold : ∀ (l done : List NodeId) (g : Forest), (∀ x ∈ l, x ∈ f.children n) →
        CopyStage f n fuel ⟨f.nodes.size⟩ done g →
        (l.foldl step (⟨f.nodes.size⟩, g)).1 = ⟨f.nodes.size⟩ ∧
          CopyStage f n fuel ⟨f.nodes.size⟩ (done ++ l) (l.foldl step (⟨f.nodes.size⟩, g)).2 := by
      intro l
      induction l with
      | nil => intro done g _ hs; exact ⟨rfl, by simpa using hs⟩
      | cons child l ihl =>
        intro done g hl hs
        have hstep := hs.step hf (le_refl _) (hl child (List.mem_cons_self ..))
          (ih g child hs.wf)
        simpa using ihl (done ++ [child]) _ (fun x hx => hl x (List.mem_cons_of_mem _ hx)) hstep
    obtain ⟨hc, hs⟩ := hfold (f.children n) [] _ (fun _ hx => hx) hstart
    have hcw : f.copyWithin (fuel + 1) n =
        (f.children n).foldl step (f.add ⟨f.kind n, none, #[]⟩) := rfl
    rw [hcw]
    simp only [Forest.add] at hc hs ⊢
    rw [hc]
    refine ⟨rfl, hs.lt, hs.wf, hs.ext, hs.parent, fun k => ?_⟩
    cases k with
    | zero => simp [shapeWithin, hs.kind]
    | succ k =>
      have hk := hs.shapes k
      simp only [List.nil_append] at hk
      simp [shapeWithin, hs.kind, hk, Nat.succ_min_succ]

theorem WellFormed.lt_of_mem_descendantsWithin (hf : f.WellFormed) :
    ∀ (k : Nat) (x d : NodeId), d ∈ f.descendantsWithin k x → x.index < d.index
  | 0, _, _, hd => by simp [descendantsWithin] at hd
  | k + 1, x, d, hd => by
    rw [descendantsWithin, List.mem_flatMap] at hd
    obtain ⟨c, hc, hd⟩ := hd
    have hxc := hf.lt_of_mem_children hc
    rcases List.mem_cons.mp hd with rfl | hd
    · exact hxc
    · exact hxc.trans (hf.lt_of_mem_descendantsWithin k c d hd)

theorem WellFormed.shape_eq (hf : f.WellFormed) (hsize : f.nodes.size ≤ g.nodes.size)
    {x : NodeId} (hx : x.index < f.nodes.size)
    (hagree : ∀ y : NodeId, x.index ≤ y.index → y.index < f.nodes.size →
      g.kind y = f.kind y ∧ g.children y = f.children y) : g.shape x = f.shape x := by
  have hk := shapeWithin_congr (S := fun y => x.index ≤ y.index ∧ y.index < f.nodes.size)
    (fun y c hy hc => ⟨le_of_lt (lt_of_le_of_lt hy.1 (hf.lt_of_mem_children hc)),
      hf.index_lt_of_mem_children hc⟩)
    (fun y hy => hagree y hy.1 hy.2) g.depthBound x ⟨le_refl _, hx⟩
  rw [shape, hk, hf.shapeWithin_eq_shape (by unfold depthBound; omega)]

/-- `c` in `g` is a fresh copy of the subtree under `n` in `f`: it and every node under it are new
to `f`, and it has the shape of `n`. -/
structure CopyOf (f : Forest) (n : NodeId) (g : Forest) (c : NodeId) : Prop where
  fresh : f.nodes.size ≤ c.index
  fresh_below : ∀ d ∈ g.descendants c, f.nodes.size ≤ d.index
  shape : g.shape c = f.shape n

/-- A copy of a subtree in a well-formed forest is a fresh copy. -/
theorem WellFormed.copyOf_copyTree (hf : f.WellFormed) (n : NodeId) :
    CopyOf f n (f.copyTree n).2 (f.copyTree n).1 := by
  have hc := copied_copyWithin f.depthBound f n hf
  have hfresh : f.nodes.size ≤ (f.copyTree n).1.index := by rw [copyTree, hc.index]
  refine ⟨hfresh, fun d hd => le_of_lt (lt_of_le_of_lt hfresh
    (hc.wf.lt_of_mem_descendantsWithin _ _ d hd)), ?_⟩
  have hle : f.depthBound ≤ (f.copyWithin f.depthBound n).2.depthBound :=
    Nat.add_le_add_right hc.ext.1 1
  rw [copyTree, shape, hc.shape, shape, Nat.min_eq_right hle]

theorem WellFormed.copied_copyTree (hf : f.WellFormed) {n c : NodeId} {g : Forest}
    (hcopy : f.copyTree n = (c, g)) : Copied f n f.depthBound c g := by
  have hc := copied_copyWithin f.depthBound f n hf
  rw [← copyTree, hcopy] at hc
  exact hc

theorem CopyOf.edit {n c : NodeId} {g' : Forest} (hc : CopyOf f n g c) (hg : g.WellFormed)
    (hg' : g'.WellFormed) (hcg : c.index < g.nodes.size) (hsize : g.nodes.size = g'.nodes.size)
    (hagree : ∀ y : NodeId, c.index ≤ y.index → y.index < g.nodes.size →
      g'.kind y = g.kind y ∧ g'.children y = g.children y) : CopyOf f n g' c :=
  ⟨hc.fresh, fun d hd => le_of_lt (lt_of_le_of_lt hc.fresh
    (hg'.lt_of_mem_descendantsWithin _ _ d hd)), by
    rw [← hc.shape]
    exact hg.shape_eq hsize.le hcg hagree⟩

theorem CopyOf.of_shape_eq {n c : NodeId} {f' : Forest} (hc : CopyOf f' n g c)
    (hsize : f.nodes.size ≤ f'.nodes.size) (hshape : f'.shape n = f.shape n) : CopyOf f n g c :=
  ⟨le_trans hsize hc.fresh, fun d hd => le_trans hsize (hc.fresh_below d hd), hc.shape.trans hshape⟩

end Copies

/-- From `f` to `f'` every node of `f` keeps its kind, and has the parent and the children that
`parent` and `children` give it. -/
structure Edited (f f' : Forest) (parent : NodeId → Option NodeId) (children : NodeId → List NodeId) :
    Prop where
  kind : ∀ x : NodeId, x.index < f.nodes.size → f'.kind x = f.kind x
  parent : ∀ x : NodeId, x.index < f.nodes.size → f'.parent? x = parent x
  children : ∀ x : NodeId, x.index < f.nodes.size → f'.children x = children x

theorem Edited.update_children {f g g' : Forest} {P : NodeId → Option NodeId}
    {C : NodeId → List NodeId} {q : NodeId} {L : List NodeId} (h : f.Edited g P C)
    (hsize : f.nodes.size ≤ g.nodes.size) (h' : g.Edited g' g.parent? (Function.update g.children q L)) :
    f.Edited g' P (Function.update C q L) := by
  refine ⟨fun x hx => ?_, fun x hx => ?_, fun x hx => ?_⟩
  · rw [h'.kind x (lt_of_lt_of_le hx hsize), h.kind x hx]
  · rw [h'.parent x (lt_of_lt_of_le hx hsize), h.parent x hx]
  · rw [h'.children x (lt_of_lt_of_le hx hsize), Function.update_apply, Function.update_apply]
    split
    · rfl
    · exact h.children x hx

end Forest

end Stencil.Markup

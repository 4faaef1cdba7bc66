import Mathlib
import Stencil.Proofs.Markup.Shapes
/-!
# Moving children up, appending, and editing attributes

Three edits that the rendering makes on an element whose children it queues, each in the form of
`Edited`: every old node keeps its kind, and the parent and the children the edit gives it.

* `edited_appendChild` : a node with no parent put last under an element.
* `edited_unwrap` : the children of an element put in its place among the children of its
  parent, in order, and the element taken out.
* `SameLinks` : an edit of one node that keeps every parent and every list of children, as an
  edit of attributes does; it keeps a forest well formed.
-/

namespace Stencil.Markup.Forest

variable {f : Forest}

/-! ## Edits one after another -/

theorem Edited.comp {g h : Forest} {P P' P'' : NodeId → Option NodeId}
    {C C' C'' : NodeId → List NodeId} (h₁ : f.Edited g P C) (hsize : f.nodes.size ≤ g.nodes.size)
    (h₂ : g.Edited h P' C') (hP : ∀ x : NodeId, x.index < f.nodes.size → P' x = P'' x)
    (hC : ∀ x : NodeId, x.index < f.nodes.size → C' x = C'' x) : f.Edited h P'' C'' :=
  ⟨fun x hx => by rw [h₂.kind x (lt_of_lt_of_le hx hsize), h₁.kind x hx],
    fun x hx => by rw [h₂.parent x (lt_of_lt_of_le hx hsize), hP x hx],
    fun x hx => by rw [h₂.children x (lt_of_lt_of_le hx hsize), hC x hx]⟩

theorem Edited.refl (f : Forest) : f.Edited f f.parent? f.children :=
  ⟨fun _ _ => rfl, fun _ _ => rfl, fun _ _ => rfl⟩

theorem Extends.edited {g : Forest} (h : f.Extends g) : f.Edited g f.parent? f.children :=
  ⟨fun x hx => by rw [kind, h.2 x hx, ← kind], fun x hx => by rw [parent?, h.2 x hx, ← parent?],
    fun x hx => by rw [children, h.2 x hx, ← children]⟩

theorem CopyOf.kind_eq {g : Forest} {n c : NodeId} (h : CopyOf f n g c) : g.kind c = f.kind n := by
  have hs := h.shape
  simp only [Forest.shape, depthBound, shapeWithin] at hs
  exact (Shape.node.inj hs).1

/-! ## Appending a node with no parent -/

/-- A node with no parent, after `e`, put last under `e`: only the children of `e` and the parent
of the node change. -/
theorem edited_appendChild (hf : f.WellFormed) {e c : NodeId} (hc : f.parent? c = none)
    (hcv : c.index < f.nodes.size) (hec : e.index < c.index) :
    (f.appendChild e c).WellFormed ∧ (f.appendChild e c).nodes.size = f.nodes.size ∧
      f.Edited (f.appendChild e c) (Function.update f.parent? c (some e))
        (Function.update f.children e (f.children e ++ [c])) := by
  have hce : c ≠ e := fun h => by rw [h] at hec; omega
  have hev : e.index < f.nodes.size := lt_trans hec hcv
  have hlen : (f.get e).children.size = (f.children e).length := by simp [children]
  refine ⟨hf.insertChild _ hc hcv hev hec, size_insertChild f e _ c, fun x _ => ?_, fun x _ => ?_,
    fun x _ => ?_⟩
  · exact kind_insertChild f e _ c x
  · rw [appendChild, parent?_insertChild_of_parent?_eq_none _ hcv, Function.update_apply]
  · rw [appendChild, children_insertChild_of_parent?_eq_none _ hc hce hev, Function.update_apply,
      hlen, List.take_length, List.drop_length]

/-! ## Unwrapping an element -/

theorem insertBefore_detach_self {n c q : NodeId} (hn : f.parent? n = some q) (hcn : c ≠ n) :
    (f.detach c).insertBefore n c = f.insertBefore n c := by
  have hn' : (f.detach c).parent? n = some q := by rw [parent?_detach_of_ne f (Ne.symm hcn), hn]
  simp only [insertBefore, hn, hn', detach_of_parent?_eq_none (parent?_detach_self f c)]

theorem edited_insertBefore_first (hf : f.WellFormed) {n q c : NodeId} {A B K : List NodeId}
    (hn : f.parent? n = some q) (hq : f.children q = A ++ n :: B) (hnA : n ∉ A)
    (hK : f.children n = c :: K) :
    (f.insertBefore n c).WellFormed ∧ (f.insertBefore n c).nodes.size = f.nodes.size ∧
      f.Edited (f.insertBefore n c) (Function.update f.parent? c (some q))
        (Function.update (Function.update f.children q (A ++ c :: n :: B)) n K) := by
  have hc : f.parent? c = some n := hf.linked n c (by rw [hK]; exact List.mem_cons_self ..)
  have hnc : n.index < c.index := hf.ordered c n hc
  have hqn : q.index < n.index := hf.ordered n q hn
  have hcn : c ≠ n := fun h => by rw [h] at hnc; omega
  have hcq : c ≠ q := fun h => by rw [h] at hnc; omega
  have hnq : n ≠ q := fun h => by rw [h] at hqn; omega
  have hcv : c.index < f.nodes.size := index_lt_of_parent? hc
  have hcK : c ∉ K := (List.nodup_cons.mp (hK ▸ hf.nodup n)).1
  -- first `c` is taken out of `n`, then put before `n`
  set g := f.detach c
  have hg : g.WellFormed := hf.detach c
  have hgc : g.parent? c = none := parent?_detach_self f c
  have hgn : g.parent? n = some q := by rw [parent?_detach_of_ne f (Ne.symm hcn), hn]
  have hgch : ∀ x, g.children x = if x = n then K else f.children x := fun x => by
    rw [children_detach]
    by_cases hx : x = n
    · rw [if_pos (by rw [hc, hx]), if_pos hx, hx, hK, List.filter_cons_of_neg (by simp)]
      exact List.filter_eq_self.mpr fun y hy => by
        simpa using fun h : y = c => hcK (h ▸ hy)
    · rw [if_neg (by rw [hc]; simpa using Ne.symm hx), if_neg hx]
  have hgq : g.children q = A ++ n :: B := by rw [hgch, if_neg (Ne.symm hnq), hq]
  rw [← insertBefore_detach_self hn hcn]
  have hchild := children_insertBefore hg hgn hgq hnA hgc hcq
  refine ⟨hg.insertBefore hgn hgc (by rwa [size_detach]) (by omega),
    by rw [size_insertBefore, size_detach], fun x _ => ?_, fun x _ => ?_, fun x _ => ?_⟩
  · rw [kind_insertBefore, kind_detach]
  · rw [parent?_insertBefore hgn hgc (by rwa [size_detach]), Function.update_apply]
    split
    · rfl
    · exact parent?_detach_of_ne f ‹_›
  · rw [hchild, Function.update_apply, Function.update_apply]
    by_cases hxn : x = n
    · rw [if_neg (by rw [hxn]; exact hnq), if_pos hxn, hgch, if_pos hxn]
    · rw [if_neg hxn]
      split
      · rfl
      · rw [hgch, if_neg hxn]

theorem edited_insertBefore_foldl {n q : NodeId} {B : List NodeId} :
    ∀ (K A : List NodeId) (f : Forest), f.WellFormed → f.parent? n = some q →
      f.children q = A ++ n :: B → n ∉ A → f.children n = K →
      let g := K.foldl (fun g c => g.insertBefore n c) f
      g.WellFormed ∧ g.nodes.size = f.nodes.size ∧
        f.Edited g (fun y => if y ∈ K then some q else f.parent? y)
          (Function.update (Function.update f.children q (A ++ K ++ n :: B)) n [])
  | [], A, f, hf, _, hq, _, hK => by
    refine ⟨hf, rfl, ⟨fun _ _ => rfl, fun _ _ => by simp, fun x _ => ?_⟩⟩
    show f.children x = _
    simp only [Function.update_apply]
    split
    · rename_i hx
      rw [hx, hK]
    · split
      · rename_i hx
        rw [hx, hq, List.append_nil]
      · rfl
  | c :: K, A, f, hf, hn, hq, hnA, hK => by
    obtain ⟨hg, hgs, hed⟩ := edited_insertBefore_first hf hn hq hnA hK
    have hnc : n ≠ c := fun h => by
      have := hf.ordered c n (hf.linked n c (by rw [hK]; exact List.mem_cons_self ..))
      rw [h] at this
      omega
    have hnv : n.index < f.nodes.size := index_lt_of_parent? hn
    have hqv : q.index < f.nodes.size := hf.parent_lt hn
    have hnq : n ≠ q := fun h => by have := hf.ordered n q hn; rw [h] at this; omega
    have hgn : (f.insertBefore n c).parent? n = some q := by
      rw [hed.parent n hnv, Function.update_apply, if_neg hnc, hn]
    have hgq : (f.insertBefore n c).children q = (A ++ [c]) ++ n :: B := by
      rw [hed.children q hqv, Function.update_apply, if_neg (Ne.symm hnq), Function.update_apply,
        if_pos rfl]
      simp
    have hgK : (f.insertBefore n c).children n = K := by
      rw [hed.children n hnv, Function.update_apply, if_pos rfl]
    obtain ⟨hw, hs, hed'⟩ := edited_insertBefore_foldl K (A ++ [c]) _ hg hgn hgq
      (by simpa [hnA] using hnc) hgK
    refine ⟨hw, hs.trans hgs, hed.comp hgs.ge hed' (fun x hx => ?_) (fun x hx => ?_)⟩
    · rw [hed.parent x hx, Function.update_apply]
      by_cases hxc : x = c
      · simp [hxc]
      · simp [hxc]
    · simp only [Function.update_apply]
      split
      · rfl
      · split
        · simp
        · rw [hed.children x hx, Function.update_apply, if_neg ‹_›, Function.update_apply,
            if_neg ‹_›]

/-- Unwrapping `n` puts its children in its place among the children of its parent `q`, in
order, and takes `n` out; only those nodes move. -/
theorem edited_unwrap (hf : f.WellFormed) {n q : NodeId} {A B : List NodeId}
    (hn : f.parent? n = some q) (hq : f.children q = A ++ n :: B) (hnA : n ∉ A) :
    (f.unwrap n).WellFormed ∧ (f.unwrap n).nodes.size = f.nodes.size ∧
      f.Edited (f.unwrap n)
        (fun y => if y = n then none else if y ∈ f.children n then some q else f.parent? y)
        (Function.update (Function.update f.children q (A ++ f.children n ++ B)) n []) := by
  have hnB : n ∉ B := (List.nodup_cons.mp (List.nodup_append.mp (hq ▸ hf.nodup q)).2.1).1
  have hnv : n.index < f.nodes.size := index_lt_of_parent? hn
  have hqv : q.index < f.nodes.size := hf.parent_lt hn
  have hnq : n ≠ q := fun h => by have := hf.ordered n q hn; rw [h] at this; omega
  have hnK : n ∉ f.children n := fun h => by have := hf.lt_of_mem_children h; omega
  obtain ⟨hg, hgs, hed⟩ := edited_insertBefore_foldl (f.children n) A f hf hn hq hnA rfl
  set g := (f.children n).foldl (fun g c => g.insertBefore n c) f
  have hgn : g.parent? n = some q := by rw [hed.parent n hnv, if_neg hnK, hn]
  have hgq : g.children q = (A ++ f.children n) ++ n :: B := by
    rw [hed.children q hqv, Function.update_apply, if_neg (Ne.symm hnq), Function.update_apply,
      if_pos rfl, List.append_assoc]
  have hsplit := children_detach_split hgn hgq (by simp [hnA, hnK]) hnB
  have hunwrap : f.unwrap n = g.detach n := by
    rw [unwrap, hn]
  rw [hunwrap]
  refine ⟨hg.detach n, by rw [size_detach, hgs], fun x hx => ?_, fun x hx => ?_, fun x hx => ?_⟩
  · rw [kind_detach, hed.kind x hx]
  · by_cases hxn : x = n
    · rw [hxn, parent?_detach_self, if_pos rfl]
    · rw [parent?_detach_of_ne g hxn, hed.parent x hx, if_neg hxn]
  · rw [hsplit, Function.update_apply, Function.update_apply]
    by_cases hxq : x = q
    · rw [if_pos hxq, if_neg (by rw [hxq]; exact Ne.symm hnq), if_pos hxq]
    · rw [if_neg hxq, hed.children x hx, Function.update_apply, Function.update_apply]
      simp only [hxq, if_false]

/-! ## Edits that keep every link -/

/-- `g` has the links of `f`: the same nodes, with the same parents and children. -/
structure SameLinks (f g : Forest) : Prop where
  size : g.nodes.size = f.nodes.size
  parent : ∀ x, g.parent? x = f.parent? x
  children : ∀ x, g.children x = f.children x

theorem SameLinks.refl (f : Forest) : SameLinks f f := ⟨rfl, fun _ => rfl, fun _ => rfl⟩

theorem SameLinks.trans {g h : Forest} (h₁ : SameLinks f g) (h₂ : SameLinks g h) : SameLinks f h :=
  ⟨h₂.size.trans h₁.size, fun x => (h₂.parent x).trans (h₁.parent x),
    fun x => (h₂.children x).trans (h₁.children x)⟩

theorem SameLinks.wellFormed {g : Forest} (h : SameLinks f g) (hf : f.WellFormed) : g.WellFormed :=
  ⟨fun p c hc => by rw [h.parent]; exact hf.linked p c (by rwa [h.children] at hc),
    fun c p hc => by rw [h.children]; exact hf.listed c p (by rwa [h.parent] at hc),
    fun p => by rw [h.children]; exact hf.nodup p,
    fun c p hc => hf.ordered c p (by rwa [h.parent] at hc)⟩

theorem sameLinks_modify (n : NodeId) {g : Node → Node} (hp : ∀ node, (g node).parent = node.parent)
    (hc : ∀ node, (g node).children = node.children) : SameLinks f (f.modify n g) :=
  ⟨size_modify f n g, parent?_modify hp, children_modify hc⟩

theorem sameLinks_setAttr (n : NodeId) (key value : String) : SameLinks f (f.setAttr n key value) :=
  sameLinks_modify n (fun node => by split <;> rfl) (fun node => by split <;> rfl)

theorem sameLinks_removeAttr (n : NodeId) (key : String) : SameLinks f (f.removeAttr n key) :=
  sameLinks_modify n (fun node => by split <;> rfl) (fun node => by split <;> rfl)

end Stencil.Markup.Forest

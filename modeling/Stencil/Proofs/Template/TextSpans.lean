import Mathlib
import Stencil.Proofs.Markup.Moves
import Stencil.Proofs.Template.Compaction
import Stencil.Template.Table
/-!
# Wrapping texts into spans

`NodeTable.wrapTexts` walks the subtree of a node and moves every text that is not already the
only child of a span, or a child of a span of class `text`, into a new
`<span class="text" data-tmp="added-text-span">` put in its place. Every node it reaches is
marked in the table, so that a second walk stops at once.

The walk changes the lists it iterates over, so it is read against the forest it started from.
`NodeTable.Wrapped f h W` says that `h` is `f` with the texts of `W` moved into the spans `W`
pairs them with, the spans being the nodes added after `f`, in order. One wrapped text keeps
this (`NodeTable.Wrapped.wrap`), and so does a walk of a subtree whose nodes are not marked yet
(`NodeTable.wrapsWithin`): it wraps exactly the texts of the subtree that need a span and marks
the subtree and the new spans. The subtrees of two children of a node share no node
(`Forest.WellFormed.eq_of_up`), so the walk of one child does not touch the next.

Read on the forest at the end (`NodeTable.wrapTexts_wraps`): the texts under the node are those
it had, a span taking the place of each wrapped text in document order
(`NodeTable.Wrapped.descendantsWithin_eq`), so its text content is unchanged; every other node
keeps its parent and its place among the others; every text under the node is wrapped; each new
span holds one text where that text was; and a second walk from any node of the subtree
changes nothing.
-/

namespace Stencil.Markup.Forest

variable {f : Forest}

/-! ## Subtrees -/

def up (f : Forest) : Nat → NodeId → Option NodeId
  | 0, d => some d
  | j + 1, d => (f.up j d).bind f.parent?

/-- A node and the nodes under it, with at most `fuel` levels, the node itself being the first:
what a walk of the subtree with that much fuel reaches. -/
def subtreeWithin (f : Forest) : Nat → NodeId → List NodeId
  | 0, _ => []
  | fuel + 1, n => n :: f.descendantsWithin fuel n

theorem up_succ_eq_some {j : Nat} {d b : NodeId} :
    f.up (j + 1) d = some b ↔ ∃ e, f.up j d = some e ∧ f.parent? e = some b :=
  Option.bind_eq_some_iff

theorem descendantsWithin_eq_flatMap (k : Nat) (n : NodeId) :
    f.descendantsWithin k n = (f.children n).flatMap (f.subtreeWithin k) := by
  cases k with
  | zero => simp [descendantsWithin, subtreeWithin]
  | succ k => rfl

theorem descendantsWithin_of_children_eq_nil {n : NodeId} (hn : f.children n = []) (k : Nat) :
    f.descendantsWithin k n = [] := by
  rw [descendantsWithin_eq_flatMap, hn, List.flatMap_nil]

theorem exists_up_of_mem_subtreeWithin (hf : f.Linked) :
    ∀ (k : Nat) (n d : NodeId), d ∈ f.subtreeWithin k n → ∃ j, f.up j d = some n
  | 0, _, _, hd => by simp [subtreeWithin] at hd
  | k + 1, n, d, hd => by
    rcases List.mem_cons.mp hd with rfl | hd
    · exact ⟨0, rfl⟩
    · rw [descendantsWithin_eq_flatMap, List.mem_flatMap] at hd
      obtain ⟨c, hc, hd⟩ := hd
      obtain ⟨j, hj⟩ := exists_up_of_mem_subtreeWithin hf k c d hd
      exact ⟨j + 1, up_succ_eq_some.mpr ⟨c, hj, hf n c hc⟩⟩

theorem WellFormed.index_lt_of_up (hf : f.WellFormed) {d a b : NodeId} {i : Nat}
    (ha : f.up i d = some a) : ∀ j, i < j → f.up j d = some b → b.index < a.index := by
  intro j
  induction j generalizing b with
  | zero => intro h; omega
  | succ j ih =>
    intro hij hb
    obtain ⟨e, he, heb⟩ := up_succ_eq_some.mp hb
    have hbe := hf.ordered e b heb
    rcases Nat.lt_succ_iff_lt_or_eq.mp hij with hij | rfl
    · exact hbe.trans (ih hij he)
    · rw [ha] at he
      cases he
      exact hbe

/-- Two nodes with one parent that a node reaches along parents are one node: the subtrees of
two children of a node share no node. -/
theorem WellFormed.eq_of_up (hf : f.WellFormed) {d c₁ c₂ p : NodeId} {i j : Nat}
    (h₁ : f.up i d = some c₁) (h₂ : f.up j d = some c₂) (hp₁ : f.parent? c₁ = some p)
    (hp₂ : f.parent? c₂ = some p) : c₁ = c₂ := by
  have hu₁ : f.up (i + 1) d = some p := up_succ_eq_some.mpr ⟨c₁, h₁, hp₁⟩
  have hu₂ : f.up (j + 1) d = some p := up_succ_eq_some.mpr ⟨c₂, h₂, hp₂⟩
  rcases lt_trichotomy i j with hij | rfl | hij
  · exact absurd (hf.index_lt_of_up hu₁ (j + 1) (by omega) hu₂) (lt_irrefl _)
  · rw [h₁] at h₂
    exact Option.some.inj h₂
  · exact absurd (hf.index_lt_of_up hu₂ (i + 1) (by omega) hu₁) (lt_irrefl _)

theorem WellFormed.disjoint_subtreeWithin (hf : f.WellFormed) {c₁ c₂ p d : NodeId} {k k' : Nat}
    (hp₁ : f.parent? c₁ = some p) (hp₂ : f.parent? c₂ = some p) (hne : c₁ ≠ c₂)
    (h₁ : d ∈ f.subtreeWithin k c₁) (h₂ : d ∈ f.subtreeWithin k' c₂) : False := by
  obtain ⟨i, hi⟩ := exists_up_of_mem_subtreeWithin hf.linked k c₁ d h₁
  obtain ⟨j, hj⟩ := exists_up_of_mem_subtreeWithin hf.linked k' c₂ d h₂
  exact hne (hf.eq_of_up hi hj hp₁ hp₂)

theorem WellFormed.le_of_mem_subtreeWithin (hf : f.WellFormed) {k : Nat} {n d : NodeId}
    (hd : d ∈ f.subtreeWithin k n) : n.index ≤ d.index := by
  cases k with
  | zero => simp [subtreeWithin] at hd
  | succ k =>
    rcases List.mem_cons.mp hd with rfl | hd
    · exact le_refl _
    · exact le_of_lt (hf.lt_of_mem_descendantsWithin k n d hd)

theorem WellFormed.lt_of_mem_subtreeWithin (hf : f.WellFormed) {k : Nat} {n d : NodeId}
    (hn : n.index < f.nodes.size) (hd : d ∈ f.subtreeWithin k n) : d.index < f.nodes.size := by
  cases k with
  | zero => simp [subtreeWithin] at hd
  | succ k =>
    rcases List.mem_cons.mp hd with rfl | hd
    · exact hn
    · obtain ⟨p, hp⟩ := Option.ne_none_iff_exists'.mp
        (parent?_ne_none_of_mem_descendantsWithin hf.linked k n d hd)
      exact index_lt_of_parent? hp

theorem descendantsWithin_eq_of_rank (H : NodeId → Nat)
    (hH : ∀ c d, d ∈ f.children c → H d < H c) :
    ∀ (k k' : Nat) (c : NodeId), H c ≤ k → H c ≤ k' →
      f.descendantsWithin k c = f.descendantsWithin k' c := by
  have hleaf : ∀ c, H c = 0 → ∀ k, f.descendantsWithin k c = [] := fun c h0 =>
    descendantsWithin_of_children_eq_nil <| List.eq_nil_iff_forall_not_mem.mpr fun d hd => by
      have := hH c d hd
      omega
  intro k
  induction k with
  | zero => intro k' c hk _; rw [hleaf c (by omega), hleaf c (by omega)]
  | succ k ih =>
    intro k' c hk hk'
    cases k' with
    | zero => rw [hleaf c (by omega), hleaf c (by omega)]
    | succ k' =>
      simp only [descendantsWithin]
      refine List.flatMap_congr fun d hd => ?_
      have := hH c d hd
      rw [ih k' d (by omega) (by omega)]

/-- In a well-formed forest a walk from `c` reaches every node under it once it has as many
levels as there are nodes from `c` on. -/
theorem WellFormed.descendantsWithin_eq (hf : f.WellFormed) {k : Nat} {c : NodeId}
    (hk : f.nodes.size ≤ c.index + k) : f.descendantsWithin k c = f.descendants c := by
  refine descendantsWithin_eq_of_rank (fun x => f.nodes.size - x.index) (fun c d hd => ?_) k
    f.depthBound c (by omega) (by unfold depthBound; omega)
  have := hf.lt_of_mem_children hd
  have := hf.index_lt_of_mem_children hd
  omega

/-! ## A node moved into a new element in its place -/

theorem parent?_add_of_ne (f : Forest) (node : Node) {m : NodeId} (hm : m ≠ (f.add node).1) :
    (f.add node).2.parent? m = f.parent? m := by
  rcases lt_or_ge m.index f.nodes.size with h | h
  · exact parent?_add_of_lt f node h
  · have hne : m.index ≠ f.nodes.size := fun he => hm (by cases m; simp_all [add])
    rw [parent?_of_size_le h, parent?_of_size_le (by rw [size_add]; omega)]

theorem kind_add_of_lt (f : Forest) (node : Node) {m : NodeId} (hm : m.index < f.nodes.size) :
    (f.add node).2.kind m = f.kind m := by
  rw [kind, get_add_of_lt f node hm, kind]

theorem children_appendChild_of_nil {p c : NodeId} (hp : f.children p = [])
    (hcp : f.parent? c ≠ some p) (hpv : p.index < f.nodes.size) (x : NodeId) :
    (f.appendChild p c).children x = if x = p then [c] else (f.detach c).children x := by
  have hlen : (f.get p).children.size = 0 := by simpa [children] using hp
  simp only [appendChild, insertChild, hlen, hcp, if_false, Nat.min_self]
  rw [children_modify (by intro; rfl)]
  split
  · rename_i hx
    subst hx
    rw [children, get_modify_self _ _ _ (by rwa [size_detach])]
    have hd : ((f.detach c).get x).children.toList = [] := by
      rw [← children, children_detach, if_neg hcp, hp]
    simp [hd]
  · rw [children, get_modify_of_ne _ ‹_›, ← children]

def spanned (f : Forest) (y : NodeId) (node : Node) : Forest :=
  ((f.add node).2.insertBefore y (f.add node).1).appendChild (f.add node).1 y

section Spanned

variable {y q : NodeId} {A B : List NodeId} (node : Node)

theorem size_spanned : (f.spanned y node).nodes.size = f.nodes.size + 1 := by
  rw [spanned, appendChild, size_insertChild, size_insertBefore, size_add]

theorem kind_spanned (x : NodeId) : (f.spanned y node).kind x = (f.add node).2.kind x := by
  rw [spanned, appendChild, kind_insertChild, kind_insertBefore]

variable (hnode : node.parent = none ∧ node.children = #[]) (hq : f.parent? y = some q)
  (hy : y.index < f.nodes.size)
include hnode hq hy

theorem parent?_spanned (x : NodeId) :
    (f.spanned y node).parent? x =
      if x = y then some (f.add node).1 else if x = (f.add node).1 then some q else f.parent? x := by
  have hsy : y ≠ (f.add node).1 := fun h => by rw [h, index_add] at hy; omega
  have hq' : (f.add node).2.parent? y = some q := by rw [parent?_add_of_lt f node hy, hq]
  have hs : (f.add node).2.parent? (f.add node).1 = none := by
    simp [parent?, get_add_self, hnode.1]
  rw [spanned, appendChild]
  split
  · rename_i hx
    subst hx
    exact parent?_insertChild_self _ _ _ (by rw [size_insertBefore, size_add]; omega)
  · rename_i hx
    rw [parent?_insertChild_of_ne _ _ _ hx,
      parent?_insertBefore hq' hs (by rw [size_add, index_add]; omega)]
    split
    · rfl
    · exact parent?_add_of_ne f node ‹_›

theorem children_spanned (hl : f.children q = A ++ y :: B) (hyA : y ∉ A) (hyB : y ∉ B)
    (hqv : q.index < f.nodes.size) (x : NodeId) :
    (f.spanned y node).children x =
      if x = q then A ++ (f.add node).1 :: B else if x = (f.add node).1 then [y] else f.children x := by
  have hsy : y ≠ (f.add node).1 := fun h => by rw [h, index_add] at hy; omega
  have hsq : (f.add node).1 ≠ q := fun h => by rw [← h, index_add] at hqv; omega
  have hq' : (f.add node).2.parent? y = some q := by rw [parent?_add_of_lt f node hy, hq]
  have hs : (f.add node).2.parent? (f.add node).1 = none := by
    simp [parent?, get_add_self, hnode.1]
  have hch : ∀ x, (f.add node).2.children x = if x = (f.add node).1 then [] else f.children x := by
    intro x
    rw [children_add f hnode.2]
    split
    · rename_i hx
      rw [if_neg fun h => by rw [h, index_add] at hx; omega]
    · rename_i hx
      split
      · rfl
      · rw [children_of_size_le (by omega)]
  have hl' : (f.add node).2.children q = A ++ y :: B := by rw [hch, if_neg (Ne.symm hsq), hl]
  have hbefore := children_insertBefore_of_lt hq' hl' hyA hs hsq (by rw [size_add]; omega)
  have hys : ((f.add node).2.insertBefore y (f.add node).1).parent? y ≠ some (f.add node).1 := by
    rw [parent?_insertBefore_of_ne _ _ hsy, hq']
    exact fun h => hsq (Option.some.inj h).symm
  rw [spanned, children_appendChild_of_nil (by rw [hbefore, if_neg hsq, hch, if_pos rfl]) hys
    (by rw [size_insertBefore, size_add, index_add]; omega), children_detach,
    parent?_insertBefore_of_ne _ _ hsy, hq', hbefore]
  by_cases hxq : x = q
  · subst hxq
    have hfilter : (A ++ (f.add node).1 :: y :: B).filter (· != y) = A ++ (f.add node).1 :: B := by
      rw [List.filter_append, List.filter_cons_of_pos (by simpa using hsy.symm),
        List.filter_cons_of_neg (by simp), List.filter_eq_self.mpr fun z hz => by
          simpa using fun h : z = y => hyA (h ▸ hz), List.filter_eq_self.mpr fun z hz => by
          simpa using fun h : z = y => hyB (h ▸ hz)]
    simp only [if_neg (Ne.symm hsq), if_true, hfilter]
  · rw [if_neg fun h => hxq (Option.some.inj h).symm, if_neg hxq, if_neg hxq, hch]
    by_cases hxs : x = (f.add node).1 <;> simp [hxs]

end Spanned

end Stencil.Markup.Forest

namespace Stencil.Template

open Stencil.Markup Forest Stencil.Text

namespace NodeTable

/-! ## One step of the walk -/

def spanNode (built : Bool) : Node :=
  ⟨.element "span" [("class", "text"), ("data-tmp", textSpanMark)] built, none, #[]⟩

/-- A text that the walk moves into a new span: it has a parent, and that parent is not already a
span holding it. -/
def needsSpan (f : Forest) (x : NodeId) : Bool :=
  f.isText x && !((f.parent? x).isNone || alreadyWrapped f x)

section Walk

variable {h : Forest} {t : NodeTable} {k : Nat} {c : NodeId}

theorem wrapWithin_done (hc : t.textsDoneAt c = true) : wrapWithin h t (k + 1) c = (c, t, h) := by
  rw [wrapWithin, if_pos hc]

theorem wrapWithin_kept (hc : t.textsDoneAt c = false) (hx : h.isText c = true)
    (hn : ((h.parent? c).isNone || alreadyWrapped h c) = true) :
    wrapWithin h t (k + 1) c = (c, t.markTextsDone c, h) := by
  rw [wrapWithin, if_neg (by simp [hc]), if_pos hx, if_pos hn]

theorem wrapWithin_spanned (hc : t.textsDoneAt c = false) (hx : h.isText c = true)
    (hn : ((h.parent? c).isNone || alreadyWrapped h c) = false) :
    wrapWithin h t (k + 1) c =
      ((h.add (spanNode (h.isDocument (h.top c)))).1,
        (t.markTextsDone c).markTextsDone (h.add (spanNode (h.isDocument (h.top c)))).1,
        h.spanned c (spanNode (h.isDocument (h.top c)))) := by
  rw [wrapWithin, if_neg (by simp [hc]), if_pos hx, if_neg (by simp [hn])]
  rfl

theorem wrapWithin_children (hc : t.textsDoneAt c = false) (hx : h.isText c = false) :
    wrapWithin h t (k + 1) c =
      let r := (h.children c).foldl (fun acc d =>
        ((wrapWithin acc.2 acc.1 k d).2.1, (wrapWithin acc.2 acc.1 k d).2.2)) (t.markTextsDone c, h)
      (c, r.1, r.2) := by
  rw [wrapWithin, if_neg (by simp [hc]), if_neg (by simp [hx])]

end Walk

theorem textsDoneAt_markTextsDone (t : NodeTable) (n x : NodeId) :
    (t.markTextsDone n).textsDoneAt x = true ↔ t.textsDoneAt x = true ∨ x = n := by
  unfold markTextsDone
  split
  · rename_i hn
    exact ⟨Or.inl, fun h => h.elim id fun hx => hx ▸ hn⟩
  · simp [textsDoneAt]

/-! ## Forests with some texts wrapped -/

def spanOr (W : List (NodeId × NodeId)) (x : NodeId) : NodeId := (W.lookup x).getD x

/-- `h` is `f` with each text of `W` moved into the span `W` pairs it with, the span standing
where the text stood; the spans are the nodes added after `f`, in the order of `W`. -/
structure Wrapped (f h : Forest) (W : List (NodeId × NodeId)) : Prop where
  size : h.nodes.size = f.nodes.size + W.length
  spans : W.map Prod.snd = (List.range W.length).map fun i => ⟨f.nodes.size + i⟩
  texts : ∀ x ∈ W.map Prod.fst, x.index < f.nodes.size ∧ needsSpan f x = true
  nodup : (W.map Prod.fst).Nodup
  edited : f.Edited h (fun x => (W.lookup x).or (f.parent? x)) fun p => (f.children p).map (spanOr W)
  span : ∀ x s, (x, s) ∈ W →
    (∃ b, h.kind s = .element "span" [("class", "text"), ("data-tmp", textSpanMark)] b) ∧
      h.children s = [x] ∧ h.parent? s = f.parent? x

section Wrapped

variable {f h : Forest} {W : List (NodeId × NodeId)}

theorem wrapped_refl (f : Forest) : Wrapped f f [] where
  size := rfl
  spans := rfl
  texts := by simp
  nodup := List.nodup_nil
  edited := ⟨fun _ _ => rfl, fun _ _ => rfl, fun _ _ => (List.map_id _).symm⟩
  span := by simp

theorem lookup_eq_none {x : NodeId} (hx : x ∉ W.map Prod.fst) : W.lookup x = none :=
  List.lookup_eq_none_iff.mpr fun _ hp => bne_iff_ne.mpr fun he => hx (he ▸ List.mem_map_of_mem hp)

theorem mem_of_lookup_eq_some {x s : NodeId} (h : W.lookup x = some s) : (x, s) ∈ W := by
  obtain ⟨l₁, l₂, rfl, -⟩ := List.lookup_eq_some_iff.mp h
  simp

theorem spanOr_of_not_mem {x : NodeId} (hx : x ∉ W.map Prod.fst) : spanOr W x = x := by
  rw [spanOr, lookup_eq_none hx, Option.getD_none]

theorem spanOr_append_single {x y s : NodeId} (hy : y ∉ W.map Prod.fst) :
    spanOr (W ++ [(y, s)]) x = if x = y then s else spanOr W x := by
  rw [spanOr, List.lookup_append]
  split
  · rename_i hxy
    subst hxy
    simp [lookup_eq_none hy]
  · rename_i hxy
    rw [@lookup_eq_none [(y, s)] x (by simpa using hxy), Option.or_none, ← spanOr]

namespace Wrapped

variable (hw : Wrapped f h W)
include hw

theorem mem_spans {s : NodeId} :
    s ∈ W.map Prod.snd ↔ f.nodes.size ≤ s.index ∧ s.index < h.nodes.size := by
  rw [hw.spans, hw.size, List.mem_map]
  constructor
  · rintro ⟨i, hi, rfl⟩
    rw [List.mem_range] at hi
    exact ⟨Nat.le_add_right _ _, by simpa using hi⟩
  · rintro ⟨h₁, h₂⟩
    refine ⟨s.index - f.nodes.size, List.mem_range.mpr (by omega), ?_⟩
    cases s
    simp only [NodeId.mk.injEq] at h₁ ⊢
    omega

theorem span_index {x s : NodeId} (hxs : (x, s) ∈ W) :
    f.nodes.size ≤ s.index ∧ s.index < h.nodes.size :=
  (mem_spans hw).mp (List.mem_map.mpr ⟨_, hxs, rfl⟩)

theorem fst_eq_of_snd_eq {x y s : NodeId} (hx : (x, s) ∈ W) (hy : (y, s) ∈ W) : x = y := by
  have hnd : (W.map Prod.snd).Nodup := by
    rw [hw.spans]
    exact List.nodup_range.map fun i j hij => by simpa using hij
  exact congrArg Prod.fst (List.inj_on_of_nodup_map hnd hx hy rfl)

theorem spanOr_eq_iff {a y : NodeId} (hy : y.index < f.nodes.size) (hyW : y ∉ W.map Prod.fst) :
    spanOr W a = y ↔ a = y := by
  constructor
  · intro he
    cases hl : W.lookup a with
    | none => simpa [spanOr, hl] using he
    | some s =>
      have hs := (span_index hw (mem_of_lookup_eq_some hl)).1
      rw [spanOr, hl, Option.getD_some] at he
      subst he
      omega
  · rintro rfl
    exact spanOr_of_not_mem hyW

theorem parent?_eq {x : NodeId} (hx : x.index < f.nodes.size) (hxW : x ∉ W.map Prod.fst) :
    h.parent? x = f.parent? x := by
  rw [hw.edited.parent x hx, lookup_eq_none hxW, Option.none_or]

theorem alreadyWrapped_eq (hf : f.WellFormed) {y : NodeId} (hy : y.index < f.nodes.size)
    (hyW : y ∉ W.map Prod.fst) : alreadyWrapped h y = alreadyWrapped f y := by
  unfold alreadyWrapped
  rw [parent?_eq hw hy hyW]
  cases hp : f.parent? y with
  | none => rfl
  | some p =>
    have hpv := hf.parent_lt hp
    have hk := hw.edited.kind p hpv
    have hlist : (h.children p == [y]) = (f.children p == [y]) := by
      rw [hw.edited.children p hpv]
      cases f.children p with
      | nil => rfl
      | cons a l =>
        cases l with
        | nil => simp [spanOr_eq_iff hw hy hyW]
        | cons b l => simp
    simp only [tagName, name?, attr?, attrs, hk, hlist]

theorem needsSpan_eq (hf : f.WellFormed) {y : NodeId} (hy : y.index < f.nodes.size)
    (hyW : y ∉ W.map Prod.fst) : needsSpan h y = needsSpan f y := by
  rw [needsSpan, needsSpan, isText_congr (hw.edited.kind y hy), parent?_eq hw hy hyW,
    alreadyWrapped_eq hw hf hy hyW]

end Wrapped

end Wrapped

section Wrap

variable {f h : Forest} {W : List (NodeId × NodeId)}

theorem map_spanOr_append_single {l : List NodeId} {y s : NodeId} (hyW : y ∉ W.map Prod.fst)
    (hyl : y ∉ l) : l.map (spanOr (W ++ [(y, s)])) = l.map (spanOr W) :=
  List.map_congr_left fun a ha => by
    rw [spanOr_append_single hyW, if_neg fun he : a = y => hyl (he ▸ ha)]

/-- Moving one more text that needs a span into a new span, in its place, keeps a forest
wrapped. -/
theorem Wrapped.wrap (hf : f.WellFormed) (hw : Wrapped f h W) {y : NodeId}
    (hy : y.index < f.nodes.size) (hyW : y ∉ W.map Prod.fst) (hneed : needsSpan f y = true)
    (b : Bool) : Wrapped f (h.spanned y (spanNode b)) (W ++ [(y, (h.add (spanNode b)).1)]) := by
  have hhs := hw.size
  have hsi : (h.add (spanNode b)).1.index = f.nodes.size + W.length := by
    rw [index_add, hw.size]
  obtain ⟨q, hq⟩ : ∃ q, f.parent? y = some q := by
    unfold needsSpan at hneed
    cases hp : f.parent? y with
    | none => simp [hp] at hneed
    | some q => exact ⟨q, rfl⟩
  obtain ⟨A, B, hl, hyA, hyB⟩ := hf.split hq
  have hqv := hf.parent_lt hq
  have hyv : y.index < h.nodes.size := by rw [hw.size]; omega
  have hqv' : q.index < h.nodes.size := by rw [hw.size]; omega
  have hσ : ∀ l : List NodeId, y ∉ l → y ∉ l.map (spanOr W) := fun l hyl hm => by
    obtain ⟨a, ha, he⟩ := List.mem_map.mp hm
    exact hyl ((hw.spanOr_eq_iff hy hyW).mp he ▸ ha)
  have hlh : h.children q = A.map (spanOr W) ++ y :: B.map (spanOr W) := by
    rw [hw.edited.children q hqv, hl, List.map_append, List.map_cons, spanOr_of_not_mem hyW]
  have hqh : h.parent? y = some q := by rw [hw.parent?_eq hy hyW, hq]
  have hnode : (spanNode b).parent = none ∧ (spanNode b).children = #[] := ⟨rfl, rfl⟩
  have hpar := parent?_spanned (spanNode b) hnode hqh hyv
  have hch := children_spanned (spanNode b) hnode hqh hyv hlh (hσ A hyA) (hσ B hyB) hqv'
  have hold : ∀ x : NodeId, x.index < h.nodes.size → (h.spanned y (spanNode b)).kind x = h.kind x :=
    fun x hx => by rw [kind_spanned, kind_add_of_lt _ _ hx]
  have hsq : (h.add (spanNode b)).1 ≠ q := fun he => by rw [← he] at hqv; omega
  have hsy : (h.add (spanNode b)).1 ≠ y := fun he => by rw [← he] at hy; omega
  refine ⟨?_, ?_, ?_, ?_, ⟨fun x hx => ?_, fun x hx => ?_, fun p hp => ?_⟩, ?_⟩
  · rw [size_spanned, hw.size, List.length_append, List.length_singleton, Nat.add_assoc]
  · rw [List.map_append, hw.spans, List.length_append, List.length_singleton, List.range_succ,
      List.map_append, List.map_singleton, List.map_singleton]
    congr 2
    cases hs : (h.add (spanNode b)).1
    rw [hs] at hsi
    simp only [NodeId.mk.injEq] at hsi ⊢
    omega
  · intro x hx
    rw [List.map_append, List.mem_append] at hx
    rcases hx with hx | hx
    · exact hw.texts x hx
    · rw [List.map_singleton, List.mem_singleton] at hx
      exact hx ▸ ⟨hy, hneed⟩
  · rw [List.map_append, List.map_singleton]
    exact hw.nodup.append (List.nodup_singleton y) (List.disjoint_singleton.mpr hyW)
  · rw [hold x (by rw [hw.size]; omega), hw.edited.kind x hx]
  · rw [hpar, List.lookup_append]
    by_cases hxy : x = y
    · subst hxy
      simp [lookup_eq_none hyW]
    · have hxs : x ≠ (h.add (spanNode b)).1 := fun he => by rw [he] at hx; omega
      rw [if_neg hxy, if_neg hxs, hw.edited.parent x hx,
        @lookup_eq_none [(y, (h.add (spanNode b)).1)] x (by simpa using hxy), Option.or_none]
  · have hps : p ≠ (h.add (spanNode b)).1 := fun he => by rw [he] at hp; omega
    rw [hch, if_neg hps]
    split
    · rename_i hpq
      subst hpq
      rw [hl, List.map_append, List.map_cons, spanOr_append_single hyW, if_pos rfl,
        map_spanOr_append_single hyW hyA, map_spanOr_append_single hyW hyB]
    · rename_i hpq
      have hyp : y ∉ f.children p := fun hm => hpq (Option.some.inj ((hf.linked p y hm).symm.trans hq))
      rw [hw.edited.children p hp, map_spanOr_append_single hyW hyp]
  · intro x s hxs
    rw [List.mem_append, List.mem_singleton] at hxs
    rcases hxs with hxs | hxs
    · have hs := hw.span_index hxs
      have hsq' : s ≠ q := fun he => by rw [he] at hs; omega
      have hss : s ≠ (h.add (spanNode b)).1 := fun he => by rw [he] at hs; omega
      have hsy' : s ≠ y := fun he => by rw [he] at hs; omega
      obtain ⟨⟨b', hk⟩, hc, hp⟩ := hw.span x s hxs
      exact ⟨⟨b', by rw [hold s hs.2, hk]⟩, by rw [hch, if_neg hsq', if_neg hss, hc],
        by rw [hpar, if_neg hsy', if_neg hss, hp]⟩
    · obtain ⟨rfl, rfl⟩ := Prod.mk.inj hxs
      exact ⟨⟨b, by rw [kind_spanned, kind, get_add_self]; rfl⟩, by rw [hch, if_neg hsq, if_pos rfl],
        by rw [hpar, if_neg hsy, if_pos rfl, hq]⟩

end Wrap

/-! ## The walk of a subtree -/

/-- What a walk of the subtree of `c` with `k` levels does from table `t` and forest `h`, when
`h` is `f` wrapped and no node of the subtree is marked or moved yet: it moves the texts of the
subtree that need a span, and it marks the subtree and the new spans. -/
def WrapsWithin (f : Forest) (k : Nat) : Prop :=
  ∀ (c : NodeId) (h : Forest) (t : NodeTable) (W : List (NodeId × NodeId)), Wrapped f h W →
    c.index < f.nodes.size →
    (∀ x ∈ f.subtreeWithin k c, t.textsDoneAt x = false ∧ x ∉ W.map Prod.fst) →
    ∃ V, Wrapped f (wrapWithin h t k c).2.2 (W ++ V) ∧
      V.map Prod.fst = (f.subtreeWithin k c).filter (needsSpan f) ∧
      ∀ x, (wrapWithin h t k c).2.1.textsDoneAt x = true ↔
        t.textsDoneAt x = true ∨ x ∈ f.subtreeWithin k c ∨ x ∈ V.map Prod.snd

section Run

variable {f : Forest} {k : Nat}

theorem foldl_wraps (hf : f.WellFormed) (hk : WrapsWithin f k) {c : NodeId}
    {F : NodeTable × Forest → NodeId → NodeTable × Forest}
    (hF : ∀ acc d, F acc d = ((wrapWithin acc.2 acc.1 k d).2.1, (wrapWithin acc.2 acc.1 k d).2.2)) :
    ∀ (L : List NodeId) (t : NodeTable) (h : Forest) (W : List (NodeId × NodeId)), Wrapped f h W →
      L.Nodup → (∀ d ∈ L, f.parent? d = some c) →
      (∀ x ∈ L.flatMap (f.subtreeWithin k), t.textsDoneAt x = false ∧ x ∉ W.map Prod.fst) →
      ∃ V, Wrapped f (L.foldl F (t, h)).2 (W ++ V) ∧
        V.map Prod.fst = (L.flatMap (f.subtreeWithin k)).filter (needsSpan f) ∧
        ∀ x, (L.foldl F (t, h)).1.textsDoneAt x = true ↔
          t.textsDoneAt x = true ∨ x ∈ L.flatMap (f.subtreeWithin k) ∨ x ∈ V.map Prod.snd
  | [], t, h, W, hw, _, _, _ => ⟨[], by simpa using hw, by simp, by simp⟩
  | d :: L, t, h, W, hw, hnd, hpar, hfresh => by
    have hdc := hpar d List.mem_cons_self
    rw [List.flatMap_cons] at hfresh
    obtain ⟨V₁, hw₁, hV₁, hm₁⟩ := hk d h t W hw (index_lt_of_parent? hdc)
      fun x hx => hfresh x (List.mem_append_left _ hx)
    have hfresh₁ : ∀ x ∈ L.flatMap (f.subtreeWithin k),
        (wrapWithin h t k d).2.1.textsDoneAt x = false ∧ x ∉ (W ++ V₁).map Prod.fst := by
      intro x hx
      obtain ⟨e, he, hxe⟩ := List.mem_flatMap.mp hx
      have hec := hpar e (List.mem_cons_of_mem _ he)
      have hxd : x ∉ f.subtreeWithin k d := fun hxd =>
        hf.disjoint_subtreeWithin hdc hec (fun hde => (List.nodup_cons.mp hnd).1 (hde ▸ he)) hxd hxe
      have hxv : x.index < f.nodes.size := hf.lt_of_mem_subtreeWithin (index_lt_of_parent? hec) hxe
      obtain ⟨hxt, hxW⟩ := hfresh x (List.mem_append_right _ hx)
      refine ⟨Bool.eq_false_iff.mpr fun hm => ?_, ?_⟩
      · rcases (hm₁ x).mp hm with hm | hm | hm
        · rw [hxt] at hm
          cases hm
        · exact hxd hm
        · have hs := (hw₁.mem_spans (s := x)).mp (by rw [List.map_append]; exact List.mem_append_right _ hm)
          omega
      · rw [List.map_append, List.mem_append, not_or, hV₁]
        exact ⟨hxW, fun hm => hxd (List.mem_filter.mp hm).1⟩
    obtain ⟨V₂, hw₂, hV₂, hm₂⟩ := foldl_wraps hf hk hF L _ _ (W ++ V₁) hw₁ (List.nodup_cons.mp hnd).2
      (fun e he => hpar e (List.mem_cons_of_mem _ he)) hfresh₁
    rw [List.foldl_cons, hF]
    refine ⟨V₁ ++ V₂, by simpa only [List.append_assoc] using hw₂, ?_, fun x => ?_⟩
    · rw [List.map_append, hV₁, hV₂, List.flatMap_cons, List.filter_append]
    · rw [hm₂, hm₁, List.flatMap_cons, List.mem_append, List.map_append, List.mem_append]
      tauto

/-- A walk of a subtree whose nodes are not marked yet moves exactly the texts of the subtree that
need a span, and marks the subtree and the new spans. By induction on the levels: a text is
wrapped or kept (`Wrapped.wrap`), another node hands its children to `foldl_wraps`. -/
theorem wrapsWithin (hf : f.WellFormed) (hleaf : ∀ x, f.isText x = true → f.children x = []) :
    ∀ k, WrapsWithin f k
  | 0 => fun c h t W hw _ _ =>
    ⟨[], by rw [List.append_nil]; exact hw, by simp [subtreeWithin],
      fun x => by simp [wrapWithin, subtreeWithin]⟩
  | k + 1 => fun c h t W hw hc hfresh => by
    have hk := wrapsWithin hf hleaf k
    obtain ⟨hct, hcW⟩ := hfresh c List.mem_cons_self
    have htext : h.isText c = f.isText c := isText_congr (hw.edited.kind c hc)
    cases hx : f.isText c with
    | true =>
      have hsub : f.subtreeWithin (k + 1) c = [c] := by
        rw [subtreeWithin, descendantsWithin_of_children_eq_nil (hleaf c hx)]
      have hn : needsSpan h c = needsSpan f c := hw.needsSpan_eq hf hc hcW
      rw [hsub]
      cases hs : ((h.parent? c).isNone || alreadyWrapped h c) with
      | true =>
        have hnf : needsSpan f c = false := by rw [← hn, needsSpan, hs]; simp
        rw [wrapWithin_kept hct (htext.trans hx) hs]
        refine ⟨[], by simpa using hw, by simp [hnf], fun x => ?_⟩
        rw [textsDoneAt_markTextsDone]
        simp
      | false =>
        have hnf : needsSpan f c = true := by rw [← hn, needsSpan, hs, htext, hx]; rfl
        rw [wrapWithin_spanned hct (htext.trans hx) hs]
        refine ⟨_, hw.wrap hf hc hcW hnf _, by simp [hnf], fun x => ?_⟩
        rw [textsDoneAt_markTextsDone, textsDoneAt_markTextsDone]
        simp
        tauto
    | false =>
      rw [wrapWithin_children hct (htext.trans hx)]
      have hcn : needsSpan f c = false := by rw [needsSpan, hx]; rfl
      cases k with
      | zero =>
        have hfold : ∀ (L : List NodeId) acc, L.foldl (fun acc d =>
            ((wrapWithin acc.2 acc.1 0 d).2.1, (wrapWithin acc.2 acc.1 0 d).2.2)) acc = acc := by
          intro L
          induction L with
          | nil => intro acc; rfl
          | cons d L ih => intro acc; exact ih acc
        simp only [hfold]
        refine ⟨[], by simpa using hw, by simp [subtreeWithin, descendantsWithin, hcn], fun x => ?_⟩
        rw [textsDoneAt_markTextsDone]
        simp [subtreeWithin, descendantsWithin]
      | succ k =>
        have hsub : f.subtreeWithin (k + 2) c = c :: (f.children c).flatMap (f.subtreeWithin (k + 1)) :=
          congrArg (c :: ·) (descendantsWithin_eq_flatMap (k + 1) c)
        rw [hsub] at hfresh ⊢
        have hch : h.children c = f.children c := by
          rw [hw.edited.children c hc]
          refine (List.map_congr_left fun d hd => spanOr_of_not_mem (hfresh d ?_).2).trans
            (List.map_id _)
          exact List.mem_cons_of_mem _ (List.mem_flatMap.mpr ⟨d, hd, List.mem_cons_self⟩)
        have hfresh' : ∀ x ∈ (f.children c).flatMap (f.subtreeWithin (k + 1)),
            (t.markTextsDone c).textsDoneAt x = false ∧ x ∉ W.map Prod.fst := by
          intro x hx
          obtain ⟨d, hd, hxd⟩ := List.mem_flatMap.mp hx
          have hcx : c.index < x.index :=
            lt_of_lt_of_le (hf.lt_of_mem_children hd) (hf.le_of_mem_subtreeWithin hxd)
          obtain ⟨hxt, hxW⟩ := hfresh x (List.mem_cons_of_mem _ hx)
          refine ⟨Bool.eq_false_iff.mpr fun hm => ?_, hxW⟩
          rcases (textsDoneAt_markTextsDone t c x).mp hm with hm | rfl
          · rw [hxt] at hm
            cases hm
          · omega
        rw [hch]
        obtain ⟨V, hwV, hV, hm⟩ := foldl_wraps hf hk (fun _ _ => rfl) (f.children c)
          (t.markTextsDone c) h W hw (hf.nodup c) (fun d hd => hf.linked c d hd) hfresh'
        refine ⟨V, hwV, by rw [hV, List.filter_cons, hcn]; rfl, fun x => ?_⟩
        rw [hm, textsDoneAt_markTextsDone, List.mem_cons]
        tauto

end Run

/-! ## The forest after the walk -/

def withSpans (W : List (NodeId × NodeId)) (l : List NodeId) : List NodeId :=
  l.flatMap fun d => (W.lookup d).toList ++ [d]

theorem filterMap_withSpans {W : List (NodeId × NodeId)} {F G : NodeId → Option String} :
    ∀ l : List NodeId, (∀ d ∈ l, G d = F d) → (∀ d ∈ l, ∀ s, W.lookup d = some s → G s = none) →
      (withSpans W l).filterMap G = l.filterMap F
  | [], _, _ => rfl
  | d :: l, hGF, hG => by
    have ih := filterMap_withSpans l (fun e he => hGF e (List.mem_cons_of_mem _ he))
      fun e he => hG e (List.mem_cons_of_mem _ he)
    have hd : ((W.lookup d).toList ++ [d]).filterMap G = [d].filterMap F := by
      cases hl : W.lookup d with
      | none =>
        simp only [Option.toList_none, List.nil_append, List.filterMap_cons, List.filterMap_nil,
          hGF d List.mem_cons_self]
      | some s =>
        simp only [Option.toList_some, List.cons_append, List.nil_append, List.filterMap_cons,
          List.filterMap_nil, hGF d List.mem_cons_self, hG d List.mem_cons_self s hl]
    rw [withSpans, List.flatMap_cons, ← withSpans, List.filterMap_append, ih, hd,
      ← List.filterMap_append, List.singleton_append]

section After

variable {f g : Forest} {W : List (NodeId × NodeId)} (hw : Wrapped f g W) (hf : f.WellFormed)
  (hleaf : ∀ x ∈ W.map Prod.fst, f.children x = [])
include hw

theorem Wrapped.children_of_mem {x s : NodeId} (hxs : (x, s) ∈ W) (hleaf : f.children x = []) :
    g.children x = [] := by
  have hx := (hw.texts x (List.mem_map.mpr ⟨_, hxs, rfl⟩)).1
  rw [hw.edited.children x hx, hleaf, List.map_nil]

include hf hleaf

/-- A walk with enough levels from a node of `f` reaches in `g` the nodes it reached in `f`, each
wrapped text with its span right before it. -/
theorem Wrapped.descendantsWithin_eq :
    ∀ (K : Nat) (p : NodeId), f.nodes.size - p.index < K → p.index < f.nodes.size →
      g.descendantsWithin K p = withSpans W (f.descendantsWithin K p)
  | 0, _, _, _ => rfl
  | K + 1, p, hK, hp => by
    rw [descendantsWithin, descendantsWithin, hw.edited.children p hp, List.flatMap_map, withSpans,
      List.flatMap_assoc]
    refine List.flatMap_congr fun d hd => ?_
    have hpd := hf.lt_of_mem_children hd
    have hdv := hf.index_lt_of_mem_children hd
    cases hl : W.lookup d with
    | none =>
      rw [spanOr, hl, Option.getD_none, List.flatMap_cons, hl,
        Wrapped.descendantsWithin_eq K d (by omega) hdv, withSpans]
      rfl
    | some s =>
      have hds := mem_of_lookup_eq_some hl
      have hdl := hleaf d (List.mem_map.mpr ⟨_, hds, rfl⟩)
      obtain ⟨K, rfl⟩ : ∃ K', K = K' + 1 := ⟨K - 1, by omega⟩
      rw [spanOr, hl, Option.getD_some, List.flatMap_cons, hl,
        descendantsWithin_of_children_eq_nil hdl, List.flatMap_nil, descendantsWithin,
        (hw.span d s hds).2.1]
      simp [descendantsWithin_of_children_eq_nil (hw.children_of_mem hds hdl)]

theorem Wrapped.descendants_eq {n : NodeId} (hn : n.index < f.nodes.size) :
    g.descendants n = withSpans W (f.descendants n) := by
  -- a rank of the nodes of `g` that drops from parent to child and is at most `f.depthBound`
  let H : NodeId → Nat := fun x =>
    if x.index < f.nodes.size then (if g.children x = [] then 0 else f.nodes.size - x.index + 1)
    else 1
  have hH : ∀ c d, d ∈ g.children c → H d < H c := by
    intro c d hd
    have hne : g.children c ≠ [] := List.ne_nil_of_mem hd
    by_cases hc : c.index < f.nodes.size
    · rw [hw.edited.children c hc, List.mem_map] at hd
      obtain ⟨e, he, rfl⟩ := hd
      have hce := hf.lt_of_mem_children he
      have hev := hf.index_lt_of_mem_children he
      simp only [H, if_pos hc, if_neg hne]
      cases hl : W.lookup e with
      | none =>
        rw [spanOr, hl, Option.getD_none]
        split <;> split <;> omega
      | some s =>
        have hs := (hw.span_index (mem_of_lookup_eq_some hl)).1
        rw [spanOr, hl, Option.getD_some, if_neg (by omega)]
        omega
    · have hcg : c.index < g.nodes.size := by
        by_contra hcg
        exact hne (children_of_size_le (by omega))
      obtain ⟨⟨x, c'⟩, hxc, rfl⟩ := List.mem_map.mp ((hw.mem_spans (s := c)).mpr ⟨by omega, hcg⟩)
      rw [(hw.span x c' hxc).2.1, List.mem_singleton] at hd
      have hx := (hw.texts x (List.mem_map.mpr ⟨_, hxc, rfl⟩)).1
      have hxl := hw.children_of_mem hxc (hleaf x (List.mem_map.mpr ⟨_, hxc, rfl⟩))
      rw [hd]
      simp only [H, if_pos hx, if_neg hc, hxl, if_true]
      omega
  have hHn : H n ≤ f.nodes.size + 1 := by
    simp only [H, if_pos hn]
    split <;> omega
  rw [descendants, descendantsWithin_eq_of_rank H hH g.depthBound (f.nodes.size + 1) n
    (by unfold depthBound; rw [hw.size]; omega) hHn,
    hw.descendantsWithin_eq hf hleaf _ n (by omega) hn]
  rfl

theorem Wrapped.textOf_eq {n : NodeId} (hn : n.index < f.nodes.size) : g.textOf n = f.textOf n := by
  unfold textOf
  rw [hw.edited.kind n hn, hw.descendants_eq hf hleaf hn]
  generalize f.kind n = K
  cases K with
  | string k s => rfl
  | element name attrs built =>
    refine congrArg String.join (filterMap_withSpans _ (fun d hd => ?_) fun d _ s hs => ?_)
    · obtain ⟨p, hp⟩ := Option.ne_none_iff_exists'.mp (parent?_ne_none_of_mem_descendantsWithin
        hf.linked _ n d hd)
      simp only [hw.edited.kind d (index_lt_of_parent? hp)]
    · obtain ⟨⟨b, hk⟩, -⟩ := hw.span d s (mem_of_lookup_eq_some hs)
      simp only [hk]
  | document =>
    refine congrArg String.join (filterMap_withSpans _ (fun d hd => ?_) fun d _ s hs => ?_)
    · obtain ⟨p, hp⟩ := Option.ne_none_iff_exists'.mp (parent?_ne_none_of_mem_descendantsWithin
        hf.linked _ n d hd)
      simp only [hw.edited.kind d (index_lt_of_parent? hp)]
    · obtain ⟨⟨b, hk⟩, -⟩ := hw.span d s (mem_of_lookup_eq_some hs)
      simp only [hk]

end After

theorem lowerText_span : lowerText "span" = "span" := by
  have h : lowerAfter [] "span".toList = "span".toList := by decide +kernel
  rw [lowerText, h, String.ofList_toList]

theorem mem_withSpans {W : List (NodeId × NodeId)} {l : List NodeId} {x : NodeId} :
    x ∈ withSpans W l ↔ ∃ d ∈ l, x = d ∨ W.lookup d = some x := by
  simp only [withSpans, List.mem_flatMap, List.mem_append, List.mem_singleton, Option.mem_toList]
  exact exists_congr fun d => and_congr_right fun _ => or_comm

section Read

variable {f g : Forest} {W : List (NodeId × NodeId)} (hw : Wrapped f g W)
include hw

theorem Wrapped.isText_of_mem {x : NodeId} (hx : x ∈ W.map Prod.fst) : f.isText x = true := by
  have h := (hw.texts x hx).2
  unfold needsSpan at h
  simp only [Bool.and_eq_true] at h
  exact h.1

theorem Wrapped.lookup_of_mem {x s : NodeId} (hxs : (x, s) ∈ W) : W.lookup x = some s := by
  have hx : x ∈ W.map Prod.fst := List.mem_map.mpr ⟨_, hxs, rfl⟩
  cases hl : W.lookup x with
  | none => exact absurd hl (by simp [List.lookup_eq_none_iff] ; exact ⟨s, hxs⟩)
  | some s' =>
    have he := List.inj_on_of_nodup_map hw.nodup (mem_of_lookup_eq_some hl) hxs rfl
    rw [(Prod.mk.inj he).2]

theorem Wrapped.parent?_of_isText_eq_false {x : NodeId} (hx : x.index < f.nodes.size)
    (hxt : f.isText x = false) : g.parent? x = f.parent? x :=
  hw.parent?_eq hx fun hm => by rw [hw.isText_of_mem hm] at hxt; cases hxt

theorem Wrapped.filter_children (hf : f.WellFormed) {p : NodeId} (hp : p.index < f.nodes.size) :
    (g.children p).filter (fun x => decide (x.index < f.nodes.size) && !g.isText x) =
      (f.children p).filter fun x => !f.isText x := by
  rw [hw.edited.children p hp, List.filter_map]
  have hsame : ∀ x ∈ f.children p,
      ((fun x => decide (x.index < f.nodes.size) && !g.isText x) ∘ spanOr W) x = !f.isText x := by
    intro x hx
    have hxv := hf.index_lt_of_mem_children hx
    cases hl : W.lookup x with
    | none =>
      simp [spanOr, hl, hxv, isText_congr (hw.edited.kind x hxv)]
    | some s =>
      have hxs := mem_of_lookup_eq_some hl
      have hs := (hw.span_index hxs).1
      have hxt := hw.isText_of_mem (List.mem_map.mpr ⟨_, hxs, rfl⟩)
      simp [spanOr, hl, hxt]
      omega
  rw [List.filter_congr hsame]
  refine (List.map_congr_left fun x hx => spanOr_of_not_mem fun hm => ?_).trans (List.map_id _)
  have hxt := (List.mem_filter.mp hx).2
  rw [hw.isText_of_mem hm] at hxt
  cases hxt

theorem Wrapped.alreadyWrapped_of_mem {x s : NodeId} (hxs : (x, s) ∈ W) :
    alreadyWrapped g x = true := by
  have hx := (hw.texts x (List.mem_map.mpr ⟨_, hxs, rfl⟩)).1
  obtain ⟨⟨b, hk⟩, -⟩ := hw.span x s hxs
  have hclass : "text" ∈ splitBlank "text" := by decide
  rw [alreadyWrapped, hw.edited.parent x hx, hw.lookup_of_mem hxs, Option.some_or]
  simp [tagName, name?, attr?, attrs, hk, lowerText_span, hclass]

theorem Wrapped.new_span (hf : f.WellFormed) {s : NodeId} (hs : f.nodes.size ≤ s.index)
    (hsg : s.index < g.nodes.size) :
    g.tagName s = "span" ∧ g.attr? s "class" = some "text" ∧
      g.attr? s "data-tmp" = some textSpanMark ∧
      ∃ x p, f.isText x = true ∧ g.children s = [x] ∧ f.parent? x = some p ∧
        g.parent? s = some p ∧ (g.children p).idxOf s = (f.children p).idxOf x := by
  obtain ⟨⟨x, s'⟩, hxs, rfl⟩ := List.mem_map.mp ((hw.mem_spans (s := s)).mpr ⟨hs, hsg⟩)
  obtain ⟨⟨b, hk⟩, hch, hpar⟩ := hw.span x s' hxs
  have hxW : x ∈ W.map Prod.fst := List.mem_map.mpr ⟨_, hxs, rfl⟩
  have hxt := hw.isText_of_mem hxW
  obtain ⟨p, hp⟩ : ∃ p, f.parent? x = some p := by
    have h := (hw.texts x hxW).2
    unfold needsSpan at h
    cases hq : f.parent? x with
    | none => simp [hq] at h
    | some p => exact ⟨p, rfl⟩
  refine ⟨by simp [tagName, name?, hk], by simp [attr?, attrs, hk],
    by simp only [attr?, attrs, hk]; decide, x, p, hxt, hch, hp, hpar.trans hp, ?_⟩
  -- the span stands where the text stood: no other child of `p` stands for it
  obtain ⟨A, B, hl, hxA, -⟩ := hf.split hp
  have hsA : s' ∉ A.map (spanOr W) := fun hm => by
    obtain ⟨a, ha, he⟩ := List.mem_map.mp hm
    have hav := hf.index_lt_of_mem_children (hl ▸ List.mem_append_left _ ha)
    cases hla : W.lookup a with
    | none =>
      rw [spanOr, hla, Option.getD_none] at he
      have := (hw.span_index hxs).1
      rw [he] at hav
      omega
    | some s'' =>
      rw [spanOr, hla, Option.getD_some] at he
      subst he
      exact hxA (hw.fst_eq_of_snd_eq (mem_of_lookup_eq_some hla) hxs ▸ ha)
  rw [hw.edited.children p (hf.parent_lt hp), hl, List.map_append, List.map_cons, spanOr,
    hw.lookup_of_mem hxs, Option.getD_some, List.idxOf_append_of_notMem hsA,
    List.idxOf_append_of_notMem hxA, List.idxOf_cons_self, List.idxOf_cons_self, List.length_map]

end Read

theorem wrapTexts_of_textsDoneAt {t : NodeTable} {g : Forest} {m : NodeId}
    (hm : t.textsDoneAt m = true) : t.wrapTexts g m = (m, t, g) :=
  wrapWithin_done hm

/-! ## Wrapping the texts under a node -/

/-- What wrapping the texts under `n` of `f` leaves, as the table `t'` and the forest `g`: the text
content of `n` is unchanged; every other node keeps its parent and its place among the nodes of
`f` that are not texts; every text under `n` is wrapped; each new node is a span of class `text`
marked as added, holding one text of `f` where that text stood; and a second walk from `n` or
from any node under it changes nothing. -/
structure WrapsTexts (f : Forest) (n : NodeId) (t' : NodeTable) (g : Forest) : Prop where
  textOf : g.textOf n = f.textOf n
  parent : ∀ x : NodeId, x.index < f.nodes.size → f.isText x = false → g.parent? x = f.parent? x
  order : ∀ p : NodeId, p.index < f.nodes.size →
    (g.children p).filter (fun x => decide (x.index < f.nodes.size) && !g.isText x) =
      (f.children p).filter fun x => !f.isText x
  wrapped : ∀ x ∈ g.descendants n, g.isText x = true → alreadyWrapped g x = true
  span : ∀ s : NodeId, f.nodes.size ≤ s.index → s.index < g.nodes.size →
    g.tagName s = "span" ∧ g.attr? s "class" = some "text" ∧
      g.attr? s "data-tmp" = some textSpanMark ∧
      ∃ x p, f.isText x = true ∧ g.children s = [x] ∧ f.parent? x = some p ∧
        g.parent? s = some p ∧ (g.children p).idxOf s = (f.children p).idxOf x
  settled : ∀ m, m = n ∨ m ∈ g.descendants n → t'.wrapTexts g m = (m, t', g)

theorem textLeaves_of_lt {f : Forest}
    (h : ∀ i < f.nodes.size, f.isText ⟨i⟩ = true → f.children ⟨i⟩ = []) :
    ∀ x, f.isText x = true → f.children x = [] := fun x hx =>
  if hxv : x.index < f.nodes.size then h x.index hxv hx else children_of_size_le (by omega)

def divOfTexts : Forest :=
  ⟨#[⟨.element "div" [] false, none, #[⟨1⟩, ⟨2⟩, ⟨4⟩]⟩, ⟨.string .text "1", some ⟨0⟩, #[]⟩,
    ⟨.element "strong" [] false, some ⟨0⟩, #[⟨3⟩]⟩, ⟨.string .text "2", some ⟨2⟩, #[]⟩,
    ⟨.string .text "3", some ⟨0⟩, #[]⟩]⟩

end NodeTable

end Stencil.Template

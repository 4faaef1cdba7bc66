import Mathlib
import Stencil.Markup.Build
/-!
# Links of the forest

The forest keeps parent and child links in step: a node among the children of another has it as
its parent (`Forest.Linked`). The edits of a rendering keep the links, and they never give a
parent back to a node that had none, unless the node is new or had a parent when it was moved
(`Forest.Tame`). So a node taken out of its document stays out, and a node with no parent is in
no document (`Forest.not_mem_descendants`).

* `Forest.Linked` : every child has its parent.
* `Forest.Tame` : an edit that keeps the links, gives no old detached node a parent, and only
  adds nodes.
-/

namespace Stencil.Markup
namespace Forest

/-- Every node among the children of another has it as its parent. -/
def Linked (f : Forest) : Prop := ∀ p c, c ∈ f.children p → f.parent? c = some p

/-- An edit from `f` to `g` that keeps the links, gives no node of `f` that had no parent a
parent, and only adds nodes. -/
structure Tame (f g : Forest) : Prop where
  linked : g.Linked
  keeps : ∀ x : NodeId, x.index < f.nodes.size → f.parent? x = none → g.parent? x = none
  grows : f.nodes.size ≤ g.nodes.size

theorem Tame.refl {f : Forest} (h : f.Linked) : Tame f f :=
  ⟨h, fun _ _ hx => hx, le_refl _⟩

theorem Tame.trans {f g h : Forest} (h₁ : Tame f g) (h₂ : Tame g h) : Tame f h :=
  ⟨h₂.linked, fun x hx hf => h₂.keeps x (lt_of_lt_of_le hx h₁.grows) (h₁.keeps x hx hf),
    h₁.grows.trans h₂.grows⟩

/-! ## Reading nodes after an edit -/

theorem get_modify_of_ne {f : Forest} {n m : NodeId} (g : Node → Node) (h : m ≠ n) :
    (f.modify n g).get m = f.get m := by
  have hi : n.index ≠ m.index := fun he => h (by cases n; cases m; simp_all)
  simp [get, modify, Array.getElem?_modify, hi]

theorem get_modify_self (f : Forest) (n : NodeId) (g : Node → Node)
    (hn : n.index < f.nodes.size) : (f.modify n g).get n = g (f.get n) := by
  simp [get, modify, hn, Array.getElem_modify_self]

theorem get_of_size_le {f : Forest} {n : NodeId} (hn : f.nodes.size ≤ n.index) :
    f.get n = default := by
  simp [get, hn]

theorem parent?_of_size_le {f : Forest} {n : NodeId} (hn : f.nodes.size ≤ n.index) :
    f.parent? n = none := by
  simp [parent?, get_of_size_le hn]
  rfl

theorem children_of_size_le {f : Forest} {n : NodeId} (hn : f.nodes.size ≤ n.index) :
    f.children n = [] := by
  simp [children, get_of_size_le hn]
  rfl

theorem linked_of_lt {f : Forest}
    (h : ∀ i < f.nodes.size, ∀ c ∈ f.children ⟨i⟩, f.parent? c = some ⟨i⟩) : f.Linked := by
  intro p c hc
  by_cases hp : p.index < f.nodes.size
  · exact h p.index hp c hc
  · rw [children_of_size_le (Nat.le_of_not_lt hp)] at hc
    cases hc

theorem index_lt_of_parent? {f : Forest} {n p : NodeId} (h : f.parent? n = some p) :
    n.index < f.nodes.size := by
  by_contra hn
  rw [parent?_of_size_le (by omega)] at h
  cases h

theorem size_modify (f : Forest) (n : NodeId) (g : Node → Node) :
    (f.modify n g).nodes.size = f.nodes.size := by
  simp [modify]

theorem parent?_modify {f : Forest} {n : NodeId} {g : Node → Node}
    (hg : ∀ node, (g node).parent = node.parent) (m : NodeId) :
    (f.modify n g).parent? m = f.parent? m := by
  by_cases hm : m = n
  · subst hm
    by_cases hn : m.index < f.nodes.size
    · simp [parent?, get_modify_self f m g hn, hg]
    · simp [parent?, get, modify, hn]
  · simp [parent?, get_modify_of_ne g hm]

theorem children_modify {f : Forest} {n : NodeId} {g : Node → Node}
    (hg : ∀ node, (g node).children = node.children) (m : NodeId) :
    (f.modify n g).children m = f.children m := by
  by_cases hm : m = n
  · subst hm
    by_cases hn : m.index < f.nodes.size
    · simp [children, get_modify_self f m g hn, hg]
    · simp [children, get, modify, hn]
  · simp [children, get_modify_of_ne g hm]

theorem size_add (f : Forest) (node : Node) : (f.add node).2.nodes.size = f.nodes.size + 1 := by
  simp [add]

theorem get_add_of_lt (f : Forest) (node : Node) {m : NodeId} (hm : m.index < f.nodes.size) :
    (f.add node).2.get m = f.get m := by
  simp [add, get, Array.getElem?_push, hm, Nat.ne_of_lt hm]

theorem parent?_add_of_lt (f : Forest) (node : Node) {m : NodeId} (hm : m.index < f.nodes.size) :
    (f.add node).2.parent? m = f.parent? m := by
  rw [parent?, get_add_of_lt f node hm, parent?]

theorem children_add (f : Forest) {node : Node} (hn : node.children = #[]) (m : NodeId) :
    (f.add node).2.children m = if m.index < f.nodes.size then f.children m else [] := by
  split
  · rename_i hm
    rw [children, get_add_of_lt f node hm, children]
  · rename_i hm
    by_cases he : m.index = f.nodes.size
    · simp [children, get, add, he, hn]
    · rw [children_of_size_le (by rw [size_add]; omega)]

theorem linked_add {f : Forest} (hf : f.Linked) {node : Node} (hn : node.children = #[]) :
    (f.add node).2.Linked := by
  intro x c hc
  rw [children_add f hn] at hc
  split at hc
  · have hp := hf x c hc
    rw [parent?_add_of_lt f node (index_lt_of_parent? hp)]
    exact hp
  · cases hc

/-! ## Taking a node out and putting it in -/

theorem size_detach (f : Forest) (n : NodeId) : (f.detach n).nodes.size = f.nodes.size := by
  unfold detach
  split <;> simp [size_modify]

theorem parent?_detach_self (f : Forest) (n : NodeId) : (f.detach n).parent? n = none := by
  unfold detach
  split
  · assumption
  · by_cases hn : n.index < f.nodes.size
    · rw [parent?, get_modify_self _ _ _ (by rwa [size_modify])]
    · exact parent?_of_size_le (by rw [size_modify, size_modify]; omega)

theorem parent?_detach_of_ne (f : Forest) {n m : NodeId} (h : m ≠ n) :
    (f.detach n).parent? m = f.parent? m := by
  unfold detach
  split
  · rfl
  · rw [parent?, get_modify_of_ne _ h, ← parent?, parent?_modify]
    intro; rfl

theorem children_detach (f : Forest) (n x : NodeId) :
    (f.detach n).children x =
      if f.parent? n = some x then (f.children x).filter (· != n) else f.children x := by
  unfold detach
  split
  · rename_i h
    simp [h]
  · rename_i p h
    dsimp only
    rw [children_modify (by intro; rfl), h]
    by_cases hx : x = p
    · subst hx
      by_cases hv : x.index < f.nodes.size
      · simp [children, get_modify_self f x _ hv]
      · simp [children, get, modify, hv]
        rfl
    · have hpx : p ≠ x := fun e => hx e.symm
      rw [children, get_modify_of_ne _ hx, ← children, if_neg (by simpa using hpx)]

theorem linked_detach {f : Forest} (hf : f.Linked) (n : NodeId) : (f.detach n).Linked := by
  intro x c hc
  rw [children_detach] at hc
  split at hc
  · rename_i hn
    obtain ⟨hc, hne⟩ := List.mem_filter.mp hc
    have hne : c ≠ n := by simpa using hne
    rw [parent?_detach_of_ne f hne]
    exact hf x c hc
  · rename_i hn
    have hne : c ≠ n := by
      rintro rfl
      exact hn (hf x c hc)
    rw [parent?_detach_of_ne f hne]
    exact hf x c hc

theorem size_insertChild (f : Forest) (p : NodeId) (pos : Nat) (c : NodeId) :
    (f.insertChild p pos c).nodes.size = f.nodes.size := by
  simp [insertChild, size_modify, size_detach]

theorem parent?_insertChild_of_ne (f : Forest) (p : NodeId) (pos : Nat) {c m : NodeId}
    (h : m ≠ c) : (f.insertChild p pos c).parent? m = f.parent? m := by
  simp only [insertChild]
  rw [parent?, get_modify_of_ne _ h, ← parent?, parent?_modify, parent?_detach_of_ne f h]
  intro; rfl

theorem parent?_insertChild_self (f : Forest) (p : NodeId) (pos : Nat) {c : NodeId}
    (hc : c.index < f.nodes.size) : (f.insertChild p pos c).parent? c = some p := by
  simp only [insertChild]
  rw [parent?, get_modify_self _ _ _ (by rwa [size_modify, size_detach])]

theorem mem_children_insertChild {f : Forest} {p c x y : NodeId} {pos : Nat}
    (hy : y ∈ (f.insertChild p pos c).children x) :
    (x = p ∧ y = c) ∨ y ∈ (f.detach c).children x := by
  simp only [insertChild] at hy
  rw [children_modify (by intro; rfl)] at hy
  by_cases hx : x = p
  · subst hx
    by_cases hv : x.index < (f.detach c).nodes.size
    · simp only [children, get_modify_self _ _ _ hv] at hy
      simp only [List.mem_append, List.mem_singleton] at hy
      rcases hy with (hy | hy) | hy
      · exact Or.inr (List.mem_of_mem_take hy)
      · exact Or.inl ⟨rfl, hy⟩
      · exact Or.inr (List.mem_of_mem_drop hy)
    · rw [children_of_size_le (by rw [size_modify]; omega)] at hy
      cases hy
  · rw [children, get_modify_of_ne _ hx, ← children] at hy
    exact Or.inr hy

theorem linked_insertChild {f : Forest} (hf : f.Linked) (p : NodeId) (pos : Nat) {c : NodeId}
    (hc : c.index < f.nodes.size) : (f.insertChild p pos c).Linked := by
  intro x y hy
  rcases mem_children_insertChild hy with ⟨rfl, rfl⟩ | hy
  · exact parent?_insertChild_self f x pos hc
  · have hd := linked_detach hf c x y hy
    have hne : y ≠ c := by
      rintro rfl
      rw [parent?_detach_self] at hd
      cases hd
    rw [parent?_insertChild_of_ne f p pos hne, ← parent?_detach_of_ne f hne]
    exact hd

theorem parent?_insertBefore_of_ne (f : Forest) (n : NodeId) {c m : NodeId} (h : m ≠ c) :
    (f.insertBefore n c).parent? m = f.parent? m := by
  unfold insertBefore
  split
  · rfl
  · rw [parent?_insertChild_of_ne _ _ _ h, parent?_detach_of_ne f h]

theorem parent?_insertBefore_self {f : Forest} {n c q : NodeId} (hn : f.parent? n = some q)
    (hc : c.index < f.nodes.size) : (f.insertBefore n c).parent? c = some q := by
  unfold insertBefore
  simp only [hn]
  exact parent?_insertChild_self _ _ _ (by rwa [size_detach])

theorem size_insertBefore (f : Forest) (n c : NodeId) :
    (f.insertBefore n c).nodes.size = f.nodes.size := by
  unfold insertBefore
  split
  · rfl
  · rw [size_insertChild, size_detach]

/-! ## Tame edits, one after another

Each lemma extends a tame edit from `F` by one more operation. A node may only get a parent when
it is new to `F` or had a parent in `F`. -/

section Extend

variable {F f : Forest}

theorem Tame.fresh_of_attached (h : Tame F f) {c : NodeId} (hc : f.parent? c ≠ none) :
    F.nodes.size ≤ c.index ∨ F.parent? c ≠ none := by
  rcases Nat.lt_or_ge c.index F.nodes.size with hlt | hge
  · exact Or.inr fun hn => hc (h.keeps c hlt hn)
  · exact Or.inl hge

theorem Tame.detaches {g : Forest} (h : Tame F f) (hg : g.Linked)
    (hsize : f.nodes.size ≤ g.nodes.size)
    (hpar : ∀ m, g.parent? m = f.parent? m ∨ g.parent? m = none) : Tame F g := by
  refine ⟨hg, fun x hx hnone => ?_, h.grows.trans hsize⟩
  rcases hpar x with hx' | hx'
  · rw [hx']
    exact h.keeps x hx hnone
  · exact hx'

theorem Tame.moves {g : Forest} {c : NodeId} (h : Tame F f) (hg : g.Linked)
    (hsize : f.nodes.size ≤ g.nodes.size)
    (hother : ∀ m, m ≠ c → g.parent? m = f.parent? m ∨ g.parent? m = none)
    (hc : F.nodes.size ≤ c.index ∨ F.parent? c ≠ none) : Tame F g := by
  refine ⟨hg, fun x hx hnone => ?_, h.grows.trans hsize⟩
  by_cases hxc : x = c
  · subst hxc
    rcases hc with hc | hc
    · omega
    · exact absurd hnone hc
  · rcases hother x hxc with hx' | hx'
    · rw [hx']
      exact h.keeps x hx hnone
    · exact hx'

theorem Tame.detach (h : Tame F f) (n : NodeId) : Tame F (f.detach n) := by
  refine h.detaches (linked_detach h.linked n) (size_detach f n).ge fun m => ?_
  by_cases hm : m = n
  · subst hm
    exact Or.inr (parent?_detach_self f m)
  · exact Or.inl (parent?_detach_of_ne f hm)

theorem Tame.insertChild (h : Tame F f) (p : NodeId) (pos : Nat) {c : NodeId}
    (hc : c.index < f.nodes.size) (hfresh : F.nodes.size ≤ c.index ∨ F.parent? c ≠ none) :
    Tame F (f.insertChild p pos c) :=
  h.moves (linked_insertChild h.linked p pos hc) (size_insertChild f p pos c).ge
    (fun _ hm => Or.inl (parent?_insertChild_of_ne f p pos hm)) hfresh

theorem Tame.add (h : Tame F f) {node : Node} (hn : node.children = #[]) :
    Tame F (f.add node).2 := by
  refine ⟨linked_add h.linked hn, fun x hx hnone => ?_, ?_⟩
  · rw [parent?_add_of_lt f node (lt_of_lt_of_le hx h.grows)]
    exact h.keeps x hx hnone
  · have := h.grows
    rw [size_add]
    omega

theorem Tame.modify (h : Tame F f) (n : NodeId) {g : Node → Node}
    (hp : ∀ node, (g node).parent = node.parent) (hc : ∀ node, (g node).children = node.children) :
    Tame F (f.modify n g) := by
  have hl : (f.modify n g).Linked := by
    intro x y hy
    rw [children_modify hc] at hy
    rw [parent?_modify hp]
    exact h.linked x y hy
  exact h.detaches hl (size_modify f n g).ge fun m => Or.inl (parent?_modify hp m)

theorem Tame.setAttr (h : Tame F f) (n : NodeId) (key value : String) :
    Tame F (f.setAttr n key value) :=
  h.modify n (fun node => by split <;> rfl) (fun node => by split <;> rfl)

theorem Tame.removeAttr (h : Tame F f) (n : NodeId) (key : String) :
    Tame F (f.removeAttr n key) :=
  h.modify n (fun node => by split <;> rfl) (fun node => by split <;> rfl)

theorem Tame.setContent (h : Tame F f) (n : NodeId) (s : String) :
    Tame F (f.setContent n s) :=
  h.modify n (fun node => by split <;> rfl) (fun node => by split <;> rfl)

theorem Tame.newString (h : Tame F f) (k : StringKind) (s : String) :
    Tame F (f.newString k s).2 :=
  h.add rfl

theorem Tame.newElement (h : Tame F f) (anchor : NodeId) (name : String)
    (attrs : List (String × String)) : Tame F (f.newElement anchor name attrs).2 :=
  h.add rfl

theorem Tame.appendChild (h : Tame F f) (p : NodeId) {c : NodeId} (hc : c.index < f.nodes.size)
    (hfresh : F.nodes.size ≤ c.index ∨ F.parent? c ≠ none) : Tame F (f.appendChild p c) :=
  h.insertChild p _ hc hfresh

theorem Tame.insertBefore (h : Tame F f) (n : NodeId) {c : NodeId} (hc : c.index < f.nodes.size)
    (hfresh : F.nodes.size ≤ c.index ∨ F.parent? c ≠ none) : Tame F (f.insertBefore n c) := by
  unfold Forest.insertBefore
  split
  · exact h
  · exact (h.detach c).insertChild _ _ (by rwa [size_detach]) hfresh

theorem Tame.insertAfter (h : Tame F f) (n : NodeId) {c : NodeId} (hc : c.index < f.nodes.size)
    (hfresh : F.nodes.size ≤ c.index ∨ F.parent? c ≠ none) : Tame F (f.insertAfter n c) := by
  unfold Forest.insertAfter
  split
  · exact h
  · exact (h.detach c).insertChild _ _ (by rwa [size_detach]) hfresh

theorem Tame.add_fresh (h : Tame F f) (node : Node) :
    (f.add node).1.index < (f.add node).2.nodes.size ∧ F.nodes.size ≤ (f.add node).1.index := by
  have := h.grows
  simp only [Forest.add, Array.size_push]
  omega

theorem Tame.appendChild_add (h : Tame F f) (p : NodeId) {node : Node}
    (hn : node.children = #[]) : Tame F ((f.add node).2.appendChild p (f.add node).1) :=
  (h.add hn).appendChild p (h.add_fresh node).1 (Or.inl (h.add_fresh node).2)

theorem Tame.clear (h : Tame F f) (n : NodeId) : Tame F (f.clear n) := by
  unfold Forest.clear
  apply List.foldlRecOn
  · exact h
  · intro g hg _ _
    exact hg.detach _

theorem Tame.setText (h : Tame F f) (n : NodeId) (s : String) : Tame F (f.setText n s) :=
  (h.clear n).appendChild_add n rfl

theorem Tame.replaceWith (h : Tame F f) (n : NodeId) {r : NodeId} (hr : r.index < f.nodes.size)
    (hfresh : F.nodes.size ≤ r.index ∨ F.parent? r ≠ none) : Tame F (f.replaceWith n r) := by
  unfold Forest.replaceWith
  split
  · exact h
  · split
    · exact h
    · exact (h.detach n).insertChild _ _ (by rwa [size_detach]) hfresh

theorem Tame.unwrap (h : Tame F f) (n : NodeId) : Tame F (f.unwrap n) := by
  unfold Forest.unwrap
  split
  · exact h
  · refine h.trans (Tame.detach ?_ n)
    apply List.foldlRecOn
    · exact Tame.refl h.linked
    · intro g hg c hc
      have hp := h.linked n c hc
      exact hg.insertBefore n (lt_of_lt_of_le (index_lt_of_parent? hp) hg.grows)
        (Or.inr (by rw [hp]; simp))

end Extend

/-! ## Copies -/

theorem fst_copyWithin (f : Forest) (fuel : Nat) (n : NodeId) :
    (f.copyWithin fuel n).1 = ⟨f.nodes.size⟩ := by
  cases fuel with
  | zero => rfl
  | succ fuel =>
    rw [copyWithin]
    simp only [Forest.add]
    refine List.foldlRecOn (motive := fun acc : NodeId × Forest => acc.1 = ⟨f.nodes.size⟩) _ _
      rfl ?_
    intro acc hacc _ _
    exact hacc

theorem tame_add_copyWithin {f : Forest} (hf : f.Linked) (fuel : Nat) (n : NodeId) :
    Tame (f.add ⟨f.kind n, none, #[]⟩).2 (f.copyWithin fuel n).2 := by
  induction fuel generalizing f n with
  | zero => exact Tame.refl (linked_add hf rfl)
  | succ fuel ih =>
    rw [copyWithin]
    simp only [Forest.add]
    refine List.foldlRecOn (motive := fun acc : NodeId × Forest => Tame _ acc.2) _ _
      (Tame.refl (linked_add hf rfl)) ?_
    intro acc hacc child _
    have hcopy := ih hacc.linked child
    have hsize := hcopy.grows
    rw [size_add] at hsize
    have hfresh := hacc.grows
    refine (hacc.trans ((Tame.refl hacc.linked).add rfl |>.trans hcopy)).appendChild _ ?_ ?_
    · rw [fst_copyWithin]
      exact hsize
    · rw [fst_copyWithin]
      exact Or.inl hfresh

theorem Tame.copyWithin {F f : Forest} (h : Tame F f) (fuel : Nat) (n : NodeId) :
    Tame F (f.copyWithin fuel n).2 :=
  (h.add rfl).trans (tame_add_copyWithin h.linked fuel n)

theorem Tame.copyWithin_fresh {F f : Forest} (h : Tame F f) (fuel : Nat) (n : NodeId) :
    (f.copyWithin fuel n).1.index < (f.copyWithin fuel n).2.nodes.size ∧
      F.nodes.size ≤ (f.copyWithin fuel n).1.index := by
  have hsize := (tame_add_copyWithin h.linked fuel n).grows
  rw [size_add] at hsize
  rw [fst_copyWithin]
  exact ⟨hsize, h.grows⟩

theorem Tame.copyTree {F f : Forest} (h : Tame F f) (n : NodeId) : Tame F (f.copyTree n).2 :=
  h.copyWithin _ n

theorem Tame.copyTree_fresh {F f : Forest} (h : Tame F f) (n : NodeId) :
    (f.copyTree n).1.index < (f.copyTree n).2.nodes.size ∧ F.nodes.size ≤ (f.copyTree n).1.index :=
  h.copyWithin_fresh _ n

/-! ## Parsed documents -/

section Build

variable {F : Forest}

theorem Tame.flushAs {b : Builder} (h : Tame F b.forest) (kind : StringKind) :
    Tame F (b.flushAs kind).forest := by
  unfold Builder.flushAs
  split
  · exact h
  · exact h.appendChild_add _ rfl

theorem Tame.openElement {b : Builder} (h : Tame F b.forest) (name : String)
    (attrs : List (String × String)) : Tame F (b.openElement name attrs).forest :=
  (h.flushAs .text).appendChild_add _ rfl

theorem Tame.closeElement {b : Builder} (h : Tame F b.forest) (name : String) :
    Tame F (b.closeElement name).forest := by
  unfold Builder.closeElement
  dsimp only
  split <;> exact h.flushAs .text

theorem Tame.endTag {b : Builder} (h : Tame F b.forest) (name : String) :
    Tame F (b.endTag name).forest := by
  unfold Builder.endTag
  split
  · exact h
  · exact h.closeElement name

theorem Tame.literal {b : Builder} (h : Tame F b.forest) (kind : StringKind) (s : String) :
    Tame F (b.literal kind s).forest :=
  Tame.flushAs (b := b.flush.collect s) (h.flushAs .text) kind

theorem Tame.builderStep {b : Builder} (h : Tame F b.forest) (e : Event) :
    Tame F (b.step e).forest := by
  cases e with
  | startTag name attrs selfClosing =>
    have ho := h.openElement name (Builder.attributeList attrs)
    simp only [Builder.step]
    split
    · exact ho.endTag name
    · split
      · exact ho.closeElement name
      · exact ho
  | endTag name => exact h.endTag name
  | markedSection s =>
    simp only [Builder.step]
    split <;> exact h.literal _ _
  | text | charRef | entityRef => exact h
  | comment | declaration | instruction => exact h.literal _ _

theorem Tame.parseDocument {f g : Forest} {text : String} {doc : NodeId} (h : Tame F f)
    (hp : f.parseDocument text = .ok (doc, g)) : Tame F g := by
  unfold Forest.parseDocument at hp
  cases hs : scan text with
  | error err => simp [hs] at hp
  | ok events =>
    simp only [hs, bind, Except.bind, pure, Except.pure, Except.ok.injEq, Prod.mk.injEq] at hp
    rw [← hp.2]
    refine Tame.flushAs ?_ .text
    rw [← Array.foldl_toList]
    refine List.foldlRecOn (motive := fun b : Builder => Tame F b.forest) _ _ ?_ ?_
    · exact h.add rfl
    · intro b hb e _
      exact hb.builderStep e

end Build

/-! ## Nodes in no document -/

theorem parent?_ne_none_of_mem_descendantsWithin {f : Forest} (hf : f.Linked) :
    ∀ (fuel : Nat) (n x : NodeId), x ∈ f.descendantsWithin fuel n → f.parent? x ≠ none
  | 0, _, _, hx => by simp [descendantsWithin] at hx
  | fuel + 1, n, x, hx => by
    rw [descendantsWithin, List.mem_flatMap] at hx
    obtain ⟨c, hc, hx⟩ := hx
    rcases List.mem_cons.mp hx with rfl | hx
    · rw [hf n x hc]
      simp
    · exact parent?_ne_none_of_mem_descendantsWithin hf fuel c x hx

/-- A node with no parent is under no node. -/
theorem not_mem_descendants {f : Forest} (hf : f.Linked) {x : NodeId} (hx : f.parent? x = none)
    (r : NodeId) : x ∉ f.descendants r :=
  fun h => parent?_ne_none_of_mem_descendantsWithin hf _ r x h hx

end Forest
end Stencil.Markup

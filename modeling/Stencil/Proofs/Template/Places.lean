import Mathlib
import Stencil.Proofs.Markup.Shapes
import Stencil.Template.Apply
import Stencil.Template.Compress
import Stencil.Template.Table
/-!
# Edits that leave elements in their places

The edits made to the forest before the children of an element are queued move no node but
texts: compressing a node replaces texts by collapsed ones, `data-apply` appends fresh copies,
stripping directives changes attributes, and wrapping the texts of markup data puts each into a
fresh span. Such an edit keeps the parent of every old node that is not a text, and keeps
elements elements and texts texts (`KeepsPlaces`).

* `KeepsPlaces` : an edit that moves only texts and new nodes.
* `keepsPlaces_compress`, `keepsPlaces_applyTemplates`, `keepsPlaces_stripDirectives`,
  `keepsPlaces_wrapWithin` : the edits before the children of an element are queued.
-/

namespace Stencil.Template

open Stencil.Markup Forest

/-- An edit from `f` to `g` that only adds nodes, keeps each node of `f` an element or a text as
it was, and keeps the parent of each node of `f` that is not a text. -/
structure KeepsPlaces (f g : Forest) : Prop where
  grows : f.nodes.size ≤ g.nodes.size
  element : ∀ x : NodeId, x.index < f.nodes.size → g.isElement x = f.isElement x
  text : ∀ x : NodeId, x.index < f.nodes.size → g.isText x = f.isText x
  parent : ∀ x : NodeId, x.index < f.nodes.size → f.isText x = false → g.parent? x = f.parent? x

theorem index_lt_of_isElement {f : Forest} {e : NodeId} (he : f.isElement e = true) :
    e.index < f.nodes.size := by
  by_contra h
  simp [isElement, Forest.kind, get_of_size_le (Nat.le_of_not_lt h)] at he

namespace KeepsPlaces

variable {F f g : Forest}

theorem element_place (h : KeepsPlaces F f) {e : NodeId} (he : F.isElement e = true) :
    f.isElement e = true ∧ f.parent? e = F.parent? e := by
  have hv := index_lt_of_isElement he
  refine ⟨by rw [h.element e hv, he], h.parent e hv ?_⟩
  simp only [isElement, isText] at he ⊢
  split at he <;> simp_all

theorem refl (f : Forest) : KeepsPlaces f f :=
  ⟨le_refl _, fun _ _ => rfl, fun _ _ => rfl, fun _ _ _ => rfl⟩

theorem trans (h₁ : KeepsPlaces F f) (h₂ : KeepsPlaces f g) : KeepsPlaces F g := by
  refine ⟨h₁.grows.trans h₂.grows, fun x hx => ?_, fun x hx => ?_, fun x hx ht => ?_⟩
  · rw [h₂.element x (lt_of_lt_of_le hx h₁.grows), h₁.element x hx]
  · rw [h₂.text x (lt_of_lt_of_le hx h₁.grows), h₁.text x hx]
  · rw [h₂.parent x (lt_of_lt_of_le hx h₁.grows) (by rw [h₁.text x hx]; exact ht), h₁.parent x hx ht]

theorem of_moves (h : KeepsPlaces F f) {c : NodeId} (hc : F.nodes.size ≤ c.index ∨ f.isText c = true)
    (hs : f.nodes.size ≤ g.nodes.size) (hk : ∀ x, g.kind x = f.kind x)
    (hp : ∀ x, x ≠ c → g.parent? x = f.parent? x) : KeepsPlaces F g := by
  refine ⟨h.grows.trans hs, fun x hx => ?_, fun x hx => ?_, fun x hx ht => ?_⟩
  · rw [← h.element x hx]
    simp only [isElement, hk x]
  · rw [← h.text x hx]
    simp only [isText, hk x]
  · have hxc : x ≠ c := by
      rintro rfl
      rcases hc with hc | hc
      · omega
      · rw [h.text x hx] at hc
        rw [hc] at ht
        cases ht
    rw [hp x hxc, h.parent x hx ht]

theorem add (h : KeepsPlaces F f) (node : Node) : KeepsPlaces F (f.add node).2 := by
  refine h.trans ⟨by rw [size_add]; omega, fun x hx => ?_, fun x hx => ?_, fun x hx _ => ?_⟩
  · simp only [isElement, Forest.kind, get_add_of_lt f node hx]
  · simp only [isText, Forest.kind, get_add_of_lt f node hx]
  · exact parent?_add_of_lt f node hx

theorem detach (h : KeepsPlaces F f) {c : NodeId} (hc : F.nodes.size ≤ c.index ∨ f.isText c = true) :
    KeepsPlaces F (f.detach c) :=
  h.of_moves hc (size_detach f c).ge (kind_detach f c) (fun _ hx => parent?_detach_of_ne f hx)

theorem insertChild (h : KeepsPlaces F f) (p : NodeId) (pos : Nat) {c : NodeId}
    (hc : F.nodes.size ≤ c.index ∨ f.isText c = true) : KeepsPlaces F (f.insertChild p pos c) :=
  h.of_moves hc (size_insertChild f p pos c).ge (kind_insertChild f p pos c)
    (fun _ hx => parent?_insertChild_of_ne f p pos hx)

theorem appendChild (h : KeepsPlaces F f) (p : NodeId) {c : NodeId}
    (hc : F.nodes.size ≤ c.index ∨ f.isText c = true) : KeepsPlaces F (f.appendChild p c) :=
  h.insertChild p _ hc

theorem insertBefore (h : KeepsPlaces F f) (n : NodeId) {c : NodeId}
    (hc : F.nodes.size ≤ c.index ∨ f.isText c = true) : KeepsPlaces F (f.insertBefore n c) := by
  unfold Forest.insertBefore
  split
  · exact h
  · have hd := h.detach hc
    refine hd.insertChild _ _ ?_
    rcases hc with hc | hc
    · exact Or.inl hc
    · right
      simpa only [isText, kind_detach] using hc

theorem replaceWith (h : KeepsPlaces F f) {n r : NodeId}
    (hn : F.nodes.size ≤ n.index ∨ f.isText n = true) (hr : F.nodes.size ≤ r.index) :
    KeepsPlaces F (f.replaceWith n r) := by
  unfold Forest.replaceWith
  split
  · exact h
  · split
    · exact h
    · exact (h.detach hn).insertChild _ _ (Or.inl hr)

theorem setAttr (h : KeepsPlaces F f) (n : NodeId) (key value : String) :
    KeepsPlaces F (f.setAttr n key value) := by
  refine h.trans ⟨(size_modify f n _).ge, fun x hx => ?_, fun x hx => ?_,
    fun x _ _ => parent?_modify (fun node => by split <;> rfl) x⟩
  all_goals
    by_cases hxn : x = n
    · subst hxn
      simp only [isElement, isText, Forest.kind, Forest.setAttr, get_modify_self f x _ hx]
      rcases f.get x with ⟨k, p, c⟩
      cases k <;> rfl
    · simp only [isElement, isText, Forest.kind, Forest.setAttr, get_modify_of_ne _ hxn]

theorem removeAttr (h : KeepsPlaces F f) (n : NodeId) (key : String) :
    KeepsPlaces F (f.removeAttr n key) := by
  refine h.trans ⟨(size_modify f n _).ge, fun x hx => ?_, fun x hx => ?_,
    fun x _ _ => parent?_modify (fun node => by split <;> rfl) x⟩
  all_goals
    by_cases hxn : x = n
    · subst hxn
      simp only [isElement, isText, Forest.kind, Forest.removeAttr, get_modify_self f x _ hx]
      rcases f.get x with ⟨k, p, c⟩
      cases k <;> rfl
    · simp only [isElement, isText, Forest.kind, Forest.removeAttr, get_modify_of_ne _ hxn]

theorem add_fresh (h : KeepsPlaces F f) (node : Node) : F.nodes.size ≤ (f.add node).1.index := by
  have := h.grows
  simp only [Forest.add]
  omega

theorem newElement (h : KeepsPlaces F f) (anchor : NodeId) (name : String)
    (attrs : List (String × String)) : KeepsPlaces F (f.newElement anchor name attrs).2 :=
  h.add _

theorem newElement_fresh (h : KeepsPlaces F f) (anchor : NodeId) (name : String)
    (attrs : List (String × String)) : F.nodes.size ≤ (f.newElement anchor name attrs).1.index :=
  h.add_fresh _

theorem fresh_or_text {n : NodeId} (h : KeepsPlaces F f) (hn : f.isText n = true) :
    F.nodes.size ≤ n.index ∨ F.isText n = true := by
  by_cases hv : n.index < F.nodes.size
  · exact Or.inr (by rw [← h.text n hv]; exact hn)
  · exact Or.inl (Nat.le_of_not_lt hv)

theorem text_or_fresh (h : KeepsPlaces F f) {n : NodeId} (hn : F.nodes.size ≤ n.index ∨ F.isText n = true) :
    F.nodes.size ≤ n.index ∨ f.isText n = true := by
  rcases hn with hn | hn
  · exact Or.inl hn
  · by_cases hv : n.index < F.nodes.size
    · exact Or.inr (by rw [h.text n hv]; exact hn)
    · exact Or.inl (Nat.le_of_not_lt hv)

theorem copyWithin (h : KeepsPlaces F f) (fuel : Nat) (n : NodeId) :
    KeepsPlaces F (f.copyWithin fuel n).2 := by
  induction fuel generalizing f n with
  | zero => exact h.add _
  | succ fuel ih =>
    rw [Forest.copyWithin]
    have hc := h.add_fresh ⟨f.kind n, none, #[]⟩
    refine List.foldlRecOn (motive := fun acc : NodeId × Forest =>
      KeepsPlaces F acc.2 ∧ acc.1 = (f.add ⟨f.kind n, none, #[]⟩).1) _ _ ⟨h.add _, rfl⟩ ?_ |>.1
    intro acc hacc child _
    obtain ⟨hacc, h1⟩ := hacc
    have hcopy := ih hacc child
    have hfresh : F.nodes.size ≤ (acc.2.copyWithin fuel child).1.index := by
      rw [fst_copyWithin]
      exact hacc.grows
    exact ⟨hcopy.appendChild acc.1 (Or.inl hfresh), h1⟩

theorem copyTree (h : KeepsPlaces F f) (n : NodeId) : KeepsPlaces F (f.copyTree n).2 :=
  h.copyWithin _ n

theorem copyTree_fresh (h : KeepsPlaces F f) (n : NodeId) : F.nodes.size ≤ (f.copyTree n).1.index := by
  rw [Forest.copyTree, fst_copyWithin]
  exact h.grows

end KeepsPlaces

/-! ## The edits before the children of an element are queued -/

section Edits

variable {F f : Forest}

theorem keepsPlaces_compressText (h : KeepsPlaces F f) {n : NodeId}
    (hn : F.nodes.size ≤ n.index ∨ F.isText n = true) : KeepsPlaces F (compressText f n).2 := by
  unfold compressText
  dsimp only
  split
  · exact h
  · split
    · exact (h.add _).replaceWith ((h.add _).text_or_fresh hn) (h.add_fresh _)
    · exact h.add _

/-- Compressing a node that is not a comment moves no node but texts. -/
theorem keepsPlaces_compress {n : NodeId} (hn : f.isComment n = false) :
    KeepsPlaces f (compress f n).2 := by
  unfold compress
  rw [if_neg (by simp [hn])]
  split
  · refine List.foldlRecOn (motive := fun g => KeepsPlaces f g) _ _ (KeepsPlaces.refl f) ?_
    intro g hg c _
    split
    · rename_i hc
      exact keepsPlaces_compressText hg (hg.fresh_or_text hc)
    · exact hg
  · exact KeepsPlaces.refl f

theorem keepsPlaces_stripDirectives (h : KeepsPlaces F f) (e : NodeId) :
    KeepsPlaces F (stripDirectives f e) := by
  unfold stripDirectives
  split
  · exact h
  · dsimp only
    refine List.foldlRecOn (motive := fun g => KeepsPlaces F g) _ _ ?_ ?_
    · refine List.foldlRecOn (motive := fun g => KeepsPlaces F g) _ _ h ?_
      intro g hg _ _
      split
      · exact hg.removeAttr e _
      · exact hg
    · intro g hg _ _
      split
      · exact (hg.removeAttr e _).setAttr e _ _
      · exact hg

/-- `data-apply` appends fresh copies to the element. -/
theorem keepsPlaces_applyTemplates (h : KeepsPlaces F f) {e pristine : NodeId}
    {res : Nat × Forest × List Problem} (hres : applyTemplates f e pristine = .ok res) :
    KeepsPlaces F res.2.1 := by
  rcases applyTemplates_ok hres with ⟨hf, -⟩ | ⟨found, rfl⟩
  · rw [hf]
    exact h
  · exact appendCopies_induction e found h fun g n hg _ =>
      (hg.copyTree _).appendChild e (Or.inl (hg.copyTree_fresh _))

/-- Wrapping texts puts each into a fresh span, and moves nothing else. -/
theorem keepsPlaces_wrapWithin :
    ∀ (fuel : Nat) (f : Forest) (t : NodeTable) (n : NodeId), KeepsPlaces F f →
      KeepsPlaces F (NodeTable.wrapWithin f t fuel n).2.2
  | 0, _, _, _, h => h
  | fuel + 1, f, t, n, h => by
    unfold NodeTable.wrapWithin
    split
    · exact h
    · dsimp only
      split
      · rename_i hn
        split
        · exact h
        · have hb := (h.newElement n "span" [("class", "text"), ("data-tmp", textSpanMark)]).insertBefore n
            (Or.inl (h.newElement_fresh n "span" [("class", "text"), ("data-tmp", textSpanMark)]))
          exact hb.appendChild _ (hb.text_or_fresh (h.fresh_or_text hn))
      · refine List.foldlRecOn (motive := fun acc : NodeTable × Forest => KeepsPlaces F acc.2) _ _ h ?_
        intro acc hacc c _
        exact keepsPlaces_wrapWithin fuel acc.2 acc.1 c hacc

end Edits

end Stencil.Template

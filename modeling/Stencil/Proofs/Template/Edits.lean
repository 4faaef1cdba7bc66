import Mathlib
import Stencil.Proofs.Markup.Links
import Stencil.Template.Apply
import Stencil.Template.Compress
import Stencil.Template.Renderer
/-!
# The edits of a rendering are tame

Every change a rendering makes to the forest outside its bookkeeping is a tame edit
(`Forest.Tame`): compressing a template node, stripping directives, applying templates, and
every built-in renderer of a chain. None of them gives an old node that had no parent a parent: what they
put into a document is new, or was in a document already.

* `tame_compress`, `tame_stripDirectives`, `tame_applyTemplates` : the edits before a task.
* `Renderer.Tame`, `tame_runChain` : a renderer that edits tamely; a chain of them, such as the
  built-in renderers.
-/

namespace Stencil.Template

open Stencil.Markup Forest

section

variable {F f : Forest}

/-! ## Templates -/

theorem tame_compressText (h : Tame F f) (n : NodeId) : Tame F (compressText f n).2 := by
  unfold compressText
  dsimp only
  split
  · exact h
  · split
    · exact (h.newString _ _).replaceWith n (h.add_fresh _).1 (Or.inl (h.add_fresh _).2)
    · exact h.newString _ _

theorem tame_compress (h : Tame F f) (n : NodeId) : Tame F (compress f n).2 := by
  unfold compress
  split
  · exact h.detach n
  · split
    · refine List.foldlRecOn (motive := fun g => Tame F g) _ _ h ?_
      intro g hg c _
      split
      · exact tame_compressText hg c
      · exact hg
    · exact h

theorem tame_stripDirectives (h : Tame F f) (e : NodeId) : Tame F (stripDirectives f e) := by
  unfold stripDirectives
  split
  · exact h
  · dsimp only
    refine List.foldlRecOn (motive := fun g => Tame F g) _ _ ?_ ?_
    · refine List.foldlRecOn (motive := fun g => Tame F g) _ _ h ?_
      intro g hg _ _
      split
      · exact hg.removeAttr e _
      · exact hg
    · intro g hg _ _
      split
      · exact (hg.removeAttr e _).setAttr e _ _
      · exact hg

theorem tame_applyTemplates (h : Tame F f) {e pristine : NodeId}
    {res : Nat × Forest × List Problem} (hres : applyTemplates f e pristine = .ok res) :
    Tame F res.2.1 := by
  rcases applyTemplates_ok hres with ⟨hf, -⟩ | ⟨found, rfl⟩
  · rw [hf]
    exact h
  · exact appendCopies_induction e found h fun g n hg _ =>
      (hg.copyTree n).appendChild e (hg.copyTree_fresh n).1 (Or.inl (hg.copyTree_fresh n).2)

/-! ## Renderers -/

theorem tame_stopWithText (h : Tame F f) (v : Value) {change : String → Forest}
    (hc : ∀ t, Tame F (change t)) : Tame F (stopWithText f v change).2 := by
  unfold stopWithText
  split
  · exact hc _
  · exact h

theorem tame_renderDate (h : Tame F f) (r : RenderRequest) : Tame F (renderDate f r).2 := by
  unfold renderDate
  repeat' split
  all_goals first | exact h | exact h.setText _ _

theorem tame_renderUrl (h : Tame F f) (r : RenderRequest) : Tame F (renderUrl f r).2 := by
  unfold renderUrl
  repeat' split
  all_goals first | exact h | exact h.setAttr _ _ _

theorem tame_renderFormControl (h : Tame F f) (r : RenderRequest) :
    Tame F (renderFormControl f r).2 := by
  unfold renderFormControl
  dsimp only
  repeat' split
  all_goals first
    | exact h
    | exact tame_stopWithText h _ fun _ => h.setText _ _
    | exact tame_stopWithText h _ fun _ => h.setAttr _ _ _

theorem tame_renderImage (h : Tame F f) (r : RenderRequest) : Tame F (renderImage f r).2 := by
  unfold renderImage
  repeat' split
  all_goals first | exact h | exact tame_stopWithText h _ fun _ => h.setAttr _ _ _

theorem tame_renderText (h : Tame F f) (r : RenderRequest) : Tame F (renderText f r).2 := by
  unfold renderText
  -- each branch is named: trying `h` on a branch that edits makes Lean unfold the edit
  split
  · split
    · exact h.setText _ _
    · exact h
  · split
    · exact tame_stopWithText h _ fun _ => h.setText _ _
    · exact h

theorem tame_mergeAttributes (h : Tame F f) (e source : NodeId) :
    Tame F (mergeAttributes f e source) := by
  unfold mergeAttributes
  refine List.foldlRecOn (motive := fun g => Tame F g) _ _ h ?_
  intro g hg ⟨name, value⟩ _
  dsimp only
  split
  · exact hg
  · exact hg.setAttr e _ _

theorem tame_copyText (h : Tame F f) (debug : Bool) (n : NodeId) :
    Tame F (copyText f debug n).2 ∧ (copyText f debug n).1.index < (copyText f debug n).2.nodes.size ∧
      F.nodes.size ≤ (copyText f debug n).1.index :=
  ⟨h.add rfl, h.add_fresh _⟩

theorem tame_mergeTexts (h : Tame F f) (e source : NodeId) (debug : Bool) :
    Tame F (mergeTexts f e source debug) := by
  unfold mergeTexts
  dsimp only
  refine List.foldlRecOn (motive := fun acc : Forest × Option NodeId => Tame F acc.1) _ _ ?_ ?_
  · -- the texts of the element, replaced one by one or taken out
    refine List.foldlRecOn
      (motive := fun acc : Forest × List NodeId × Option NodeId => Tame F acc.1) _ _ h ?_
    intro acc hacc target _
    obtain ⟨g, rest, last⟩ := acc
    dsimp only [replaceTextStep]
    split
    · exact hacc
    · rcases rest with _ | ⟨s, rest'⟩
      · exact hacc.detach target
      · obtain ⟨hc, hv, hfresh⟩ := tame_copyText hacc debug s
        exact (hc.insertBefore target hv (Or.inl hfresh)).detach target
  · -- the texts of the source left over, after the last one placed
    intro acc hacc s _
    obtain ⟨g, last⟩ := acc
    obtain ⟨hc, hv, hfresh⟩ := tame_copyText hacc debug s
    dsimp only [appendTextStep]
    split
    · exact hc.insertAfter _ hv (Or.inl hfresh)
    · exact hc.appendChild e hv (Or.inl hfresh)

theorem tame_replaceInner (h : Tame F f) (e source : NodeId) :
    Tame F (replaceInner f e source).1 := by
  unfold replaceInner
  dsimp only
  split
  · exact h.clear e
  · rename_i doc g hp
    have hg := (h.clear e).parseDocument hp
    refine hg.trans (List.foldlRecOn (motive := fun g' => Tame g g') _ _ (Tame.refl hg.linked) ?_)
    intro g' hg' c hc
    have hpc := hg.linked doc c hc
    exact hg'.appendChild e (lt_of_lt_of_le (index_lt_of_parent? hpc) hg'.grows)
      (Or.inr (by rw [hpc]; simp))

theorem tame_renderTree (h : Tame F f) (r : RenderRequest) : Tame F (renderTree f r).2 := by
  unfold renderTree
  split
  · rename_i source _
    split
    · exact h
    · dsimp only
      have h₁ : Tame F (if f.isElement source then mergeAttributes f r.element source else f) := by
        split
        · exact tame_mergeAttributes h _ _
        · exact h
      generalize (if f.isElement source then mergeAttributes f r.element source else f) = f₁ at h₁ ⊢
      have h₂ : Tame F (if r.options.contains "inner" then replaceInner f₁ r.element source
          else if !flag (f₁.attr? r.element excludeTextsName) false then
            (mergeTexts f₁ r.element source r.debug, none)
          else (f₁, none)).1 := by
        split
        · exact tame_replaceInner h₁ _ _
        · split
          · exact tame_mergeTexts h₁ _ _ _
          · exact h₁
      generalize (if r.options.contains "inner" then replaceInner f₁ r.element source
          else if !flag (f₁.attr? r.element excludeTextsName) false then
            (mergeTexts f₁ r.element source r.debug, none)
          else (f₁, none)) = res at h₂ ⊢
      split
      · exact h₂
      · split
        · exact (h₂.newString _ _).insertChild _ 0 (h₂.add_fresh _).1 (Or.inl (h₂.add_fresh _).2)
        · exact h₂
  · exact h

/-- A renderer that edits tamely: on a linked forest it gives no node without a parent a parent,
and takes no node away. What a renderer a configuration names may do is only known so far. -/
def Renderer.Tame (x : Renderer) : Prop :=
  ∀ (f : Forest) (r : RenderRequest), f.Linked → Forest.Tame f (x.run f r).2

theorem Renderer.Tame.run {x : Renderer} (hx : x.Tame) (h : Forest.Tame F f) (r : RenderRequest) :
    Forest.Tame F (x.run f r).2 :=
  h.trans (hx f r h.linked)

theorem tame_builtinRenderers : ∀ x ∈ builtinRenderers, x.Tame := by
  intro x hx f r hf
  simp only [builtinRenderers, List.mem_cons, List.not_mem_nil, or_false] at hx
  rcases hx with rfl | rfl | rfl | rfl | rfl | rfl
  · exact tame_renderDate (Tame.refl hf) r
  · exact tame_renderUrl (Tame.refl hf) r
  · exact tame_renderFormControl (Tame.refl hf) r
  · exact tame_renderImage (Tame.refl hf) r
  · exact tame_renderText (Tame.refl hf) r
  · exact tame_renderTree (Tame.refl hf) r

theorem tame_runChain_go (r : RenderRequest) :
    ∀ (rs : List Renderer), (∀ x ∈ rs, x.Tame) → ∀ (v : Value) (same : Bool) (f : Forest)
      (ps : List Problem), Tame F f → Tame F (runChain.go r rs v same f ps).2.1
  | [], _, v, _, _, _, h => by
    unfold runChain.go
    split <;> exact h
  | x :: rest, hrs, v, same, f, ps, h => by
    unfold runChain.go
    have hx := (hrs x List.mem_cons_self).run h { r with value := v }
    have hrest := tame_runChain_go r rest fun y hy => hrs y (List.mem_cons_of_mem x hy)
    rcases hrun : x.run f { r with value := v } with ⟨reply, f'⟩
    rw [hrun] at hx
    cases reply with
    | replace w => cases w <;> exact hrest _ _ _ _ hx
    | stop => exact hx
    | _ => exact hrest _ _ _ _ hx

theorem tame_runChain (h : Tame F f) {rs : List Renderer} (hrs : ∀ x ∈ rs, x.Tame)
    (r : RenderRequest) : Tame F (runChain f rs r).2.1 :=
  tame_runChain_go r rs hrs r.value true f [] h

end

end Stencil.Template

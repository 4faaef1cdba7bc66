import Mathlib
import Stencil.Proofs.Markup.Links
import Stencil.Template.Table
/-!
# Sound bookkeeping

The node table of a rendering agrees with its forest (`NodeTable.Sound`): templates are detached
nodes of the forest, every cloned element is a template, and each has one placeholder. The edits
of the table keep this (`NodeTable.Tidy`): the forest is edited tamely, templates stay templates,
and a placeholder either stays in the table or is taken out of its document when it leaves it.
Only the first clone of an element adds a placeholder, and it stands for that element.

* `NodeTable.Sound` : the table agrees with the forest.
* `NodeTable.Step`, `NodeTable.Tidy` : an edit of table and forest that keeps the bookkeeping.
* `NodeTable.tidy_clone`, `NodeTable.tidy_cloneAfter`, `NodeTable.tidy_remove`,
  `NodeTable.tidy_wrapTexts` : the edits of the table.
-/

namespace Stencil.Template

open Stencil.Markup Forest

namespace NodeTable

/-- The table agrees with the forest: the forest is linked, templates are detached nodes of it,
every cloned element is a template, placeholders are nodes of it, and no element has two. -/
structure Sound (t : NodeTable) (f : Forest) : Prop where
  linked : f.Linked
  template_detached : ∀ e ∈ t.templates, f.parent? e = none
  template_lt : ∀ e ∈ t.templates, e.index < f.nodes.size
  cloned_template : ∀ e p, (e, p) ∈ t.placeholders → e ∈ t.templates
  placeholder_lt : ∀ e p, (e, p) ∈ t.placeholders → p.index < f.nodes.size
  keys_nodup : (t.placeholders.map Prod.fst).Nodup

/-- From table `t` over `f` to `t'` over `f'`: the forest is edited tamely, templates stay
templates, a placeholder stays in the table or is detached, and a new placeholder stands for an
element that `A` allows. -/
structure Step (A : NodeId → Prop) (t : NodeTable) (f : Forest) (t' : NodeTable) (f' : Forest) :
    Prop where
  tame : Tame f f'
  templates : ∀ e ∈ t.templates, e ∈ t'.templates
  kept : ∀ e p, (e, p) ∈ t.placeholders → (e, p) ∈ t'.placeholders ∨ f'.parent? p = none
  fresh : ∀ e p, (e, p) ∈ t'.placeholders → (e, p) ∈ t.placeholders ∨ A e

/-- An edit of table and forest that keeps sound bookkeeping sound, with a `Step`. -/
def Tidy (A : NodeId → Prop) (t : NodeTable) (f : Forest) (t' : NodeTable) (f' : Forest) : Prop :=
  Sound t f → Sound t' f' ∧ Step A t f t' f'

section Tidy

variable {A : NodeId → Prop} {t t' t'' : NodeTable} {f f' f'' : Forest}

theorem sound_empty {f : Forest} (hf : f.Linked) : Sound empty f :=
  ⟨hf, by simp [empty], by simp [empty], by simp [empty], by simp [empty], by simp [empty]⟩

theorem Tidy.refl (A : NodeId → Prop) (t : NodeTable) (f : Forest) : Tidy A t f t f :=
  fun hs => ⟨hs, Tame.refl hs.linked, fun _ he => he, fun _ _ h => Or.inl h, fun _ _ h => Or.inl h⟩

theorem Tidy.trans (h₁ : Tidy A t f t' f') (h₂ : Tidy A t' f' t'' f'') : Tidy A t f t'' f'' := by
  intro hs
  obtain ⟨hs', st₁⟩ := h₁ hs
  obtain ⟨hs'', st₂⟩ := h₂ hs'
  refine ⟨hs'', st₁.tame.trans st₂.tame, fun e he => st₂.templates e (st₁.templates e he),
    fun e p hp => ?_, fun e p hp => ?_⟩
  · rcases st₁.kept e p hp with hp' | hp'
    · exact st₂.kept e p hp'
    · -- a placeholder detached stays detached: it was a node of the forest already
      exact Or.inr (st₂.tame.keeps p (lt_of_lt_of_le (hs.placeholder_lt e p hp) st₁.tame.grows) hp')
  · rcases st₂.fresh e p hp with hp' | hp'
    · exact st₁.fresh e p hp'
    · exact Or.inr hp'

theorem Tidy.mono {B : NodeId → Prop} (hAB : ∀ e, A e → B e) (h : Tidy A t f t' f') :
    Tidy B t f t' f' := by
  intro hs
  obtain ⟨hs', st⟩ := h hs
  exact ⟨hs', st.tame, st.templates, st.kept, fun e p hp => (st.fresh e p hp).imp_right (hAB e)⟩

theorem tidy_of_tame (hpl : t'.placeholders = t.placeholders) (htm : t'.templates = t.templates)
    (hg : f.Linked → Tame f f') : Tidy A t f t' f' := by
  intro hs
  have hg := hg hs.linked
  refine ⟨⟨hg.linked, fun e he => ?_, fun e he => ?_, fun e p hp => ?_, fun e p hp => ?_, ?_⟩,
    hg, fun e he => htm ▸ he, fun e p hp => Or.inl (hpl ▸ hp), fun e p hp => Or.inl (hpl ▸ hp)⟩
  · rw [htm] at he
    exact hg.keeps e (hs.template_lt e he) (hs.template_detached e he)
  · rw [htm] at he
    exact lt_of_lt_of_le (hs.template_lt e he) hg.grows
  · rw [hpl] at hp
    rw [htm]
    exact hs.cloned_template e p hp
  · rw [hpl] at hp
    exact lt_of_lt_of_le (hs.placeholder_lt e p hp) hg.grows
  · rw [hpl]
    exact hs.keys_nodup

end Tidy

/-! ## The edits of the table -/

theorem tidy_report (A : NodeId → Prop) (t : NodeTable) (f : Forest) (e : NodeId) (m : String) :
    Tidy A t f (t.report f e m) f :=
  tidy_of_tame rfl rfl Tame.refl

theorem markTemplate_of_mem {t : NodeTable} {e : NodeId} (he : e ∈ t.templates) :
    t.markTemplate e = t := by
  simp [markTemplate, isTemplate, he]

theorem placeholders_markTemplate (t : NodeTable) (e : NodeId) :
    (t.markTemplate e).placeholders = t.placeholders := by
  unfold markTemplate
  split <;> rfl

theorem mem_templates_markTemplate {t : NodeTable} {e x : NodeId} :
    x ∈ (t.markTemplate e).templates ↔ x ∈ t.templates ∨ x = e := by
  unfold markTemplate
  split
  · rename_i h
    simp only [isTemplate, List.contains_iff_mem] at h
    constructor
    · exact Or.inl
    · rintro (hx | rfl)
      · exact hx
      · exact h
  · simp

theorem mem_of_placeholder? {t : NodeTable} {e p : NodeId} (h : t.placeholder? e = some p) :
    (e, p) ∈ t.placeholders := by
  obtain ⟨l₁, l₂, hl, -⟩ := List.lookup_eq_some_iff.mp h
  rw [hl]
  simp

theorem not_mem_of_placeholder? {t : NodeTable} {e : NodeId} (h : t.placeholder? e = none)
    (p : NodeId) : (e, p) ∉ t.placeholders := by
  intro hp
  have := List.lookup_eq_none_iff.mp h _ hp
  simp at this

theorem tidy_record {t : NodeTable} {f g : Forest} {e p : NodeId} (hpl : t.placeholder? e = none)
    (hg : f.Linked → Tame f g ∧ g.parent? e = none ∧ e.index < g.nodes.size ∧
      p.index < g.nodes.size) :
    Tidy (· = e) t f ({ t with placeholders := t.placeholders ++ [(e, p)] }.markTemplate e) g := by
  intro hs
  obtain ⟨hg, he, hev, hpv⟩ := hg hs.linked
  refine ⟨⟨hg.linked, fun x hx => ?_, fun x hx => ?_, fun x y hxy => ?_, fun x y hxy => ?_, ?_⟩,
    hg, fun x hx => mem_templates_markTemplate.mpr (Or.inl hx), fun x y hxy => ?_,
    fun x y hxy => ?_⟩
  · rcases mem_templates_markTemplate.mp hx with hx | rfl
    · exact hg.keeps x (hs.template_lt x hx) (hs.template_detached x hx)
    · exact he
  · rcases mem_templates_markTemplate.mp hx with hx | rfl
    · exact lt_of_lt_of_le (hs.template_lt x hx) hg.grows
    · exact hev
  · rw [placeholders_markTemplate, List.mem_append, List.mem_singleton] at hxy
    rcases hxy with hxy | hxy
    · exact mem_templates_markTemplate.mpr (Or.inl (hs.cloned_template x y hxy))
    · exact mem_templates_markTemplate.mpr (Or.inr (Prod.mk.inj hxy).1)
  · rw [placeholders_markTemplate, List.mem_append, List.mem_singleton] at hxy
    rcases hxy with hxy | hxy
    · exact lt_of_lt_of_le (hs.placeholder_lt x y hxy) hg.grows
    · rw [(Prod.mk.inj hxy).2]
      exact hpv
  · rw [placeholders_markTemplate, List.map_append, List.nodup_append]
    refine ⟨hs.keys_nodup, List.nodup_singleton _, ?_⟩
    intro a ha b hb hab
    obtain ⟨⟨x, y⟩, hy, rfl⟩ := List.mem_map.mp ha
    have hx : x = e := hab.trans (List.mem_singleton.mp hb)
    rw [hx] at hy
    exact not_mem_of_placeholder? hpl y hy
  · rw [placeholders_markTemplate]
    exact Or.inl (List.mem_append_left _ hxy)
  · rw [placeholders_markTemplate, List.mem_append, List.mem_singleton] at hxy
    rcases hxy with hxy | hxy
    · exact Or.inl hxy
    · exact Or.inr (Prod.mk.inj hxy).1

theorem parent?_first_clone {f : Forest} {e q : NodeId} (hq : f.parent? e = some q) (name : String)
    (attrs : List (String × String)) :
    (((f.newElement e name attrs).2.insertBefore e (f.newElement e name attrs).1).detach e).parent?
      (f.newElement e name attrs).1 = some q := by
  have hev := index_lt_of_parent? hq
  have hne : (f.newElement e name attrs).1 ≠ e := fun h => by
    have hi : (f.newElement e name attrs).1.index = f.nodes.size := rfl
    rw [h] at hi
    omega
  rw [parent?_detach_of_ne _ hne]
  exact parent?_insertBefore_self ((parent?_add_of_lt f _ hev).trans hq)
    (by simp [Forest.newElement, Forest.add])

theorem tame_first_clone {f : Forest} (hf : f.Linked) (e : NodeId) (name : String)
    (attrs : List (String × String)) :
    Tame f (((f.newElement e name attrs).2.insertBefore e (f.newElement e name attrs).1).detach e) :=
  have hfresh := (Tame.refl hf).add_fresh
    ⟨.element name attrs (f.isDocument (f.top e)), none, #[]⟩
  (((Tame.refl hf).newElement e name attrs).insertBefore e hfresh.1 (Or.inl hfresh.2)).detach e

theorem tidy_clone (t : NodeTable) (f : Forest) (e : NodeId) :
    Tidy (· = e) t f (t.clone f e).2.1 (t.clone f e).2.2 := by
  unfold clone
  rcases hpl : t.placeholder? e with _ | p
  · by_cases hd : (f.parent? e).isNone
    · simp only [hd, if_true]
      exact tidy_report _ t f e _
    · -- the first clone: the placeholder takes the element's place
      obtain ⟨q, hq⟩ : ∃ q, f.parent? e = some q := by
        cases h : f.parent? e with
        | none => simp [h] at hd
        | some q => exact ⟨q, rfl⟩
      simp only [hd, Bool.false_eq_true, if_false]
      have hp := parent?_first_clone hq "span" [("data-tmp", placeholderMark)]
      rw [hp]
      simp only [Option.isNone_some, Bool.false_eq_true, if_false]
      refine tidy_record hpl fun hf => ?_
      have h₁ := tame_first_clone hf e "span" [("data-tmp", placeholderMark)]
      have hc := (Tame.refl h₁.linked).copyTree_fresh e
      have h₂ := ((Tame.refl h₁.linked).copyTree e).insertBefore
        (f.newElement e "span" [("data-tmp", placeholderMark)]).1 hc.1 (Or.inl hc.2)
      have hev := lt_of_lt_of_le (index_lt_of_parent? hq) h₁.grows
      exact ⟨h₁.trans h₂, h₂.keeps e hev (parent?_detach_self _ e), lt_of_lt_of_le hev h₂.grows,
        lt_of_lt_of_le (index_lt_of_parent? hp) h₂.grows⟩
  · -- a later clone: the element is a template already
    simp only
    split
    · exact tidy_report _ t f e _
    · intro hs
      rw [markTemplate_of_mem (hs.cloned_template e p (mem_of_placeholder? hpl))]
      refine tidy_of_tame rfl rfl (fun hf => ?_) hs
      have hc := (Tame.refl hf).copyTree_fresh e
      exact ((Tame.refl hf).copyTree e).insertBefore p hc.1 (Or.inl hc.2)

theorem clone_table (t : NodeTable) (f : Forest) (e : NodeId) :
    ((t.clone f e).1 = none ∧ (t.clone f e).2.1.placeholders = t.placeholders ∧
        (t.clone f e).2.1.templates = t.templates) ∨
      ((t.clone f e).1.isSome ∧ ∀ x, x ∈ (t.clone f e).2.1.templates ↔ x ∈ t.templates ∨ x = e) := by
  unfold clone
  rcases hpl : t.placeholder? e with _ | p
  · by_cases hd : (f.parent? e).isNone
    · rw [if_pos hd]
      exact Or.inl ⟨rfl, rfl, rfl⟩
    · obtain ⟨q, hq⟩ : ∃ q, f.parent? e = some q := by
        cases h : f.parent? e with
        | none => simp [h] at hd
        | some q => exact ⟨q, rfl⟩
      simp only [hd, Bool.false_eq_true, if_false]
      rw [parent?_first_clone hq]
      simp only [Option.isNone_some, Bool.false_eq_true, if_false, Option.isSome_some, true_and]
      exact Or.inr fun x => mem_templates_markTemplate
  · simp only
    split
    · exact Or.inl ⟨rfl, rfl, rfl⟩
    · simp only [Option.isSome_some, true_and]
      exact Or.inr fun x => mem_templates_markTemplate

theorem templates_clone {t : NodeTable} {f : Forest} {e x : NodeId} (hx : x ∈ t.templates) :
    x ∈ (t.clone f e).2.1.templates := by
  rcases clone_table t f e with ⟨-, -, h⟩ | ⟨-, h⟩
  · rwa [h]
  · exact (h x).mpr (Or.inl hx)

theorem placeholders_clone_of_none {t : NodeTable} {f : Forest} {e : NodeId}
    (hc : (t.clone f e).1 = none) : (t.clone f e).2.1.placeholders = t.placeholders := by
  rcases clone_table t f e with ⟨-, h, -⟩ | ⟨h, -⟩
  · exact h
  · rw [hc] at h
    cases h

theorem template_clone_of_some {t : NodeTable} {f : Forest} {e c : NodeId}
    (hc : (t.clone f e).1 = some c) : e ∈ (t.clone f e).2.1.templates := by
  rcases clone_table t f e with ⟨h, -, -⟩ | ⟨-, h⟩
  · rw [hc] at h
    cases h
  · exact (h e).mpr (Or.inr rfl)

theorem templates_cloneAfter {t : NodeTable} {f : Forest} {e x : NodeId} (ref : NodeId)
    (hx : x ∈ t.templates) : x ∈ (t.cloneAfter f e ref).2.1.templates := by
  unfold cloneAfter
  split
  · exact hx
  · exact mem_templates_markTemplate.mpr (Or.inl hx)

theorem templates_remove (t : NodeTable) (f : Forest) (e : NodeId) :
    (t.remove f e).1.templates = t.templates := by
  unfold remove
  split <;> rfl

theorem tidy_cloneAfter (A : NodeId → Prop) (t : NodeTable) (f : Forest) {e : NodeId}
    (ref : NodeId) (he : e ∈ t.templates) :
    Tidy A t f (t.cloneAfter f e ref).2.1 (t.cloneAfter f e ref).2.2 := by
  unfold cloneAfter
  split
  · exact tidy_report _ t f e _
  · dsimp only
    rw [markTemplate_of_mem he]
    refine tidy_of_tame rfl rfl fun hf => ?_
    have hc := (Tame.refl hf).copyTree_fresh e
    exact ((Tame.refl hf).copyTree e).insertAfter ref hc.1 (Or.inl hc.2)

theorem eq_of_placeholder? {t : NodeTable} (hnd : (t.placeholders.map Prod.fst).Nodup)
    {e p y : NodeId} (hl : t.placeholder? e = some p) (hy : (e, y) ∈ t.placeholders) : y = p := by
  obtain ⟨l₁, l₂, hpl, hl₁⟩ := List.lookup_eq_some_iff.mp hl
  rw [hpl] at hy hnd
  rcases List.mem_append.mp hy with hy | hy
  · have := hl₁ _ hy
    simp at this
  · rcases List.mem_cons.mp hy with hy | hy
    · exact (Prod.mk.inj hy).2
    · rw [List.map_append, List.map_cons, List.nodup_append, List.nodup_cons] at hnd
      exact absurd (List.mem_map_of_mem (f := Prod.fst) hy) hnd.2.1.1

theorem placeholders_remove {t : NodeTable} {f : Forest} {e x y : NodeId}
    (h : (x, y) ∈ (t.remove f e).1.placeholders) : (x, y) ∈ t.placeholders ∧ x ≠ e := by
  unfold remove at h
  split at h
  · obtain ⟨hxy, hx⟩ := List.mem_filter.mp h
    exact ⟨hxy, by simpa using hx⟩
  · rename_i hl
    refine ⟨h, fun hx => ?_⟩
    rw [hx] at h
    exact not_mem_of_placeholder? hl y h

theorem tidy_remove (A : NodeId → Prop) (t : NodeTable) (f : Forest) (e : NodeId) :
    Tidy A t f (t.remove f e).1 (t.remove f e).2 := by
  unfold remove
  split
  · rename_i p hp
    intro hs
    have hg : Tame f ((f.detach p).detach e) := ((Tame.refl hs.linked).detach p).detach e
    have hsub : ∀ x y, (x, y) ∈ t.placeholders.filter (·.1 != e) → (x, y) ∈ t.placeholders :=
      fun x y h => (List.mem_filter.mp h).1
    refine ⟨⟨hg.linked, fun x hx => hg.keeps x (hs.template_lt x hx) (hs.template_detached x hx),
      fun x hx => lt_of_lt_of_le (hs.template_lt x hx) hg.grows,
      fun x y hxy => hs.cloned_template x y (hsub x y hxy),
      fun x y hxy => lt_of_lt_of_le (hs.placeholder_lt x y (hsub x y hxy)) hg.grows,
      hs.keys_nodup.sublist (List.filter_sublist.map _)⟩, hg, fun x hx => hx,
      fun x y hxy => ?_, fun x y hxy => Or.inl (hsub x y hxy)⟩
    by_cases hx : x = e
    · -- the placeholder of the element is taken out with it
      subst hx
      rw [eq_of_placeholder? hs.keys_nodup hp hxy]
      right
      by_cases hpe : p = x
      · rw [hpe, parent?_detach_self]
      · rw [parent?_detach_of_ne _ hpe, parent?_detach_self]
    · exact Or.inl (List.mem_filter.mpr ⟨hxy, by simpa using hx⟩)
  · exact tidy_of_tame rfl rfl fun hf => (Tame.refl hf).detach e

theorem placeholders_markTextsDone (t : NodeTable) (n : NodeId) :
    (t.markTextsDone n).placeholders = t.placeholders ∧ (t.markTextsDone n).templates = t.templates := by
  unfold markTextsDone
  split <;> exact ⟨rfl, rfl⟩

theorem wrapWithin_table :
    ∀ (fuel : Nat) (f : Forest) (t : NodeTable) (n : NodeId),
      (wrapWithin f t fuel n).2.1.placeholders = t.placeholders ∧
        (wrapWithin f t fuel n).2.1.templates = t.templates
  | 0, _, _, _ => ⟨rfl, rfl⟩
  | fuel + 1, f, t, n => by
    unfold wrapWithin
    have hm := placeholders_markTextsDone t n
    split
    · exact ⟨rfl, rfl⟩
    · dsimp only
      split
      · split
        · exact hm
        · have hm' := placeholders_markTextsDone (t.markTextsDone n)
            (f.newElement n "span" [("class", "text"), ("data-tmp", textSpanMark)]).1
          exact ⟨hm'.1.trans hm.1, hm'.2.trans hm.2⟩
      · refine List.foldlRecOn
          (motive := fun acc : NodeTable × Forest => acc.1.placeholders = t.placeholders ∧
            acc.1.templates = t.templates) _ _ hm ?_
        intro acc hacc c _
        obtain ⟨h₁, h₂⟩ := wrapWithin_table fuel acc.2 acc.1 c
        exact ⟨h₁.trans hacc.1, h₂.trans hacc.2⟩

theorem wrapWithin_tame {F : Forest} :
    ∀ (fuel : Nat) (f : Forest) (t : NodeTable) (n : NodeId), Tame F f →
      Tame F (wrapWithin f t fuel n).2.2
  | 0, _, _, _, h => h
  | fuel + 1, f, t, n, h => by
    unfold wrapWithin
    split
    · exact h
    · dsimp only
      split
      · split
        · exact h
        · rename_i hn
          have hs := h.add_fresh
            ⟨.element "span" [("class", "text"), ("data-tmp", textSpanMark)]
              (f.isDocument (f.top n)), none, #[]⟩
          have hb := (h.newElement n _ _).insertBefore n hs.1 (Or.inl hs.2)
          have hpn : f.parent? n ≠ none := fun h0 => hn (by simp [h0])
          obtain ⟨q, hq⟩ := Option.ne_none_iff_exists'.mp hpn
          have hnv := index_lt_of_parent? hq
          refine hb.appendChild _ ?_ (h.fresh_of_attached hpn)
          rw [size_insertBefore]
          simp only [Forest.newElement, Forest.add, Array.size_push]
          omega
      · refine List.foldlRecOn (motive := fun acc : NodeTable × Forest => Tame F acc.2) _ _ h ?_
        intro acc hacc c _
        exact wrapWithin_tame fuel acc.2 acc.1 c hacc

theorem tidy_wrapTexts (A : NodeId → Prop) (t : NodeTable) (f : Forest) (n : NodeId) :
    Tidy A t f (t.wrapTexts f n).2.1 (t.wrapTexts f n).2.2 :=
  tidy_of_tame (wrapWithin_table f.depthBound f t n).1 (wrapWithin_table f.depthBound f t n).2
    fun hf => wrapWithin_tame f.depthBound f t n (Tame.refl hf)

end NodeTable

end Stencil.Template

import Mathlib
import Stencil.Proofs.Markup.Shapes
import Stencil.Proofs.Template.Table
/-!
# Where the node table puts nodes

The calls on a node table (`TableCall`) move nodes in a few exact ways (`NodeTable.Answers`). The
first clone of an element puts a placeholder span in its place and takes it out, and every clone
puts a fresh copy of it right before its placeholder; a copy after a reference goes right after
it; removing an element takes out the element and its placeholder; a call that cannot be done
records a structural problem and changes nothing else. No call moves any other node.

Over any run of calls from an empty table on a well-formed forest (`NodeTable.Calls`), where a
copy after a reference is only asked of an element that a clone has copied, the templates are
exactly the elements that a clone has copied, and a placeholder stays where it was put until its
element is removed or a call takes the placeholder itself (`NodeTable.calls_keep_placement`).
Such a call does take it out (`NodeTable.remove_placeholder_detaches`).
-/

namespace Stencil.Template

open Stencil.Markup Forest

/-- A call on the node table. -/
inductive TableCall where
  | clone (e : NodeId)
  | cloneAfter (e ref : NodeId)
  | remove (e : NodeId)
  | isTemplate (e : NodeId)
  | placeholder (e : NodeId)

/-- A call that a run with history `h` may make: a copy after a reference only of an element that
some clone has copied. -/
def TableCall.Allowed (h : List (TableCall × Option NodeId)) : TableCall → Prop
  | .cloneAfter e _ => ∃ c, (TableCall.clone e, some c) ∈ h
  | _ => True

namespace NodeTable

/-- A call on table `t` over forest `f`: the copy it made, if any, with the table and the forest
after it. Asking whether a node is a template, or for its placeholder, changes nothing. -/
def call (t : NodeTable) (f : Forest) : TableCall → Option NodeId × NodeTable × Forest
  | .clone e => t.clone f e
  | .cloneAfter e ref => t.cloneAfter f e ref
  | .remove e => (none, t.remove f e)
  | .isTemplate _ | .placeholder _ => (none, t, f)

/-- The runs of calls on a table that starts empty over `f₀`: the calls made, each with its
answer, lead to table `t` over forest `f`. -/
inductive Calls (f₀ : Forest) : List (TableCall × Option NodeId) → NodeTable → Forest → Prop
  | start : Calls f₀ [] empty f₀
  | step {h : List (TableCall × Option NodeId)} {t : NodeTable} {f : Forest} (c : TableCall) :
      Calls f₀ h t f → c.Allowed h → Calls f₀ (h ++ [(c, (t.call f c).1)]) (t.call f c).2.1 (t.call f c).2.2

/-- `t'` is `t` with `e` made a template, and nothing else changed. -/
structure Marks (t t' : NodeTable) (e : NodeId) : Prop where
  placeholders : t'.placeholders = t.placeholders
  templates : ∀ x, t'.isTemplate x ↔ t.isTemplate x ∨ x = e
  textsDone : t'.textsDone = t.textsDone
  problems : t'.problems = t.problems

/-- `t'` is `t` with one more structural problem, `message` at the path of `e` in `f`, and nothing
else changed. -/
structure Reports (t t' : NodeTable) (f : Forest) (e : NodeId) (message : String) : Prop where
  placeholders : t'.placeholders = t.placeholders
  templates : t'.templates = t.templates
  textsDone : t'.textsDone = t.textsDone
  problems : t'.problems = t.problems.push ⟨.structural, message, some (f.nodePath e)⟩

/-- `p` in `f'` is a placeholder new to `f`: a childless `span` marked as a placeholder. -/
structure IsPlaceholder (f f' : Forest) (p : NodeId) : Prop where
  fresh : f.nodes.size ≤ p.index
  span : ∃ built, f'.kind p = .element "span" [("data-tmp", placeholderMark)] built
  childless : f'.children p = []

/-- What a call on the node table does. -/
inductive Answers (t : NodeTable) (f : Forest) :
    TableCall → Option NodeId × NodeTable × Forest → Prop
  /-- The first clone of an element with a parent `q`: a new placeholder span takes its place
  among the children of `q`, the element is taken out, and a fresh copy of it goes right before
  the placeholder. The element becomes a template with that placeholder. -/
  | cloneFirst {e q p c : NodeId} {l₁ l₂ : List NodeId} {t' : NodeTable} {f' : Forest} :
      t.placeholder? e = none → f.parent? e = some q → f.children q = l₁ ++ e :: l₂ →
      IsPlaceholder f f' p → CopyOf f e f' c →
      f.Edited f' (Function.update f.parent? e none)
        (Function.update f.children q (l₁ ++ c :: p :: l₂)) →
      f'.parent? p = some q → f'.parent? c = some q →
      Marks { t with placeholders := t.placeholders ++ [(e, p)] } t' e →
      Answers t f (.clone e) (some c, t', f')
  /-- A later clone of an element whose placeholder is among the children of `q`: a fresh copy
  of the element goes right before the placeholder. -/
  | cloneAgain {e p q c : NodeId} {l₁ l₂ : List NodeId} {t' : NodeTable} {f' : Forest} :
      t.placeholder? e = some p → f.parent? p = some q → f.children q = l₁ ++ p :: l₂ →
      CopyOf f e f' c → f.Edited f' f.parent? (Function.update f.children q (l₁ ++ c :: p :: l₂)) →
      f'.parent? c = some q → Marks t t' e → Answers t f (.clone e) (some c, t', f')
  /-- A clone of an element with neither a placeholder nor a parent is refused. -/
  | cloneDetached {e : NodeId} {t' : NodeTable} : t.placeholder? e = none → f.parent? e = none →
      Reports t t' f e "Cannot clone a detached element" → Answers t f (.clone e) (none, t', f)
  /-- A clone of an element whose placeholder has no parent is refused. -/
  | clonePlaceholderDetached {e p : NodeId} {t' : NodeTable} : t.placeholder? e = some p →
      f.parent? p = none → Reports t t' f e "Placeholder of a cloned element is detached" →
      Answers t f (.clone e) (none, t', f)
  /-- A copy after a reference among the children of `q`: a fresh copy of the element goes right
  after the reference. -/
  | cloneAfter {e r q c : NodeId} {l₁ l₂ : List NodeId} {t' : NodeTable} {f' : Forest} :
      f.parent? r = some q → f.children q = l₁ ++ r :: l₂ → CopyOf f e f' c →
      f.Edited f' f.parent? (Function.update f.children q (l₁ ++ r :: c :: l₂)) →
      f'.parent? c = some q → Marks t t' e → Answers t f (.cloneAfter e r) (some c, t', f')
  /-- A copy after a reference with no parent is refused. -/
  | cloneAfterDetached {e r : NodeId} {t' : NodeTable} : f.parent? r = none →
      Reports t t' f e "Cannot insert a copy after a detached element" →
      Answers t f (.cloneAfter e r) (none, t', f)
  /-- Removing an element with a placeholder takes out both, and forgets the placeholder. -/
  | removeWithPlaceholder {e p : NodeId} {f' : Forest} : t.placeholder? e = some p →
      f.Edited f' (Function.update (Function.update f.parent? e none) p none)
        (fun x => (f.children x).filter fun y => y ≠ e ∧ y ≠ p) →
      f'.nodes.size = f.nodes.size →
      Answers t f (.remove e) (none, { t with placeholders := t.placeholders.filter (·.1 ≠ e) }, f')
  /-- Removing an element without a placeholder takes it out. -/
  | removeAlone {e : NodeId} {f' : Forest} : t.placeholder? e = none →
      f.Edited f' (Function.update f.parent? e none) (fun x => (f.children x).filter (· ≠ e)) →
      f'.nodes.size = f.nodes.size → Answers t f (.remove e) (none, t, f')
  | isTemplate {e : NodeId} : Answers t f (.isTemplate e) (none, t, f)
  | placeholder {e : NodeId} : Answers t f (.placeholder e) (none, t, f)

theorem reports_report (t : NodeTable) (f : Forest) (e : NodeId) (message : String) :
    Reports t (t.report f e message) f e message :=
  ⟨rfl, rfl, rfl, rfl⟩

theorem marks_markTemplate (t : NodeTable) (e : NodeId) : Marks t (t.markTemplate e) e :=
  ⟨placeholders_markTemplate t e, fun x => by simp [isTemplate, mem_templates_markTemplate],
    by unfold markTemplate; split <;> rfl, by unfold markTemplate; split <;> rfl⟩

/-! ## The edits of a call -/

section Edits

variable {f : Forest}

theorem put_placeholder (hf : f.WellFormed) {e q p : NodeId} {l₁ l₂ : List NodeId} {f₁ g : Forest}
    (hq : f.parent? e = some q) (hl : f.children q = l₁ ++ e :: l₂) (he₁ : e ∉ l₁) (he₂ : e ∉ l₂)
    {name : String} {attrs : List (String × String)} (hnew : f.newElement e name attrs = (p, f₁))
    (hg : g = (f₁.insertBefore e p).detach e) :
    g.WellFormed ∧ g.nodes.size = f.nodes.size + 1 ∧
      f.Edited g (Function.update f.parent? e none) (Function.update f.children q (l₁ ++ p :: l₂)) ∧
      g.kind p = .element name attrs (f.isDocument (f.top e)) ∧ g.children p = [] ∧
      g.parent? p = some q ∧ p = ⟨f.nodes.size⟩ := by
  have hnew' := hnew.symm
  rw [Forest.newElement] at hnew'
  obtain ⟨rfl, rfl⟩ := Prod.ext_iff.mp hnew'
  have hf₁ : (f.add ⟨.element name attrs (f.isDocument (f.top e)), none, #[]⟩).2.WellFormed :=
    hf.add rfl rfl
  have hext := extends_add f ⟨.element name attrs (f.isDocument (f.top e)), none, #[]⟩
  have hget := get_add_self f ⟨.element name attrs (f.isDocument (f.top e)), none, #[]⟩
  have hev : e.index < f.nodes.size := index_lt_of_parent? hq
  have hqv : q.index < f.nodes.size := hf.parent_lt hq
  set F := f.add ⟨.element name attrs (f.isDocument (f.top e)), none, #[]⟩
  have hpi : F.1.index = f.nodes.size := rfl
  have hp₁ : F.2.parent? F.1 = none := by rw [parent?, hget]
  have hpv : F.1.index < F.2.nodes.size := by rw [hpi, size_add]; omega
  have hpq : F.1 ≠ q := fun h => by rw [← h, hpi] at hqv; omega
  have hpe : F.1 ≠ e := fun h => by rw [← h, hpi] at hev; omega
  have hq₁ : F.2.parent? e = some q := by rw [parent?_add_of_lt f _ hev, hq]
  have hl₁ : F.2.children q = l₁ ++ e :: l₂ := by
    rw [children, hext.2 q hqv, ← children, hl]
  have hchild₂ := children_insertBefore hf₁ hq₁ hl₁ he₁ hp₁ hpq
  have hpar₂ := parent?_insertBefore hq₁ hp₁ hpv
  have hf₂ := hf₁.insertBefore hq₁ hp₁ hpv (by rw [hpi]; exact hqv)
  have hq₂ : (F.2.insertBefore e F.1).parent? e = some q := by
    rw [hpar₂, if_neg (Ne.symm hpe), hq₁]
  have hl₂ : (F.2.insertBefore e F.1).children q = (l₁ ++ [F.1]) ++ e :: l₂ := by
    rw [hchild₂, if_pos rfl]
    simp
  have hchild₃ := children_detach_split hq₂ hl₂ (by simpa [he₁] using Ne.symm hpe) he₂
  have hkind : ∀ x, ((F.2.insertBefore e F.1).detach e).kind x = F.2.kind x := fun x => by
    rw [kind_detach, kind_insertBefore]
  subst hg
  refine ⟨hf₂.detach e, by rw [size_detach, size_insertBefore, size_add], ⟨fun x hx => ?_,
    fun x hx => ?_, fun x hx => ?_⟩, ?_, ?_, ?_, rfl⟩
  · rw [hkind, kind, hext.2 x hx, ← kind]
  · have hxp : x ≠ F.1 := fun h => by rw [h, hpi] at hx; omega
    rw [Function.update_apply]
    split
    · rename_i hxe
      rw [hxe, parent?_detach_self]
    · rw [parent?_detach_of_ne _ ‹_›, hpar₂, if_neg hxp, parent?, hext.2 x hx, ← parent?]
  · rw [hchild₃, Function.update_apply]
    split
    · simp
    · rw [hchild₂, if_neg ‹_›, children, hext.2 x hx, ← children]
  · rw [hkind, kind, hget]
  · rw [hchild₃, if_neg hpq, hchild₂, if_neg hpq, children, hget]
  · rw [parent?_detach_of_ne _ hpe, hpar₂, if_pos rfl]

theorem copy_placed (hf : f.WellFormed) {e c q : NodeId} {g g' : Forest} {L : List NodeId}
    (hcopy : f.copyTree e = (c, g)) (hqv : q.index < f.nodes.size) (hg' : g'.WellFormed)
    (hsize : g'.nodes.size = g.nodes.size) (hkind : ∀ x, g'.kind x = g.kind x)
    (hpar : ∀ x, g'.parent? x = if x = c then some q else g.parent? x)
    (hchild : ∀ x, g'.children x = if x = q then L else g.children x) :
    CopyOf f e g' c ∧ f.Edited g' f.parent? (Function.update f.children q L) ∧
      g'.parent? c = some q := by
  have hc := hf.copied_copyTree hcopy
  have hcv : f.nodes.size ≤ c.index := by rw [hc.index]
  have hof : CopyOf f e g c := by
    have h := hf.copyOf_copyTree e
    rw [hcopy] at h
    exact h
  refine ⟨hof.edit hc.wf hg' hc.lt hsize.symm fun y hy _ => ⟨hkind y, ?_⟩, ⟨fun x hx => ?_,
    fun x hx => ?_, fun x hx => ?_⟩, by rw [hpar, if_pos rfl]⟩
  · rw [hchild, if_neg]
    rintro rfl
    omega
  · rw [hkind, kind, hc.ext.2 x hx, ← kind]
  · rw [hpar, if_neg (fun h => by rw [h] at hx; omega), parent?, hc.ext.2 x hx, ← parent?]
  · rw [hchild, Function.update_apply]
    split
    · rfl
    · rw [children, hc.ext.2 x hx, ← children]

theorem copy_before (hf : f.WellFormed) {e n q c : NodeId} {l₁ l₂ : List NodeId} {g : Forest}
    (hn : f.parent? n = some q) (hl : f.children q = l₁ ++ n :: l₂) (hn₁ : n ∉ l₁)
    (hcopy : f.copyTree e = (c, g)) :
    (g.insertBefore n c).WellFormed ∧ (g.insertBefore n c).nodes.size = g.nodes.size ∧
      CopyOf f e (g.insertBefore n c) c ∧
      f.Edited (g.insertBefore n c) f.parent? (Function.update f.children q (l₁ ++ c :: n :: l₂)) ∧
      (g.insertBefore n c).parent? c = some q := by
  have hc := hf.copied_copyTree hcopy
  have hqv := hf.parent_lt hn
  have hnv := index_lt_of_parent? hn
  have hng : g.parent? n = some q := by rw [parent?, hc.ext.2 n hnv, ← parent?, hn]
  have hlg : g.children q = l₁ ++ n :: l₂ := by rw [children, hc.ext.2 q hqv, ← children, hl]
  have hcq : c ≠ q := fun h => by rw [← h, hc.index] at hqv; simp at hqv
  have hqc : q.index < c.index := by rw [hc.index]; exact hqv
  have hwf := hc.wf.insertBefore hng hc.parent hc.lt hqc
  have hch := children_insertBefore hc.wf hng hlg hn₁ hc.parent hcq
  refine ⟨hwf, size_insertBefore g n c, copy_placed hf hcopy hqv hwf (size_insertBefore g n c)
    (kind_insertBefore g n c) (parent?_insertBefore hng hc.parent hc.lt) hch⟩

theorem copy_after (hf : f.WellFormed) {e r q c : NodeId} {l₁ l₂ : List NodeId} {g : Forest}
    (hr : f.parent? r = some q) (hl : f.children q = l₁ ++ r :: l₂) (hr₁ : r ∉ l₁)
    (hcopy : f.copyTree e = (c, g)) :
    (g.insertAfter r c).WellFormed ∧ (g.insertAfter r c).nodes.size = g.nodes.size ∧
      CopyOf f e (g.insertAfter r c) c ∧
      f.Edited (g.insertAfter r c) f.parent? (Function.update f.children q (l₁ ++ r :: c :: l₂)) ∧
      (g.insertAfter r c).parent? c = some q := by
  have hc := hf.copied_copyTree hcopy
  have hqv := hf.parent_lt hr
  have hrv := index_lt_of_parent? hr
  have hrg : g.parent? r = some q := by rw [parent?, hc.ext.2 r hrv, ← parent?, hr]
  have hlg : g.children q = l₁ ++ r :: l₂ := by rw [children, hc.ext.2 q hqv, ← children, hl]
  have hcq : c ≠ q := fun h => by rw [← h, hc.index] at hqv; simp at hqv
  have hqc : q.index < c.index := by rw [hc.index]; exact hqv
  have hwf := hc.wf.insertAfter hrg hc.parent hc.lt hqc
  have hch := children_insertAfter hc.wf hrg hlg hr₁ hc.parent hcq
  refine ⟨hwf, size_insertAfter g r c, copy_placed hf hcopy hqv hwf (size_insertAfter g r c)
    (kind_insertAfter g r c) (parent?_insertAfter hrg hc.parent hc.lt) hch⟩

end Edits

/-! ## What each call does -/

section Calls

variable {f : Forest}

theorem answers_clone (hf : f.WellFormed) (t : NodeTable) (e : NodeId) :
    Answers t f (.clone e) (t.clone f e) ∧ (t.clone f e).2.2.WellFormed := by
  unfold clone
  rcases hpl : t.placeholder? e with _ | p
  · rcases hq : f.parent? e with _ | q
    · exact ⟨.cloneDetached hpl hq (reports_report _ _ _ _), hf⟩
    · obtain ⟨l₁, l₂, hl, he₁, he₂⟩ := hf.split hq
      simp only [Option.isNone_some, Bool.false_eq_true, if_false]
      generalize hnew : f.newElement e "span" [("data-tmp", placeholderMark)] = P
      obtain ⟨p, f₁⟩ := P
      generalize hg : (f₁.insertBefore e p).detach e = g
      obtain ⟨hgw, hgs, hged, hpk, hpc, hpq, hpi⟩ := put_placeholder hf hq hl he₁ he₂ hnew hg.symm
      simp only [hpq, Option.isNone_some, Bool.false_eq_true, if_false]
      generalize hcp : g.copyTree e = C
      obtain ⟨c, f'⟩ := C
      have hqv := hf.parent_lt hq
      have hpg : p.index < g.nodes.size := by rw [hpi, hgs]; exact Nat.lt_succ_self _
      have hpq' : p ≠ q := fun h => by rw [← h, hpi] at hqv; simp at hqv
      have hlg : g.children q = l₁ ++ p :: l₂ := by
        rw [hged.children q hqv, Function.update_apply, if_pos rfl]
      have hp₁ : p ∉ l₁ := fun h => by
        have := hf.index_lt_of_mem_children (hl ▸ List.mem_append_left _ h)
        rw [hpi] at this
        simp at this
      obtain ⟨hw, -, hcopy, hed, hcq⟩ := copy_before hgw hpq hlg hp₁ hcp
      -- the copy is of `e` as it was: putting the placeholder changed nothing below `e`
      have hshape : g.shape e = f.shape e := hf.shape_eq (by omega) (index_lt_of_parent? hq)
        fun y hy hy' => ⟨hged.kind y hy', by
          rw [hged.children y hy', Function.update_apply, if_neg]
          rintro rfl
          have := hf.ordered e y hq
          omega⟩
      have hed' := hged.update_children (by omega) hed
      rw [Function.update_idem] at hed'
      refine ⟨.cloneFirst hpl hq hl
        ⟨by rw [hpi], ⟨_, by rw [hed.kind p hpg, hpk]⟩,
          by rw [hed.children p hpg, Function.update_apply, if_neg hpq', hpc]⟩
        (hcopy.of_shape_eq (by omega) hshape) hed' (by rw [hed.parent p hpg, hpq]) hcq
        (marks_markTemplate _ e), hw⟩
  · -- a later clone: the copy goes before the placeholder
    dsimp only
    rcases hq : f.parent? p with _ | q
    · exact ⟨.clonePlaceholderDetached hpl hq (reports_report _ _ _ _), hf⟩
    · obtain ⟨l₁, l₂, hl, hp₁, -⟩ := hf.split hq
      simp only [Option.isNone_some, Bool.false_eq_true, if_false]
      generalize hcp : f.copyTree e = C
      obtain ⟨c, f'⟩ := C
      obtain ⟨hw, -, hcopy, hed, hcq⟩ := copy_before hf hq hl hp₁ hcp
      exact ⟨.cloneAgain hpl hq hl hcopy hed hcq (marks_markTemplate t e), hw⟩

theorem answers_cloneAfter (hf : f.WellFormed) (t : NodeTable) (e r : NodeId) :
    Answers t f (.cloneAfter e r) (t.cloneAfter f e r) ∧ (t.cloneAfter f e r).2.2.WellFormed := by
  unfold cloneAfter
  rcases hr : f.parent? r with _ | q
  · exact ⟨.cloneAfterDetached hr (reports_report _ _ _ _), hf⟩
  · obtain ⟨l₁, l₂, hl, hr₁, -⟩ := hf.split hr
    simp only [Option.isNone_some, Bool.false_eq_true, if_false]
    generalize hcp : f.copyTree e = C
    obtain ⟨c, f'⟩ := C
    obtain ⟨hw, -, hcopy, hed, hcq⟩ := copy_after hf hr hl hr₁ hcp
    exact ⟨.cloneAfter hr hl hcopy hed hcq (marks_markTemplate t e), hw⟩

theorem answers_remove (hf : f.WellFormed) (t : NodeTable) (e : NodeId) :
    Answers t f (.remove e) (none, t.remove f e) ∧ (t.remove f e).2.WellFormed := by
  unfold remove
  rcases hpl : t.placeholder? e with _ | p
  · refine ⟨.removeAlone hpl ⟨fun x _ => kind_detach f e x, fun x _ => ?_,
      fun x _ => children_detach_eq_filter hf.linked e x⟩ (size_detach f e), hf.detach e⟩
    rw [Function.update_apply]
    split
    · rename_i hx
      rw [hx, parent?_detach_self]
    · exact parent?_detach_of_ne _ ‹_›
  · have hkeep : t.placeholders.filter (·.1 != e) = t.placeholders.filter (·.1 ≠ e) :=
      List.filter_congr fun x _ => by by_cases h : x.1 = e <;> simp [h]
    dsimp only
    rw [hkeep]
    refine ⟨.removeWithPlaceholder hpl ⟨fun x _ => by rw [kind_detach, kind_detach],
      fun x _ => ?_, fun x _ => ?_⟩ (by rw [size_detach, size_detach]), (hf.detach p).detach e⟩
    · rw [Function.update_apply, Function.update_apply]
      by_cases hxe : x = e
      · rw [hxe, parent?_detach_self, if_pos rfl]
        split <;> rfl
      · rw [parent?_detach_of_ne _ hxe, if_neg hxe]
        by_cases hxp : x = p
        · rw [hxp, parent?_detach_self, if_pos rfl]
        · rw [parent?_detach_of_ne _ hxp, if_neg hxp]
    · rw [children_detach_eq_filter (hf.detach p).linked, children_detach_eq_filter hf.linked,
        List.filter_filter]
      exact List.filter_congr fun y _ => by by_cases hye : y = e <;> by_cases hyp : y = p <;> simp [hye, hyp]

theorem answers_call (hf : f.WellFormed) (t : NodeTable) :
    ∀ c, Answers t f c (t.call f c) ∧ (t.call f c).2.2.WellFormed
  | .clone e => answers_clone hf t e
  | .cloneAfter e r => answers_cloneAfter hf t e r
  | .remove e => answers_remove hf t e
  | .isTemplate _ => ⟨.isTemplate, hf⟩
  | .placeholder _ => ⟨.placeholder, hf⟩

end Calls

/-! ## Runs of calls -/

section Runs

variable {f₀ f : Forest} {h : List (TableCall × Option NodeId)} {t : NodeTable}

theorem lookup_filter_ne {l : List (NodeId × NodeId)} {x e : NodeId} (h : e ≠ x) :
    (l.filter (·.1 ≠ x)).lookup e = l.lookup e := by
  induction l with
  | nil => rfl
  | cons a l ih =>
    obtain ⟨k, v⟩ := a
    by_cases hk : k = x
    · rw [List.filter_cons_of_neg (by simpa using hk), ih, List.lookup_cons,
        beq_false_of_ne (hk ▸ h)]
    · rw [List.filter_cons_of_pos (by simpa using hk), List.lookup_cons, List.lookup_cons, ih]

theorem eq_of_mem_placeholders {l : List (NodeId × NodeId)} (hd : (l.map Prod.snd).Nodup)
    {x y p : NodeId} (hx : (x, p) ∈ l) (hy : (y, p) ∈ l) : x = y :=
  (Prod.mk.inj (List.inj_on_of_nodup_map hd hx hy rfl)).1

theorem clones_append {x : NodeId} {c : TableCall} {o : Option NodeId} :
    (∃ d, (TableCall.clone x, some d) ∈ h ++ [(c, o)]) ↔
      (∃ d, (TableCall.clone x, some d) ∈ h) ∨ (c = .clone x ∧ o.isSome) := by
  constructor
  · rintro ⟨d, hd⟩
    rcases List.mem_append.mp hd with hd | hd
    · exact Or.inl ⟨d, hd⟩
    · obtain ⟨rfl, rfl⟩ := Prod.mk.inj (List.mem_singleton.mp hd)
      exact Or.inr ⟨rfl, rfl⟩
  · rintro (⟨d, hd⟩ | ⟨rfl, ho⟩)
    · exact ⟨d, List.mem_append_left _ hd⟩
    · obtain ⟨d, rfl⟩ := Option.isSome_iff_exists.mp ho
      exact ⟨d, List.mem_append_right _ (List.mem_singleton_self _)⟩

theorem Answers.grows {c : TableCall} {o : Option NodeId} {t' : NodeTable} {f' : Forest}
    (ha : Answers t f c (o, t', f')) : f.nodes.size ≤ f'.nodes.size := by
  cases ha with
  | cloneFirst _ _ _ hp _ _ hpq => exact le_of_lt (lt_of_le_of_lt hp.fresh (index_lt_of_parent? hpq))
  | cloneAgain _ _ _ hcopy _ hcq | cloneAfter _ _ hcopy _ hcq =>
    exact le_of_lt (lt_of_le_of_lt hcopy.fresh (index_lt_of_parent? hcq))
  | removeWithPlaceholder _ _ hsize | removeAlone _ _ hsize => exact hsize.ge
  | cloneDetached | clonePlaceholderDetached | cloneAfterDetached | isTemplate | placeholder =>
    exact le_refl _

theorem Answers.placeholders {c : TableCall} {o : Option NodeId} {t' : NodeTable} {f' : Forest}
    (ha : Answers t f c (o, t', f')) :
    t'.placeholders = t.placeholders ∨
      (∃ e p, t'.placeholders = t.placeholders ++ [(e, p)] ∧ f.nodes.size ≤ p.index ∧
        p.index < f'.nodes.size) ∨
      ∃ e, t'.placeholders = t.placeholders.filter (·.1 ≠ e) := by
  cases ha with
  | @cloneFirst e _ p _ _ _ _ _ _ _ _ hp _ _ hpq _ hm =>
    exact Or.inr (Or.inl ⟨e, p, hm.placeholders, hp.fresh, index_lt_of_parent? hpq⟩)
  | cloneAgain _ _ _ _ _ _ hm | cloneAfter _ _ _ _ _ hm => exact Or.inl hm.placeholders
  | cloneDetached _ _ hr | clonePlaceholderDetached _ _ hr | cloneAfterDetached _ hr =>
    exact Or.inl hr.placeholders
  | @removeWithPlaceholder e => exact Or.inr (Or.inr ⟨e, rfl⟩)
  | removeAlone | isTemplate | placeholder => exact Or.inl rfl

/-- What every run of calls keeps: the forest is well formed, the placeholders are distinct nodes
of it, and the templates are the elements that some clone has copied. -/
structure Placed (h : List (TableCall × Option NodeId)) (t : NodeTable) (f : Forest) : Prop where
  wf : f.WellFormed
  inForest : ∀ x p, (x, p) ∈ t.placeholders → p.index < f.nodes.size
  distinct : (t.placeholders.map Prod.snd).Nodup
  templates : ∀ x, t.isTemplate x ↔ ∃ c, (TableCall.clone x, some c) ∈ h

theorem Placed.step (hP : Placed h t f) {c : TableCall} (hc : c.Allowed h) :
    Placed (h ++ [(c, (t.call f c).1)]) (t.call f c).2.1 (t.call f c).2.2 := by
  obtain ⟨ha, hw⟩ := answers_call hP.wf t c
  generalize t.call f c = r at ha hw ⊢
  obtain ⟨o, t', f'⟩ := r
  have hgrow := ha.grows
  refine ⟨hw, ?_, ?_, fun x => ?_⟩
  · rcases ha.placeholders with hpl | ⟨e, p, hpl, -, hlt⟩ | ⟨e, hpl⟩ <;> intro x y hxy <;>
      rw [hpl] at hxy
    · exact lt_of_lt_of_le (hP.inForest x y hxy) hgrow
    · rcases List.mem_append.mp hxy with hxy | hxy
      · exact lt_of_lt_of_le (hP.inForest x y hxy) hgrow
      · rw [(Prod.mk.inj (List.mem_singleton.mp hxy)).2]
        exact hlt
    · exact lt_of_lt_of_le (hP.inForest x y (List.mem_of_mem_filter hxy)) hgrow
  · rcases ha.placeholders with hpl | ⟨e, p, hpl, hfresh, -⟩ | ⟨e, hpl⟩ <;> rw [hpl]
    · exact hP.distinct
    · -- the new placeholder is a node the forest did not have
      rw [List.map_append, List.nodup_append]
      refine ⟨hP.distinct, List.nodup_singleton _, fun a ha b hb => ?_⟩
      obtain ⟨⟨x, y⟩, hxy, rfl⟩ := List.mem_map.mp ha
      rw [List.map_singleton, List.mem_singleton] at hb
      intro hyp
      have hy : y = p := hyp.trans hb
      have := hP.inForest x y hxy
      rw [hy] at this
      omega
    · exact hP.distinct.sublist (List.filter_sublist.map _)
  · rw [clones_append, ← hP.templates]
    cases ha with
    | cloneFirst _ _ _ _ _ _ _ _ hm | cloneAgain _ _ _ _ _ _ hm =>
      rw [hm.templates]
      simp only [TableCall.clone.injEq, Option.isSome_some, and_true]
      exact or_congr_right eq_comm
    | @cloneAfter e _ _ _ _ _ _ _ _ _ _ _ _ hm =>
      rw [hm.templates]
      -- a copy after a reference is made of an element that some clone copied before
      obtain ⟨d, hd⟩ := hc
      have he : t.isTemplate e := (hP.templates e).mpr ⟨d, hd⟩
      constructor
      · rintro (hx | rfl)
        · exact Or.inl hx
        · exact Or.inl he
      · rintro (hx | ⟨hx, -⟩)
        · exact Or.inl hx
        · cases hx
    | cloneDetached _ _ hr | clonePlaceholderDetached _ _ hr | cloneAfterDetached _ hr =>
      rw [isTemplate, hr.templates, ← isTemplate]
      simp
    | removeWithPlaceholder | removeAlone | isTemplate | placeholder => simp [isTemplate]

theorem placed_of_calls (hf : f₀.WellFormed) (hr : Calls f₀ h t f) : Placed h t f := by
  induction hr with
  | start => exact ⟨hf, (fun _ _ h => nomatch h), List.nodup_nil, fun x => by simp [isTemplate, empty]⟩
  | step c _ hc ih => exact ih.step hc

theorem Placed.keeps_placeholder (hP : Placed h t f) {e p q : NodeId} (he : t.placeholder? e = some p)
    (hp : f.parent? p = some q) {c : TableCall} (h₁ : c ≠ .remove e) (h₂ : c ≠ .remove p)
    (h₃ : c ≠ .clone p) :
    (t.call f c).2.1.placeholder? e = some p ∧ (t.call f c).2.2.parent? p = some q := by
  obtain ⟨ha, -⟩ := answers_call hP.wf t c
  generalize t.call f c = r at ha ⊢
  have hpv := index_lt_of_parent? hp
  have he' : t.placeholders.lookup e = some p := he
  cases ha with
  | @cloneFirst x _ _ _ _ _ _ _ _ _ _ _ _ hed _ _ hm =>
    have hxp : p ≠ x := fun hpx => h₃ (by rw [hpx])
    refine ⟨?_, by rw [hed.parent p hpv, Function.update_apply, if_neg hxp, hp]⟩
    rw [placeholder?, hm.placeholders]
    exact (List.lookup_append.trans (by rw [he']; rfl))
  | cloneAgain _ _ _ _ hed _ hm | cloneAfter _ _ _ hed _ hm =>
    exact ⟨by rw [placeholder?, hm.placeholders]; exact he, by rw [hed.parent p hpv, hp]⟩
  | cloneDetached _ _ hr | clonePlaceholderDetached _ _ hr | cloneAfterDetached _ hr =>
    exact ⟨by rw [placeholder?, hr.placeholders]; exact he, hp⟩
  | @removeWithPlaceholder x p' _ hpl hed =>
    have hxe : e ≠ x := fun hex => h₁ (by rw [hex])
    have hxp : p ≠ x := fun hpx => h₂ (by rw [hpx])
    -- the placeholder taken out is that of `x`, which is not `p`: placeholders are distinct
    have hpp : p ≠ p' := fun hpp => hxe (eq_of_mem_placeholders hP.distinct
      (mem_of_placeholder? he) (hpp ▸ mem_of_placeholder? hpl))
    refine ⟨?_, by rw [hed.parent p hpv, Function.update_apply, if_neg hpp,
      Function.update_apply, if_neg hxp, hp]⟩
    exact (lookup_filter_ne hxe).trans he'
  | @removeAlone x _ _ hed =>
    have hxp : p ≠ x := fun hpx => h₂ (by rw [hpx])
    exact ⟨he, by rw [hed.parent p hpv, Function.update_apply, if_neg hxp, hp]⟩
  | isTemplate | placeholder => exact ⟨he, hp⟩

/-- Placement over every run of calls on the node table from an empty table over a well-formed
forest, where a copy after a reference is only asked of an element a clone has copied: the
templates are exactly the elements that a clone has copied; every next call does what `Answers`
says; and a placeholder in place stays in place through every next call other than a removal of
its element, or a removal or a clone of the placeholder itself. -/
theorem calls_keep_placement (hf : f₀.WellFormed) (hr : Calls f₀ h t f) :
    (∀ x, t.isTemplate x ↔ ∃ c, (TableCall.clone x, some c) ∈ h) ∧
      (∀ c, Answers t f c (t.call f c)) ∧
      ∀ e p q, t.placeholder? e = some p → f.parent? p = some q → ∀ c : TableCall,
        c ≠ .remove e → c ≠ .remove p → c ≠ .clone p →
        (t.call f c).2.1.placeholder? e = some p ∧ (t.call f c).2.2.parent? p = some q := by
  have hP := placed_of_calls hf hr
  exact ⟨hP.templates, fun c => (answers_call hP.wf t c).1,
    fun _ _ _ he hp _ h₁ h₂ h₃ => hP.keeps_placeholder he hp h₁ h₂ h₃⟩

def itemForest : Forest := ⟨#[
  ⟨.document, none, #[⟨1⟩]⟩,
  ⟨.element "ul" [] true, some ⟨0⟩, #[⟨2⟩]⟩,
  ⟨.element "li" [] true, some ⟨1⟩, #[⟨3⟩]⟩,
  ⟨.string .text "x", some ⟨2⟩, #[]⟩]⟩

theorem itemForest_wellFormed : itemForest.WellFormed := wellFormed_of_lt (by decide)

theorem placement_after_item_clone :
    let r := empty.call itemForest (.clone ⟨2⟩)
    itemForest.WellFormed ∧ Calls itemForest [(.clone ⟨2⟩, r.1)] r.2.1 r.2.2 ∧
      (∀ x, r.2.1.isTemplate x ↔ ∃ c, (TableCall.clone x, some c) ∈ [(TableCall.clone ⟨2⟩, r.1)]) ∧
      (∀ c, Answers r.2.1 r.2.2 c (r.2.1.call r.2.2 c)) ∧
      ∀ e p q, r.2.1.placeholder? e = some p → r.2.2.parent? p = some q → ∀ c : TableCall,
        c ≠ .remove e → c ≠ .remove p → c ≠ .clone p →
        (r.2.1.call r.2.2 c).2.1.placeholder? e = some p ∧
          (r.2.1.call r.2.2 c).2.2.parent? p = some q := by
  intro r
  have hr : Calls itemForest [(.clone ⟨2⟩, r.1)] r.2.1 r.2.2 := .step (.clone ⟨2⟩) .start trivial
  exact ⟨itemForest_wellFormed, hr, calls_keep_placement itemForest_wellFormed hr⟩

/-- Removing the placeholder itself takes it out while it stays the placeholder of its element:
after one clone of the item of <ul><li>x</li></ul>, its placeholder, node 4, is in the list, and
the removal of node 4 leaves it with no parent. -/
theorem remove_placeholder_detaches :
    let r := empty.call itemForest (.clone ⟨2⟩)
    Calls itemForest [(.clone ⟨2⟩, some ⟨5⟩)] r.2.1 r.2.2 ∧
      r.2.1.placeholder? ⟨2⟩ = some ⟨4⟩ ∧ r.2.2.parent? ⟨4⟩ = some ⟨1⟩ ∧
      (r.2.1.call r.2.2 (.remove ⟨4⟩)).2.1.placeholder? ⟨2⟩ = some ⟨4⟩ ∧
      (r.2.1.call r.2.2 (.remove ⟨4⟩)).2.2.parent? ⟨4⟩ = none := by
  intro r
  exact ⟨.step (.clone ⟨2⟩) .start trivial, by decide⟩

end Runs

end NodeTable

end Stencil.Template

import Mathlib
import Stencil.Proofs.Template.Edits
import Stencil.Proofs.Template.Table
import Stencil.Template.Session
/-!
# Parts of a task that keep the bookkeeping

Every part of a task but the waiting of a `data-is` is quiet (`Session.Quiet`): it edits table
and forest tidily, keeps its templates, leaves the expansions and the place of the next ready work
as they are, and adds to the ready work only waiting workers woken by new tasks. Only the clones
of one element may add placeholders, for that element; finishing an expansion takes out the
element it cloned, with its placeholder (`Session.placeholders_finishExpansion`).
-/

namespace Stencil.Template

open Stencil.Markup Forest NodeTable

namespace Session

/-- A part of a task from `s` to `t`: table and forest change tidily with new placeholders only
for elements that `A` allows, templates stay templates, the expansions and the place of the next
ready work stay, the ready work only grows by waiting workers woken, and the configuration
stays. -/
structure Quiet (A : NodeId → Prop) (s t : Session) : Prop where
  table : Tidy A s.table s.forest t.table t.forest
  templates : ∀ e ∈ s.table.templates, e ∈ t.table.templates
  expansions : t.expansions = s.expansions
  nextReady : t.nextReady = s.nextReady
  ready : ∃ k, t.ready.toList = s.ready.toList ++ List.replicate k .take
  config : t.config = s.config

section Quiet

variable {A : NodeId → Prop} {s t u : Session}

theorem Quiet.refl (A : NodeId → Prop) (s : Session) : Quiet A s s :=
  ⟨Tidy.refl A _ _, fun _ h => h, rfl, rfl, ⟨0, by simp⟩, rfl⟩

theorem Quiet.trans (h₁ : Quiet A s t) (h₂ : Quiet A t u) : Quiet A s u := by
  refine ⟨h₁.table.trans h₂.table, fun e he => h₂.templates e (h₁.templates e he),
    h₂.expansions.trans h₁.expansions, h₂.nextReady.trans h₁.nextReady, ?_,
    h₂.config.trans h₁.config⟩
  obtain ⟨k₁, hk₁⟩ := h₁.ready
  obtain ⟨k₂, hk₂⟩ := h₂.ready
  exact ⟨k₁ + k₂, by rw [hk₂, hk₁, List.append_assoc, List.replicate_append_replicate]⟩

theorem Quiet.mono {B : NodeId → Prop} (hAB : ∀ e, A e → B e) (h : Quiet A s t) : Quiet B s t :=
  ⟨h.table.mono hAB, h.templates, h.expansions, h.nextReady, h.ready, h.config⟩

theorem quiet_of_tidy (h : Tidy A s.table s.forest t.table t.forest)
    (htm : t.table.templates = s.table.templates) (he : t.expansions = s.expansions)
    (hn : t.nextReady = s.nextReady) (hr : t.ready = s.ready) (hc : t.config = s.config) :
    Quiet A s t :=
  ⟨h, fun _ hx => htm ▸ hx, he, hn, ⟨0, by simp [hr]⟩, hc⟩

theorem quiet_of_eq (hf : t.forest = s.forest) (hpl : t.table.placeholders = s.table.placeholders)
    (htm : t.table.templates = s.table.templates) (he : t.expansions = s.expansions)
    (hn : t.nextReady = s.nextReady) (hr : t.ready = s.ready) (hc : t.config = s.config) :
    Quiet A s t :=
  quiet_of_tidy (tidy_of_tame hpl htm fun h => by rw [hf]; exact Tame.refl h) htm he hn hr hc

theorem Quiet.absorb (h : Quiet A s t) : Quiet A s t.absorb :=
  h.trans (quiet_of_eq rfl rfl rfl rfl rfl rfl rfl)

theorem quiet_of_tame (hg : s.forest.Linked → Tame s.forest t.forest) (ht : t.table = s.table)
    (he : t.expansions = s.expansions) (hn : t.nextReady = s.nextReady) (hr : t.ready = s.ready)
    (hc : t.config = s.config) : Quiet A s t :=
  quiet_of_tidy (tidy_of_tame (by rw [ht]) (by rw [ht]) hg) (by rw [ht]) he hn hr hc

theorem quiet_foldl {α : Type} (step : Session → α → Session)
    (hstep : ∀ s a, Quiet A s (step s a)) (l : List α) (s : Session) :
    Quiet A s (l.foldl step s) := by
  refine List.foldlRecOn (motive := fun t => Quiet A s t) _ _ (Quiet.refl A s) ?_
  intro t ht a _
  exact ht.trans (hstep t a)

end Quiet

theorem quiet_ite {A : NodeId → Prop} {s t u : Session} {c : Prop} [Decidable c]
    (h₁ : Quiet A s t) (h₂ : Quiet A s u) : Quiet A s (if c then t else u) := by
  split
  · exact h₁
  · exact h₂

/-! ## The parts of a task -/

section Parts

variable {A : NodeId → Prop}

theorem quiet_resolve (s : Session) (scope : Nat) (expr : Option String) (b : Bool) :
    Quiet A s (s.resolve scope expr b).2 := by
  simp only [resolve]
  rcases s.scopes.resolve s.forest scope expr b with ⟨r, S⟩
  exact quiet_of_eq rfl rfl rfl rfl rfl rfl rfl

theorem quiet_remove (s : Session) (e : NodeId) : Quiet A s (s.remove e) := by
  unfold remove
  have ht := tidy_remove A s.table s.forest e
  have htm := templates_remove s.table s.forest e
  rcases hr : s.table.remove s.forest e with ⟨t, f⟩
  rw [hr] at ht htm
  refine Quiet.absorb (quiet_of_tidy ?_ ?_ rfl rfl rfl rfl)
  · exact ht
  · exact htm

theorem quiet_assignVariables (s : Session) (e : NodeId) (scope : Nat) (b : Bool) :
    Quiet A s (s.assignVariables e scope b) := by
  unfold assignVariables
  refine quiet_foldl _ (fun t ⟨name, value⟩ => ?_) _ s
  dsimp only
  split
  · exact quiet_resolve t scope _ b
  · exact Quiet.refl A t

theorem quiet_bindAttributes (s : Session) (e : NodeId) (scope : Nat) (b : Bool) :
    Quiet A s (s.bindAttributes e scope b).1 := by
  unfold bindAttributes
  refine List.foldlRecOn (motive := fun acc : Session × Option String => Quiet A s acc.1) _ _
    (Quiet.refl A s) ?_
  intro ⟨t, o⟩ ht ⟨name, value⟩ _
  cases o with
  | some m => exact ht
  | none =>
    dsimp only
    split
    · exact ht
    · have hr := ht.trans (quiet_resolve t scope (some value) b)
      rcases hres : t.resolve scope (some value) b with ⟨r, t'⟩
      rw [hres] at hr
      dsimp only
      repeat' split
      all_goals first
        | exact hr
        | exact hr.trans (quiet_of_tame (fun h => (Tame.refl h).setAttr e _ _) rfl rfl rfl rfl rfl)

theorem quiet_taskFailed (s : Session) (e : NodeId) (m : String) :
    Quiet A s (s.taskFailed e m) :=
  quiet_of_eq rfl rfl rfl rfl rfl rfl rfl

theorem quiet_enqueue (s : Session) (task : Task) : Quiet A s (s.enqueue task) := by
  unfold enqueue
  dsimp only
  split
  · exact ⟨Tidy.refl A _ _, fun _ h => h, rfl, rfl, ⟨1, by simp⟩, rfl⟩
  · exact quiet_of_eq rfl rfl rfl rfl rfl rfl rfl

theorem quiet_prepare {s t : Session} {parent : NodeId} (h : s.prepare parent = .ok t) :
    Quiet A s t := by
  unfold prepare at h
  split at h
  · split at h
    · rename_i ha
      cases h
      exact quiet_of_tame (fun hf => tame_stripDirectives (tame_applyTemplates (Tame.refl hf) ha) _)
        rfl rfl rfl rfl rfl
    · cases h
  · cases h
    exact Quiet.refl A s

theorem quiet_wrapScope (s : Session) (scope : Nat) : Quiet A s (s.wrapScope scope) := by
  unfold wrapScope
  split
  · rename_i n _
    have ht := tidy_wrapTexts A s.table s.forest n
    have htm : (s.table.wrapTexts s.forest n).2.1.templates = s.table.templates :=
      (wrapWithin_table _ _ _ _).2
    rcases hw : s.table.wrapTexts s.forest n with ⟨_, t, f⟩
    rw [hw] at ht htm
    refine Quiet.absorb (quiet_of_tidy ?_ ?_ rfl rfl rfl rfl)
    · exact ht
    · exact htm
  · exact Quiet.refl A s

theorem quiet_enqueueChildren (s : Session) (parent : NodeId) (scope : Nat) :
    Quiet A s (s.enqueueChildren parent scope) :=
  quiet_foldl _ (fun t c => quiet_enqueue t ⟨c, scope⟩) _ s

theorem quiet_unwrapElement (s : Session) (e : NodeId) : Quiet A s (s.unwrapElement e) :=
  quiet_of_tame (fun h => (Tame.refl h).unwrap e) rfl rfl rfl rfl rfl

theorem quiet_queueChildren (s : Session) (parent : NodeId) (scope : Nat) (options : List String) :
    Quiet A s (s.queueChildren parent scope options) := by
  unfold queueChildren
  have h₁ := quiet_ite (c := options.contains "texts" = true) (quiet_wrapScope s scope)
    (Quiet.refl A s)
  have h₂ := h₁.trans (quiet_enqueueChildren _ parent scope)
  exact quiet_ite (h₂.trans (quiet_unwrapElement _ parent)) h₂

theorem quiet_scheduleOne {s t : Session} {parent : NodeId} {scope : Nat}
    (h : s.scheduleOne parent scope = .ok t) : Quiet A s t := by
  unfold scheduleOne at h
  split at h
  · cases h
    exact Quiet.refl A s
  · rcases hp : s.prepare parent with _ | u
    · rw [hp] at h
      cases h
    · rw [hp] at h
      cases h
      exact (quiet_prepare hp).trans (quiet_queueChildren u parent scope _)

theorem quiet_scheduleSteps (e : NodeId) :
    ∀ (s : Session) (steps : List (NodeId × Nat)), Quiet A s (s.scheduleSteps e steps)
  | s, [] => Quiet.refl A s
  | s, (parent, scope) :: rest => by
    unfold scheduleSteps
    rcases h : s.scheduleOne parent scope with err | t
    · exact quiet_taskFailed s e _
    · exact (quiet_scheduleOne h).trans (quiet_scheduleSteps e t rest)

theorem quiet_schedule_of_remove (s : Session) (e : NodeId) (steps : List (NodeId × Nat)) :
    Quiet A (if s.table.isTemplate e then s.remove e else s) (s.schedule e steps) :=
  quiet_scheduleSteps e _ steps

theorem quiet_schedule (s : Session) (e : NodeId) (steps : List (NodeId × Nat)) :
    Quiet A s (s.schedule e steps) :=
  (quiet_ite (quiet_remove s e) (Quiet.refl A s)).trans (quiet_schedule_of_remove s e steps)

theorem quiet_cloneElement (s : Session) (e : NodeId) : Quiet (· = e) s (s.cloneElement e).2 :=
  Quiet.absorb ⟨tidy_clone s.table s.forest e, fun _ hx => templates_clone hx, rfl, rfl, ⟨0, by simp⟩,
    rfl⟩

theorem quiet_cloneAfter (s : Session) {e : NodeId} (ref : NodeId) (he : e ∈ s.table.templates) :
    Quiet A s (s.cloneAfter e ref).2 :=
  Quiet.absorb ⟨tidy_cloneAfter A s.table s.forest ref he, fun _ hx => templates_cloneAfter ref hx,
    rfl, rfl, ⟨0, by simp⟩, rfl⟩

theorem quiet_renderClone (s : Session) (hr : ∀ x ∈ s.config.renderers, x.Tame) (copy : NodeId)
    (m : Select.Location) (options : List String) : Quiet A s (s.renderClone copy m options).2 :=
  quiet_of_tame (fun h => tame_runChain (Tame.refl h) (fun x hx => (List.mem_append.mp hx).elim
    (hr x) (tame_builtinRenderers x)) _) rfl rfl rfl rfl rfl

theorem quiet_continueClone_go (e : NodeId) (scope : Nat) (options : List String)
    (m : Select.Location) (same isList : Bool) :
    ∀ (items : List Value) (index : Nat) (target : NodeId) (s : Session)
      (acc : List (NodeId × Nat)), e ∈ s.table.templates →
      Quiet A s (continueClone.go e scope options m same isList items index target s acc).2
  | [], _, _, s, _, _ => by
    unfold continueClone.go
    exact Quiet.refl A s
  | item :: rest, index, target, s, acc, he => by
    unfold continueClone.go
    have hp : Quiet A s (if index = 0 then (some target, s) else s.cloneAfter e target).2 := by
      split
      · exact Quiet.refl A s
      · exact quiet_cloneAfter s target he
    dsimp only
    rcases hpl : (if index = 0 then (some target, s) else s.cloneAfter e target) with
      ⟨_ | target', s'⟩ <;> rw [hpl] at hp
    · exact hp
    · have he' := hp.templates e he
      dsimp only
      split
      · exact hp.trans (quiet_continueClone_go e scope options m same isList rest _ _ _ _ he')
      · have hs : Quiet A s' { s' with scopes := (s'.scopes.child scope
            (if (!isList && same) = true then m else m.withValue item)).2 } :=
          quiet_of_eq rfl rfl rfl rfl rfl rfl rfl
        exact hp.trans (hs.trans
          (quiet_continueClone_go e scope options m same isList rest _ _ _ _ he'))

theorem quiet_continueClone {e : NodeId} (scope : Nat) (options : List String) (s : Session)
    (copy : NodeId) (m : Select.Location) (step : RenderStep) (he : e ∈ s.table.templates) :
    Quiet A s (continueClone e scope options s copy m step).2 := by
  unfold continueClone
  split
  · exact quiet_of_tame (fun h => tame_stripDirectives (Tame.refl h) copy) rfl rfl rfl rfl rfl
  · split
    rename_i value same _
    split
    rename_i items isList _
    split
    · exact quiet_remove s copy
    · exact quiet_continueClone_go e scope options m same isList items 0 copy s [] he

theorem placeholders_cloneElement_of_none {s : Session} {e : NodeId}
    (h : (s.cloneElement e).1 = none) :
    (s.cloneElement e).2.table.placeholders = s.table.placeholders := by
  unfold cloneElement at h ⊢
  have hp := @placeholders_clone_of_none s.table s.forest e
  rcases hc : s.table.clone s.forest e with ⟨c, t, f⟩
  rw [hc] at hp h
  exact hp h

theorem template_cloneElement_of_some {s : Session} {e c : NodeId}
    (h : (s.cloneElement e).1 = some c) : e ∈ (s.cloneElement e).2.table.templates := by
  unfold cloneElement at h ⊢
  have hp := @template_clone_of_some s.table s.forest e c
  rcases hc : s.table.clone s.forest e with ⟨c', t, f⟩
  rw [hc] at hp h
  exact hp h

theorem quiet_cloneAll (s : Session) (e : NodeId) (r : Select.ResultSet) :
    Quiet (· = e) s (s.cloneAll e r).2 ∧
      ((s.cloneAll e r).1 = [] → (s.cloneAll e r).2.table.placeholders = s.table.placeholders) ∧
      ((s.cloneAll e r).1 ≠ [] → e ∈ (s.cloneAll e r).2.table.templates) := by
  unfold cloneAll
  refine List.foldlRecOn (motive := fun acc : List (NodeId × Select.Location) × Session =>
    Quiet (· = e) s acc.2 ∧ (acc.1 = [] → acc.2.table.placeholders = s.table.placeholders) ∧
      (acc.1 ≠ [] → e ∈ acc.2.table.templates)) _ _
    ⟨Quiet.refl _ s, fun _ => rfl, fun h => absurd rfl h⟩ ?_
  intro ⟨clones, t⟩ ⟨hq, hnil, hcons⟩ m _
  have hc := quiet_cloneElement t e
  dsimp only at hq hnil hcons ⊢
  split
  · rename_i c t' heq
    rw [heq] at hc
    refine ⟨hq.trans hc, fun h => absurd h (by simp), fun _ => ?_⟩
    have := template_cloneElement_of_some (congrArg Prod.fst heq)
    rwa [heq] at this
  · rename_i t' heq
    rw [heq] at hc
    refine ⟨hq.trans hc, fun h => ?_, fun h => hc.templates e (hcons h)⟩
    have := placeholders_cloneElement_of_none (congrArg Prod.fst heq)
    rw [heq] at this
    rw [this, hnil h]

theorem placeholders_remove_eq (s : Session) (e : NodeId) :
    (s.remove e).table.placeholders = (s.table.remove s.forest e).1.placeholders := by
  unfold remove
  rcases s.table.remove s.forest e with ⟨t, f⟩
  rfl

theorem placeholders_schedule {s : Session} (hs : s.table.Sound s.forest) {e : NodeId}
    (he : e ∈ s.table.templates) (steps : List (NodeId × Nat)) :
    ∀ y p, (y, p) ∈ (s.schedule e steps).table.placeholders → y ≠ e := by
  intro y p hyp
  have hq := quiet_schedule_of_remove (A := fun _ => False) s e steps
  rw [if_pos (by simpa [isTemplate] using he)] at hq
  obtain ⟨hs', -⟩ := (quiet_remove (A := fun _ => False) s e).table hs
  obtain ⟨-, st⟩ := hq.table hs'
  rcases st.fresh y p hyp with h | h
  · rw [placeholders_remove_eq] at h
    exact (placeholders_remove h).2
  · exact h.elim

theorem quiet_finishExpansion (s : Session) {x : Expansion} (he : x.element ∈ s.table.templates) :
    Quiet A s (s.finishExpansion x) ∧
      (s.table.Sound s.forest →
        ∀ y p, (y, p) ∈ (s.finishExpansion x).table.placeholders → y ≠ x.element) := by
  unfold finishExpansion
  split
  rename_i steps s' heq
  have h₁ : Quiet A s (steps, s').2 := by
    rw [← heq]
    refine List.foldlRecOn (motive := fun acc : List (NodeId × Nat) × Session => Quiet A s acc.2)
      _ _ (Quiet.refl A s) ?_
    intro acc hacc ⟨⟨c, m⟩, step⟩ _
    exact hacc.trans (quiet_continueClone _ _ acc.2 c m step (hacc.templates _ he))
  refine ⟨h₁.trans (quiet_schedule s' x.element steps), fun hs => ?_⟩
  obtain ⟨hs', -⟩ := h₁.table hs
  exact placeholders_schedule hs' (h₁.templates _ he) steps


theorem quiet_condition (s : Session) (e : NodeId) (name : String) (scope : Nat) (b : Bool)
    (drops : Select.ResultSet → Bool) : Quiet A s (s.condition e name scope b drops).2 := by
  unfold condition
  split
  · rename_i expr _
    have h := quiet_resolve (A := A) s scope (some expr) b
    rcases hr : s.resolve scope (some expr) b with ⟨r, t⟩
    rw [hr] at h
    exact h
  · exact Quiet.refl A s

theorem quiet_compressNode (s : Session) (n : NodeId) : Quiet A s (s.compressNode n).2 := by
  unfold compressNode
  split
  · exact Quiet.refl A s
  · have h := tame_compress (F := s.forest) (f := s.forest) (n := n)
    rcases hc : compress s.forest n with ⟨n', f⟩
    rw [hc] at h
    exact quiet_of_tame (fun hf => h (Tame.refl hf)) rfl rfl rfl rfl rfl

theorem applyConditions_cases (s : Session) (e : NodeId) (scope : Nat) (options : List String)
    (b : Bool) :
    Quiet A s (s.applyConditions e scope options b) ∨
      ∃ s₁ r, Quiet A s s₁ ∧ s.applyConditions e scope options b = s₁.expand e scope r options := by
  unfold applyConditions
  have h₁ := quiet_condition (A := A) s e notName scope b (·.size > 0)
  rcases hc₁ : s.condition e notName scope b (·.size > 0) with ⟨_ | _, s₁⟩ <;>
    rw [hc₁] at h₁ <;> dsimp only at h₁ ⊢
  · have h₂ := quiet_condition (A := A) s₁ e ifName scope b (·.size = 0)
    rcases hc₂ : s₁.condition e ifName scope b (·.size = 0) with ⟨_ | _, s₂⟩ <;>
      rw [hc₂] at h₂ <;> dsimp only at h₂ ⊢
    · split
      · rename_i expr _
        have h₃ := quiet_resolve (A := A) s₂ scope (some expr) b
        rcases hr : s₂.resolve scope (some expr) b with ⟨r, s₃⟩
        rw [hr] at h₃
        dsimp only
        split
        · exact Or.inl (h₁.trans (h₂.trans (h₃.trans (quiet_remove s₃ e))))
        · exact Or.inr ⟨s₃, r, h₁.trans (h₂.trans h₃), rfl⟩
      · exact Or.inl (h₁.trans (h₂.trans (quiet_schedule s₂ e _)))
    · exact Or.inl (h₁.trans (h₂.trans (quiet_remove s₂ e)))
  · exact Or.inl (h₁.trans (quiet_remove s₁ e))

theorem process_cases (s : Session) (task : Task) :
    Quiet A s (s.process task) ∨
      ∃ s₁ e r options, Quiet A s s₁ ∧ s.process task = s₁.expand e task.scope r options := by
  unfold process
  have h₀ := quiet_compressNode (A := A) s task.node
  rcases hc : s.compressNode task.node with ⟨_ | e, s₁⟩ <;> rw [hc] at h₀ <;> dsimp only
  · exact Or.inl h₀
  · split
    · exact Or.inl (h₀.trans (quiet_schedule s₁ e _))
    · split
      · exact Or.inl h₀
      · have h₂ := h₀.trans (quiet_assignVariables s₁ e task.scope
          ((optionWords s₁.forest e).contains "self"))
        have h₃ := quiet_bindAttributes (A := A) (s₁.assignVariables e task.scope
          ((optionWords s₁.forest e).contains "self")) e task.scope
          ((optionWords s₁.forest e).contains "self")
        rcases hb : (s₁.assignVariables e task.scope ((optionWords s₁.forest e).contains "self")).bindAttributes
          e task.scope ((optionWords s₁.forest e).contains "self") with ⟨s₃, _ | m⟩ <;>
          rw [hb] at h₃ <;> dsimp only
        · rcases applyConditions_cases (A := A) s₃ e task.scope (optionWords s₁.forest e)
            ((optionWords s₁.forest e).contains "self") with h | ⟨s₄, r, h, heq⟩
          · exact Or.inl (h₂.trans (h₃.trans h))
          · exact Or.inr ⟨s₄, e, r, _, h₂.trans (h₃.trans h), heq⟩
        · exact Or.inl (h₂.trans (h₃.trans (quiet_taskFailed s₃ task.node m)))

theorem takeTask_cases (s : Session) :
    Quiet A s s.takeTask ∨
      ∃ s₁ e scope r options, Quiet A s s₁ ∧ s.takeTask = s₁.expand e scope r options := by
  unfold takeTask
  split
  · rename_i task _
    have h₀ : Quiet A s { s with next := s.next + 1 } := quiet_of_eq rfl rfl rfl rfl rfl rfl rfl
    rcases process_cases (A := A) { s with next := s.next + 1 } task with h | ⟨s₁, e, r, o, h, heq⟩
    · exact Or.inl (h₀.trans h)
    · exact Or.inr ⟨s₁, e, task.scope, r, o, h₀.trans h, heq⟩
  · exact Or.inl (quiet_of_eq rfl rfl rfl rfl rfl rfl rfl)

end Parts

end Session

end Stencil.Template

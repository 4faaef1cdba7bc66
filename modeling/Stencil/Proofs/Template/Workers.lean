import Mathlib
import Stencil.Template.Session
/-!
# Work that does not depend on the workers

The workers of a session are how many there are, how many have not started, whether one runs,
and the expansions awaited (`Session.Workers`). Every part of a task but a `data-is` that clones
reads none of this and changes none of it: it commutes with replacing the workers
(`Session.withWorkers`), and so leaves them as they are (`Session.Oblivious`). A task is thus done
the same way whatever the workers are, unless it adds an expansion
(`Session.process_oblivious_or_grows`), and no work ever takes an expansion away
(`Session.expansions_size_le_drain`).
-/

namespace Stencil.Template

open Stencil.Markup

namespace Session

/-- What the workers of a rendering are doing, beside the tasks: how many there are, how many
have not started, whether one runs, and the expansions whose chains are awaited; when `settled`
holds the ready work, no worker waits for a task. -/
structure Workers where
  concurrency : Nat
  unstarted : Nat
  running : Bool
  expansions : Array Expansion
  settled : Option (Array Wakeup)

def workers (s : Session) : Workers :=
  ⟨s.config.concurrency, s.unstarted, s.running, s.expansions, none⟩

/-- The session with other workers. -/
@[simps]
def withWorkers (s : Session) (w : Workers) : Session :=
  { s with config := { s.config with concurrency := w.concurrency }, unstarted := w.unstarted,
           running := w.running, expansions := w.expansions,
           idle := if w.settled.isSome then 0 else s.idle, ready := w.settled.getD s.ready }

theorem withWorkers_workers (s : Session) : s.withWorkers s.workers = s := by
  rcases s with ⟨_, _, _, ⟨_, _, _, _, _⟩, _, _, _, _, _, _, _, _, _, _⟩
  rfl

theorem withWorkers_settled {s : Session} (h : s.idle = 0) :
    s.withWorkers { s.workers with settled := some s.ready } = s := by
  rcases s with ⟨_, _, _, ⟨_, _, _, _, _⟩, _, _, _, _, _, _, _, _, _, _⟩
  simp_all [withWorkers, workers]

/-! ## Parts of a task that commute with the workers -/

section Commute

variable (w : Workers)

theorem resolve_withWorkers (s : Session) (i : Nat) (e : Option String) (b : Bool) :
    (s.withWorkers w).resolve i e b = ((s.resolve i e b).1, (s.resolve i e b).2.withWorkers w) := by
  simp only [resolve, withWorkers_scopes, withWorkers_forest]
  rcases s.scopes.resolve s.forest i e b with ⟨r, S⟩
  rfl

theorem remove_withWorkers (s : Session) (e : NodeId) :
    (s.withWorkers w).remove e = (s.remove e).withWorkers w := by
  simp only [remove, withWorkers_table, withWorkers_forest]
  rcases s.table.remove s.forest e with ⟨t, f⟩
  rfl

theorem enqueue_withWorkers (s : Session) (t : Task) :
    (s.withWorkers w).enqueue t = (s.enqueue t).withWorkers w := by
  unfold enqueue
  rcases w with ⟨_, _, _, _, _ | rd⟩ <;> by_cases h : s.idle > 0 <;> simp [withWorkers, h]

theorem assignVariables_withWorkers (s : Session) (e : NodeId) (i : Nat) (b : Bool) :
    (s.withWorkers w).assignVariables e i b = (s.assignVariables e i b).withWorkers w := by
  unfold assignVariables
  simp only [withWorkers_forest]
  exact List.foldl_hom (withWorkers · w) fun s (name, value) => by
    split
    · rw [resolve_withWorkers]
    · rfl

theorem bindAttributes_withWorkers (s : Session) (e : NodeId) (i : Nat) (b : Bool) :
    (s.withWorkers w).bindAttributes e i b =
      ((s.bindAttributes e i b).1.withWorkers w, (s.bindAttributes e i b).2) := by
  unfold bindAttributes
  simp only [withWorkers_forest]
  refine @List.foldl_hom _ _ _ (fun p : Session × Option String => (p.1.withWorkers w, p.2))
    _ _ _ (s, none) (fun ⟨s, o⟩ (name, value) => ?_)
  cases o with
  | some m => rfl
  | none =>
    simp only
    split
    · rfl
    · rw [resolve_withWorkers]
      rcases s.resolve i (some value) b with ⟨r, s'⟩
      simp only [withWorkers_forest]
      split
      · split
        · split <;> rfl
        · rfl
      · rfl

theorem prepare_withWorkers (s : Session) (e : NodeId) :
    (s.withWorkers w).prepare e = (s.prepare e).map (·.withWorkers w) := by
  unfold prepare
  simp only [withWorkers_forest, withWorkers_pristine]
  split
  · split <;> rfl
  · rfl

theorem wrapScope_withWorkers (s : Session) (i : Nat) :
    (s.withWorkers w).wrapScope i = (s.wrapScope i).withWorkers w := by
  unfold wrapScope
  simp only [withWorkers_scopes, withWorkers_table, withWorkers_forest]
  split <;> rfl

theorem enqueueChildren_withWorkers (s : Session) (e : NodeId) (i : Nat) :
    (s.withWorkers w).enqueueChildren e i = (s.enqueueChildren e i).withWorkers w := by
  unfold enqueueChildren
  simp only [withWorkers_forest]
  exact List.foldl_hom (withWorkers · w) fun s c => enqueue_withWorkers w s ⟨c, i⟩

theorem unwrapElement_withWorkers (s : Session) (e : NodeId) :
    (s.withWorkers w).unwrapElement e = (s.unwrapElement e).withWorkers w := rfl

theorem withWorkers_ite (c : Prop) [Decidable c] (a b : Session) :
    (if c then a else b).withWorkers w = if c then a.withWorkers w else b.withWorkers w := by
  split <;> rfl

theorem queueChildren_withWorkers (s : Session) (e : NodeId) (i : Nat) (options : List String) :
    (s.withWorkers w).queueChildren e i options = (s.queueChildren e i options).withWorkers w := by
  unfold queueChildren
  simp only [wrapScope_withWorkers, withWorkers_ite]
  split <;> simp only [enqueueChildren_withWorkers, withWorkers_forest, unwrapElement_withWorkers]

theorem scheduleOne_withWorkers (s : Session) (e : NodeId) (i : Nat) :
    (s.withWorkers w).scheduleOne e i = (s.scheduleOne e i).map (·.withWorkers w) := by
  unfold scheduleOne
  simp only [withWorkers_table, withWorkers_forest, prepare_withWorkers]
  split
  · rfl
  · rcases s.prepare e with _ | t
    · rfl
    · exact congrArg Except.ok (queueChildren_withWorkers w t e i _)

theorem taskFailed_withWorkers (s : Session) (e : NodeId) (m : String) :
    (s.withWorkers w).taskFailed e m = (s.taskFailed e m).withWorkers w := rfl

theorem scheduleSteps_withWorkers (e : NodeId) :
    ∀ (s : Session) (steps : List (NodeId × Nat)),
      (s.withWorkers w).scheduleSteps e steps = (s.scheduleSteps e steps).withWorkers w
  | _, [] => rfl
  | s, (parent, i) :: rest => by
    simp only [scheduleSteps, scheduleOne_withWorkers]
    rcases s.scheduleOne parent i with err | t
    · exact taskFailed_withWorkers w s e _
    · exact scheduleSteps_withWorkers e t rest

theorem schedule_withWorkers (s : Session) (e : NodeId) (steps : List (NodeId × Nat)) :
    (s.withWorkers w).schedule e steps = (s.schedule e steps).withWorkers w := by
  unfold schedule
  have start : (if (s.withWorkers w).table.isTemplate e then (s.withWorkers w).remove e
      else s.withWorkers w) = (if s.table.isTemplate e then s.remove e else s).withWorkers w := by
    simp only [withWorkers_table]
    split
    · exact remove_withWorkers w s e
    · rfl
  rw [start]
  exact scheduleSteps_withWorkers w e _ steps

theorem cloneElement_withWorkers (s : Session) (e : NodeId) :
    (s.withWorkers w).cloneElement e = ((s.cloneElement e).1, (s.cloneElement e).2.withWorkers w) := by
  simp only [cloneElement, withWorkers_table, withWorkers_forest]
  rcases s.table.clone s.forest e with ⟨c, t, f⟩
  rfl

theorem cloneAll_withWorkers (s : Session) (e : NodeId) (r : Stencil.Select.ResultSet) :
    (s.withWorkers w).cloneAll e r = ((s.cloneAll e r).1, (s.cloneAll e r).2.withWorkers w) := by
  unfold cloneAll
  refine @List.foldl_hom _ _ _ (fun p : List (NodeId × Stencil.Select.Location) × Session =>
    (p.1, p.2.withWorkers w)) _ _ _ ([], s) (fun ⟨cs, s⟩ m => ?_)
  simp only [cloneElement_withWorkers]
  rcases s.cloneElement e with ⟨c | _, s'⟩ <;> rfl

theorem condition_withWorkers (s : Session) (e : NodeId) (name : String) (i : Nat) (b : Bool)
    (drops : Stencil.Select.ResultSet → Bool) :
    (s.withWorkers w).condition e name i b drops =
      ((s.condition e name i b drops).1, (s.condition e name i b drops).2.withWorkers w) := by
  unfold condition
  simp only [withWorkers_forest]
  split
  · simp only [resolve_withWorkers]
  · rfl

theorem compressNode_withWorkers (s : Session) (n : NodeId) :
    (s.withWorkers w).compressNode n = ((s.compressNode n).1, (s.compressNode n).2.withWorkers w) := by
  unfold compressNode
  simp only [withWorkers_config_debug, withWorkers_forest]
  by_cases h : s.config.debug
  · simp only [h, if_true]
  · simp only [h, Bool.false_eq_true, if_false]
    rfl

theorem cloneAfter_withWorkers (s : Session) (e ref : NodeId) :
    (s.withWorkers w).cloneAfter e ref =
      ((s.cloneAfter e ref).1, (s.cloneAfter e ref).2.withWorkers w) := by
  simp only [cloneAfter, withWorkers_table, withWorkers_forest]
  rcases s.table.cloneAfter s.forest e ref with ⟨c, t, f⟩
  rfl

theorem continueClone_go_withWorkers (e : NodeId) (i : Nat) (options : List String)
    (m : Stencil.Select.Location) (same isList : Bool) (items : List Value) (index : Nat)
    (target : NodeId) (s : Session) (acc : List (NodeId × Nat)) :
    continueClone.go e i options m same isList items index target (s.withWorkers w) acc =
      ((continueClone.go e i options m same isList items index target s acc).1,
       (continueClone.go e i options m same isList items index target s acc).2.withWorkers w) := by
  induction items generalizing index target s acc with
  | nil => rfl
  | cons item rest ih =>
    simp only [continueClone.go]
    by_cases h0 : index = 0
    · simp only [h0, if_true]
      split
      · rw [ih]
      · simp only [withWorkers_scopes]
        rw [← ih]
        rfl
    · simp only [h0, if_false, cloneAfter_withWorkers]
      rcases s.cloneAfter e target with ⟨_ | c, s'⟩
      · rfl
      · simp only
        split
        · rw [ih]
        · simp only [withWorkers_scopes]
          rw [← ih]
          rfl

theorem continueClone_withWorkers (e : NodeId) (i : Nat) (options : List String) (s : Session)
    (copy : NodeId) (m : Stencil.Select.Location) (step : RenderStep) :
    continueClone e i options (s.withWorkers w) copy m step =
      ((continueClone e i options s copy m step).1,
       (continueClone e i options s copy m step).2.withWorkers w) := by
  unfold continueClone
  split
  · rfl
  · split
    split
    split
    · exact congrArg (fun t => ([], t)) (remove_withWorkers w s copy)
    · exact continueClone_go_withWorkers w _ _ _ _ _ _ _ _ _ s []

theorem finishExpansion_withWorkers (s : Session) (x : Expansion) :
    (s.withWorkers w).finishExpansion x = (s.finishExpansion x).withWorkers w := by
  let next := fun (acc : List (NodeId × Nat) × Session)
      (y : (NodeId × Stencil.Select.Location) × RenderStep) =>
    (acc.1 ++ (continueClone x.element x.scope x.options acc.2 y.1.1 y.1.2 y.2).1,
      (continueClone x.element x.scope x.options acc.2 y.1.1 y.1.2 y.2).2)
  have hfin : ∀ t : Session, t.finishExpansion x =
      ((x.clones.zip x.steps.toList).foldl next ([], t)).2.schedule x.element
        ((x.clones.zip x.steps.toList).foldl next ([], t)).1 := fun _ => rfl
  rw [hfin, hfin, @List.foldl_hom _ _ _
    (fun p : List (NodeId × Nat) × Session => (p.1, p.2.withWorkers w)) next _ _ ([], s)
    (fun p y => by simp only [next, continueClone_withWorkers])]
  exact schedule_withWorkers w _ x.element _

end Commute

/-! ## Frames -/

/-- Work done at a session the same way whatever its workers are, leaving them as they are. -/
def Oblivious (F : Session → Session) (s : Session) : Prop :=
  ∀ w, F (s.withWorkers w) = (F s).withWorkers w

theorem Oblivious.workers_eq {F : Session → Session} {s : Session} (h : Oblivious F s) :
    (F s).workers = s.workers := by
  have hs := h s.workers
  rw [withWorkers_workers] at hs
  rw [hs]
  rfl

theorem Oblivious.settled {F : Session → Session} {s : Session} (h : Oblivious F s)
    (hs : s.idle = 0) : (F s).idle = 0 ∧ (F s).ready = s.ready := by
  have hw := h { s.workers with settled := some s.ready }
  rw [withWorkers_settled hs] at hw
  rw [hw]
  exact ⟨rfl, rfl⟩

theorem workers_of_commute (F : Session → Session)
    (hF : ∀ s w, F (s.withWorkers w) = (F s).withWorkers w) (s : Session) :
    (F s).workers = s.workers :=
  Oblivious.workers_eq (hF s)

theorem workers_of_commute₂ {α : Type} (G : Session → α × Session)
    (hG : ∀ s w, G (s.withWorkers w) = ((G s).1, (G s).2.withWorkers w)) (s : Session) :
    (G s).2.workers = s.workers :=
  workers_of_commute (fun s => (G s).2) (fun s w => by simp only [hG]) s

theorem expansions_eq_of_workers {s t : Session} (h : t.workers = s.workers) :
    t.expansions = s.expansions :=
  congrArg Workers.expansions h

theorem running_eq_of_workers {s t : Session} (h : t.workers = s.workers) :
    t.running = s.running :=
  congrArg Workers.running h

theorem expansions_cloneAll (s : Session) (e : NodeId) (r : Stencil.Select.ResultSet) :
    (s.cloneAll e r).2.expansions = s.expansions :=
  expansions_eq_of_workers
    (workers_of_commute₂ (·.cloneAll e r) (fun s w => cloneAll_withWorkers w s e r) s)

/-! ## Expansions

A `data-is` that made no clone is done as any other directive; one that made clones adds an
expansion. So a task is done the same way whatever the workers are, unless it adds an
expansion. -/

theorem expand_oblivious_or_grows (s : Session) (e : NodeId) (i : Nat)
    (r : Stencil.Select.ResultSet) (options : List String) :
    Oblivious (·.expand e i r options) s ∨
      (s.expand e i r options).expansions.size = s.expansions.size + 1 := by
  have keep := expansions_cloneAll s e r
  rcases hc : s.cloneAll e r with ⟨cs, s'⟩
  rw [hc] at keep
  simp only at keep
  by_cases hcs : cs.isEmpty
  · left
    intro w
    simp only [expand, cloneAll_withWorkers, hc, hcs, if_true]
    exact schedule_withWorkers w s' e []
  · right
    simp [expand, hc, hcs, keep]

theorem applyConditions_oblivious_or_grows (s : Session) (e : NodeId) (i : Nat)
    (options : List String) (b : Bool) :
    Oblivious (·.applyConditions e i options b) s ∨
      (s.applyConditions e i options b).expansions.size = s.expansions.size + 1 := by
  have frame₁ := workers_of_commute₂ (·.condition e notName i b (·.size > 0))
    (fun s w => condition_withWorkers w s e notName i b _) s
  rcases hc₁ : s.condition e notName i b (·.size > 0) with ⟨_ | _, s₁⟩
  · rw [hc₁] at frame₁
    have frame₂ := workers_of_commute₂ (·.condition e ifName i b (·.size = 0))
      (fun s w => condition_withWorkers w s e ifName i b _) s₁
    rcases hc₂ : s₁.condition e ifName i b (·.size = 0) with ⟨_ | _, s₂⟩
    · rw [hc₂] at frame₂
      cases hexpr : s₂.forest.attr? e isName with
      | none =>
        left
        intro w
        simp only [applyConditions, condition_withWorkers, hc₁, hc₂, withWorkers_forest, hexpr]
        exact schedule_withWorkers w s₂ e _
      | some expr =>
        have frame₃ := workers_of_commute₂ (·.resolve i (some expr) b)
          (fun s w => resolve_withWorkers w s i (some expr) b) s₂
        rcases hr : s₂.resolve i (some expr) b with ⟨r, s₃⟩
        rw [hr] at frame₃
        have unfolded : ∀ w, (s.withWorkers w).applyConditions e i options b =
            if r.size = 0 then (s₃.withWorkers w).remove e else (s₃.withWorkers w).expand e i r options := by
          intro w
          simp only [applyConditions, condition_withWorkers, hc₁, hc₂, withWorkers_forest, hexpr,
            resolve_withWorkers, hr]
        by_cases hsize : r.size = 0
        · left
          intro w
          dsimp only
          rw [unfolded, if_pos hsize]
          simp only [applyConditions, hc₁, hc₂, hexpr, hr, hsize, if_true]
          exact remove_withWorkers w s₃ e
        · refine (expand_oblivious_or_grows s₃ e i r options).imp (fun h w => ?_) (fun h => ?_)
          · dsimp only
            rw [unfolded, if_neg hsize]
            simp only [applyConditions, hc₁, hc₂, hexpr, hr, hsize, if_false]
            exact h w
          · simp only [applyConditions, hc₁, hc₂, hexpr, hr, hsize, if_false]
            simp only at frame₁ frame₂ frame₃
            rw [h, expansions_eq_of_workers frame₃, expansions_eq_of_workers frame₂,
              expansions_eq_of_workers frame₁]
    · left
      intro w
      simp only [applyConditions, condition_withWorkers, hc₁, hc₂]
      exact remove_withWorkers w s₂ e
  · left
    intro w
    simp only [applyConditions, condition_withWorkers, hc₁]
    exact remove_withWorkers w s₁ e

/-- A task does not depend on the workers, unless its `data-is` adds an expansion. -/
theorem process_oblivious_or_grows (s : Session) (task : Task) :
    Oblivious (·.process task) s ∨ (s.process task).expansions.size = s.expansions.size + 1 := by
  have frame₁ := workers_of_commute₂ (·.compressNode task.node)
    (fun s w => compressNode_withWorkers w s task.node) s
  rcases hc : s.compressNode task.node with ⟨_ | e, s₁⟩
  · left
    intro w
    simp only [process, compressNode_withWorkers, hc]
  · rw [hc] at frame₁
    simp only at frame₁
    by_cases hnot : !s₁.forest.isElement e || s₁.table.isTemplate e
    · -- a node that is not an element has its children queued; a template is skipped
      left
      intro w
      by_cases he : s₁.forest.isElement e
      · have ht : s₁.table.isTemplate e := by simpa [he] using hnot
        simp only [process, compressNode_withWorkers, hc, withWorkers_forest, withWorkers_table, he,
          ht, Bool.not_true, Bool.false_eq_true, if_false, if_true]
      · simp only [process, compressNode_withWorkers, hc, withWorkers_forest, he, Bool.not_false,
          if_true]
        exact schedule_withWorkers w s₁ e _
    · have he : s₁.forest.isElement e := by simp_all
      have ht : s₁.table.isTemplate e = false := by simp_all
      have frame₂ := workers_of_commute (·.assignVariables e task.scope
        ((optionWords s₁.forest e).contains "self")) (fun s w => assignVariables_withWorkers w s _ _ _) s₁
      have frame₃ := workers_of_commute (fun s => (s.bindAttributes e task.scope
        ((optionWords s₁.forest e).contains "self")).1) (fun s w => by rw [bindAttributes_withWorkers])
        (s₁.assignVariables e task.scope ((optionWords s₁.forest e).contains "self"))
      rcases hb : (s₁.assignVariables e task.scope ((optionWords s₁.forest e).contains "self")).bindAttributes
        e task.scope ((optionWords s₁.forest e).contains "self") with ⟨s₂, _ | m⟩
      · have plain : s.process task = s₂.applyConditions e task.scope (optionWords s₁.forest e)
            ((optionWords s₁.forest e).contains "self") := by
          simp only [process, hc, he, ht, hb, Bool.not_true, Bool.false_eq_true, if_false]
        have unfolded : ∀ w, (s.withWorkers w).process task = (s₂.withWorkers w).applyConditions e
            task.scope (optionWords s₁.forest e) ((optionWords s₁.forest e).contains "self") := by
          intro w
          simp only [process, compressNode_withWorkers, hc, withWorkers_forest, withWorkers_table, he,
            ht, Bool.not_true, Bool.false_eq_true, if_false, assignVariables_withWorkers,
            bindAttributes_withWorkers, hb]
        refine (applyConditions_oblivious_or_grows s₂ e task.scope (optionWords s₁.forest e)
          ((optionWords s₁.forest e).contains "self")).imp (fun h w => ?_) (fun h => ?_)
        · dsimp only
          rw [unfolded, plain]
          exact h w
        · rw [hb] at frame₃
          rw [plain, h, expansions_eq_of_workers frame₃, expansions_eq_of_workers frame₂,
            expansions_eq_of_workers frame₁]
      · -- binding an attribute failed the task
        left
        intro w
        simp only [process, compressNode_withWorkers, hc, withWorkers_forest, withWorkers_table, he,
          ht, Bool.not_true, Bool.false_eq_true, if_false, assignVariables_withWorkers,
          bindAttributes_withWorkers, hb]
        rfl

/-! ## No work takes an expansion away -/

theorem finishExpansion_workers (s : Session) (x : Expansion) :
    (s.finishExpansion x).workers = s.workers :=
  workers_of_commute (·.finishExpansion x) (fun s w => finishExpansion_withWorkers w s x) s

theorem expansions_size_le_wake (s : Session) (k : Wakeup) :
    s.expansions.size ≤ (s.wake k).expansions.size := by
  cases k with
  | take => exact le_refl _
  | render n i =>
    simp only [wake]
    split
    · simp [renderClone]
    · exact le_refl _
  | report n =>
    simp only [wake]
    split
    · split <;> simp
    · exact le_refl _
  | resume n =>
    simp only [wake]
    split
    · rw [← expansions_eq_of_workers (finishExpansion_workers s _)]
    · exact le_refl _

theorem expansions_size_le_step {s t : Session} (h : s.step = some t) :
    s.expansions.size ≤ t.expansions.size := by
  unfold step at h
  split at h
  · cases h
    unfold takeTask
    split
    · rename_i task _
      rcases process_oblivious_or_grows { s with next := s.next + 1 } task with ho | hg
      · rw [expansions_eq_of_workers ho.workers_eq]
      · rw [hg]
        exact Nat.le_succ _
    · exact le_refl _
  · split at h
    · split at h <;> cases h <;> exact le_refl _
    · split at h
      · cases h
        exact expansions_size_le_wake { s with nextReady := s.nextReady + 1 } _
      · cases h

/-- No run takes an expansion away. -/
theorem expansions_size_le_drain (n : Nat) (s : Session) :
    s.expansions.size ≤ (s.drain n).expansions.size := by
  induction n generalizing s with
  | zero => exact le_refl _
  | succ n ih =>
    cases h : s.step with
    | none => simp only [drain, h, le_refl]
    | some t =>
      simp only [drain, h]
      exact (expansions_size_le_step h).trans (ih t)

end Session
end Stencil.Template

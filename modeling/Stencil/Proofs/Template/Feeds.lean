import Mathlib
import Stencil.Proofs.Template.Workers
/-!
# What a task leaves in the queue

A part of a task feeds the queue (`Session.Feeds`): the tasks it queues join the end of the
queue in order, one waiting worker is woken for each while some wait, and the place of the next
task, the place of the next ready work and the workers stay as they were. Scopes, node table,
`data-apply` and renderers only report problems of their own kinds, so the one part of a task
that records a task problem is its failure (`Session.taskFailed`).

A whole task thus feeds the queue and records one task problem exactly when its handler raises
(`Session.raises`), unless a `data-is` makes its worker wait for the renderer chains of the
clones (`Session.Waits`): `Session.process_feeds_or_waits`.
-/

namespace Stencil.Template

open Stencil.Markup

def Problem.isTask (p : Problem) : Bool := p.kind == .task

def Wakeup.wakes : Wakeup → Bool
  | .take => true
  | _ => false

/-! ## Problems of other kinds -/

namespace Scopes

variable (S : Scopes) (f : Forest) (i : Nat)

theorem countP_report {kind : ProblemKind} (hk : kind ≠ .task) (message : String) :
    (S.report f i kind message).problems.countP Problem.isTask =
      S.problems.countP Problem.isTask := by
  simp [report, Problem.isTask, hk]

theorem countP_evaluate (text : String) (b : Bool) :
    (S.evaluate f i text b).2.problems.countP Problem.isTask =
      S.problems.countP Problem.isTask := by
  unfold evaluate
  split
  · rfl
  · split
    · rfl
    · exact countP_report S f i (by decide) _

theorem countP_resolve (text : Option String) (b : Bool) :
    (S.resolve f i text b).2.problems.countP Problem.isTask =
      S.problems.countP Problem.isTask := by
  unfold resolve
  dsimp only
  split
  · rename_i sel _
    split
    · rfl
    · have h := countP_evaluate S f i sel b
      rcases he : S.evaluate f i sel b with ⟨r, S'⟩
      rw [he] at h
      exact h
  · rename_i name sel _
    -- a second assignment in one scope is reported before the selector is evaluated
    have h₁ : (if ((S.frame i).bindings.lookup name).isSome then S.report f i .binding
        ("Variable '" ++ name ++ "' assigned twice in the same scope, last assignment wins")
        else S).problems.countP Problem.isTask = S.problems.countP Problem.isTask := by
      split
      · exact countP_report S f i (by decide) _
      · rfl
    generalize (if ((S.frame i).bindings.lookup name).isSome then S.report f i .binding
        ("Variable '" ++ name ++ "' assigned twice in the same scope, last assignment wins")
        else S) = S₁ at h₁ ⊢
    have h₂ := countP_evaluate S₁ f i sel b
    rcases he : S₁.evaluate f i sel b with ⟨r, S'⟩
    rw [he] at h₂
    exact h₂.trans h₁
  · split
    · rfl
    · exact countP_report S f i (by decide) _

end Scopes

namespace NodeTable

theorem countP_report (t : NodeTable) (f : Forest) (e : NodeId) (message : String) :
    (t.report f e message).problems.countP Problem.isTask = t.problems.countP Problem.isTask := by
  simp [report, Problem.isTask]

theorem problems_markTemplate (t : NodeTable) (e : NodeId) :
    (t.markTemplate e).problems = t.problems := by
  unfold markTemplate
  split <;> rfl

theorem countP_clone (t : NodeTable) (f : Forest) (e : NodeId) :
    (t.clone f e).2.1.problems.countP Problem.isTask = t.problems.countP Problem.isTask := by
  unfold clone
  rcases t.placeholder? e with _ | p
  · by_cases hd : (f.parent? e).isNone
    · simp only [hd, if_true]
      exact countP_report t f e _
    · simp only [hd, Bool.false_eq_true, if_false]
      split
      · exact countP_report _ _ e _
      · rw [problems_markTemplate]
  · simp only
    split
    · exact countP_report t _ e _
    · rw [problems_markTemplate]

theorem countP_cloneAfter (t : NodeTable) (f : Forest) (e ref : NodeId) :
    (t.cloneAfter f e ref).2.1.problems.countP Problem.isTask =
      t.problems.countP Problem.isTask := by
  unfold cloneAfter
  split
  · exact countP_report t f e _
  · rw [problems_markTemplate]

theorem problems_remove (t : NodeTable) (f : Forest) (e : NodeId) :
    (t.remove f e).1.problems = t.problems := by
  unfold remove
  split <;> rfl

theorem problems_markTextsDone (t : NodeTable) (n : NodeId) :
    (t.markTextsDone n).problems = t.problems := by
  unfold markTextsDone
  split <;> rfl

theorem problems_wrapWithin :
    ∀ (fuel : Nat) (f : Forest) (t : NodeTable) (n : NodeId),
      (wrapWithin f t fuel n).2.1.problems = t.problems
  | 0, _, _, _ => rfl
  | fuel + 1, f, t, n => by
    unfold wrapWithin
    split
    · rfl
    · dsimp only
      split
      · split
        · exact problems_markTextsDone t n
        · rw [problems_markTextsDone, problems_markTextsDone]
      · -- the children are wrapped in turn, each keeping the problems
        refine List.foldlRecOn (motive := fun acc : NodeTable × Forest => acc.1.problems = t.problems)
          _ _ (problems_markTextsDone t n) ?_
        intro acc hacc c _
        exact (problems_wrapWithin fuel acc.2 acc.1 c).trans hacc

end NodeTable

theorem countP_applyTemplates {f : Forest} {e pristine : NodeId} {res : Nat × Forest × List Problem}
    (h : applyTemplates f e pristine = .ok res) : res.2.2.countP Problem.isTask = 0 := by
  rcases applyTemplates_ok h with ⟨-, hsel⟩ | ⟨found, rfl⟩
  · rw [List.countP_eq_zero]
    intro p hp
    simp [Problem.isTask, hsel p hp]
  · rfl

theorem countP_runChain_go (f : Forest) (r : RenderRequest) :
    ∀ (renderers : List Renderer) (v : Value) (same : Bool) (g : Forest) (ps : List Problem),
      (runChain.go r renderers v same g ps).2.2.countP Problem.isTask = ps.countP Problem.isTask
  | [], v, _, _, _ => by
    unfold runChain.go
    split <;> rfl
  | x :: rest, v, same, g, ps => by
    unfold runChain.go
    rcases x.run g { r with value := v } with ⟨reply, g'⟩
    dsimp only
    split
    · rfl
    · rw [countP_runChain_go f r rest, List.countP_append]
      simp [Problem.isTask]
    · exact countP_runChain_go f r rest _ _ _ _
    · exact countP_runChain_go f r rest _ _ _ _
    · exact countP_runChain_go f r rest _ _ _ _
    · split <;> exact countP_runChain_go f r rest _ _ _ _

theorem countP_runChain (f : Forest) (renderers : List Renderer) (r : RenderRequest) :
    (runChain f renderers r).2.2.countP Problem.isTask = 0 :=
  countP_runChain_go f r renderers r.value true f []

namespace Session

def taskProblems (s : Session) : Nat := s.absorb.problems.countP Problem.isTask

theorem taskProblems_eq (s : Session) :
    s.taskProblems = s.problems.countP Problem.isTask + s.scopes.problems.countP Problem.isTask +
      s.table.problems.countP Problem.isTask := by
  simp [taskProblems, absorb, Array.countP_append, Nat.add_assoc]

/-- A part of a task from `s` to `t` that queues the tasks `ts` and records `k` task problems:
the tasks join the end of the queue in order, a waiting worker is woken for each while some
wait, and the place of the next task, the place of the next ready work and the workers stay. -/
structure Feeds (s t : Session) (ts : List Task) (k : Nat) : Prop where
  queue : t.queue.toList = s.queue.toList ++ ts
  next : t.next = s.next
  idle : t.idle = s.idle - min ts.length s.idle
  ready : t.ready.toList = s.ready.toList ++ List.replicate (min ts.length s.idle) .take
  nextReady : t.nextReady = s.nextReady
  workers : t.workers = s.workers
  tasks : t.taskProblems = s.taskProblems + k

section Feeds

variable {s t u : Session} {ts us : List Task} {k l : Nat}

theorem Feeds.refl (s : Session) : Feeds s s [] 0 := ⟨by simp, rfl, by simp, by simp, rfl, rfl, rfl⟩

theorem Feeds.trans (h₁ : Feeds s t ts k) (h₂ : Feeds t u us l) : Feeds s u (ts ++ us) (k + l) := by
  have hi := h₁.idle
  -- the workers woken by `us` are those still waiting after `ts`
  have hwoken : min ts.length s.idle + min us.length t.idle = min (ts ++ us).length s.idle := by
    rw [hi, List.length_append]
    omega
  refine ⟨by rw [h₂.queue, h₁.queue, List.append_assoc], h₂.next.trans h₁.next, ?_, ?_,
    h₂.nextReady.trans h₁.nextReady, h₂.workers.trans h₁.workers, by rw [h₂.tasks, h₁.tasks]; omega⟩
  · rw [h₂.idle, hi, List.length_append]
    omega
  · rw [h₂.ready, h₁.ready, List.append_assoc, List.replicate_append_replicate, hwoken]

theorem feeds_of_eq (hq : t.queue = s.queue) (hn : t.next = s.next) (hi : t.idle = s.idle)
    (hr : t.ready = s.ready) (hnr : t.nextReady = s.nextReady) (hw : t.workers = s.workers)
    (hk : t.taskProblems = s.taskProblems) : Feeds s t [] 0 :=
  ⟨by simp [hq], hn, by simp [hi], by simp [hr], hnr, hw, hk⟩

theorem feeds_of_problems (hq : t.queue = s.queue) (hn : t.next = s.next) (hi : t.idle = s.idle)
    (hr : t.ready = s.ready) (hnr : t.nextReady = s.nextReady) (hw : t.workers = s.workers)
    (hp : t.problems.countP Problem.isTask = s.problems.countP Problem.isTask)
    (hS : t.scopes.problems.countP Problem.isTask = s.scopes.problems.countP Problem.isTask)
    (hT : t.table.problems.countP Problem.isTask = s.table.problems.countP Problem.isTask) :
    Feeds s t [] 0 :=
  feeds_of_eq hq hn hi hr hnr hw (by rw [taskProblems_eq, taskProblems_eq, hp, hS, hT])

theorem feeds_absorb (s : Session) : Feeds s s.absorb [] 0 :=
  feeds_of_eq rfl rfl rfl rfl rfl rfl (by simp [taskProblems_eq, absorb, Array.countP_append, Nat.add_assoc])

theorem Feeds.trans_nil (h₁ : Feeds s t ts k) (h₂ : Feeds t u [] 0) : Feeds s u ts k := by
  simpa using h₁.trans h₂

theorem Feeds.nil_trans (h₁ : Feeds s t [] 0) (h₂ : Feeds t u ts k) : Feeds s u ts k := by
  simpa using h₁.trans h₂

theorem Feeds.absorb (h : Feeds s t ts k) : Feeds s t.absorb ts k :=
  h.trans_nil (feeds_absorb t)

theorem feeds_foldl_nil {α : Type} (step : Session → α → Session)
    (hstep : ∀ s a, Feeds s (step s a) [] 0) (l : List α) (s : Session) :
    Feeds s (l.foldl step s) [] 0 := by
  refine List.foldlRecOn (motive := fun t => Feeds s t [] 0) _ _ (Feeds.refl s) ?_
  intro t ht a _
  exact ht.trans (hstep t a)

end Feeds

theorem feeds_ite {s t u : Session} {c : Prop} [Decidable c] {ts : List Task} {k : Nat}
    (h₁ : Feeds s t ts k) (h₂ : Feeds s u ts k) : Feeds s (if c then t else u) ts k := by
  split
  · exact h₁
  · exact h₂

/-! ## The parts of a task -/

section Parts

theorem feeds_resolve (s : Session) (scope : Nat) (expr : Option String) (b : Bool) :
    Feeds s (s.resolve scope expr b).2 [] 0 := by
  have h := Scopes.countP_resolve s.scopes s.forest scope expr b
  simp only [resolve]
  rcases hr : s.scopes.resolve s.forest scope expr b with ⟨r, S⟩
  rw [hr] at h
  exact (feeds_of_problems (s := s) (t := { s with scopes := S }) rfl rfl rfl rfl rfl rfl rfl h rfl).absorb

theorem feeds_remove (s : Session) (e : NodeId) : Feeds s (s.remove e) [] 0 := by
  have h := NodeTable.problems_remove s.table s.forest e
  unfold remove
  rcases hr : s.table.remove s.forest e with ⟨t, f⟩
  rw [hr] at h
  exact (feeds_of_problems (s := s) (t := { s with table := t, forest := f }) rfl rfl rfl rfl rfl rfl rfl rfl
    (by rw [← h])).absorb

theorem feeds_assignVariables (s : Session) (e : NodeId) (scope : Nat) (b : Bool) :
    Feeds s (s.assignVariables e scope b) [] 0 := by
  unfold assignVariables
  refine feeds_foldl_nil _ (fun t ⟨name, value⟩ => ?_) _ s
  dsimp only
  split
  · exact feeds_resolve t scope _ b
  · exact Feeds.refl t

theorem feeds_bindAttributes (s : Session) (e : NodeId) (scope : Nat) (b : Bool) :
    Feeds s (s.bindAttributes e scope b).1 [] 0 := by
  unfold bindAttributes
  refine List.foldlRecOn (motive := fun acc : Session × Option String => Feeds s acc.1 [] 0) _ _
    (Feeds.refl s) ?_
  intro ⟨t, o⟩ ht ⟨name, value⟩ _
  cases o with
  | some m => exact ht
  | none =>
    dsimp only
    split
    · exact ht
    · have hr := ht.trans (feeds_resolve t scope (some value) b)
      rcases hres : t.resolve scope (some value) b with ⟨r, t'⟩
      rw [hres] at hr
      dsimp only
      have hset : ∀ name' text, Feeds t' { t' with forest := t'.forest.setAttr e name' text } [] 0 :=
        fun _ _ => feeds_of_eq rfl rfl rfl rfl rfl rfl rfl
      split
      · split
        · split
          · exact hr.trans_nil (hset _ _)
          · exact hr
        · exact hr
      · exact hr

theorem feeds_taskFailed (s : Session) (e : NodeId) (m : String) :
    Feeds s (s.taskFailed e m) [] 1 := by
  refine ⟨by simp [taskFailed, absorb], rfl, by simp [taskFailed, absorb],
    by simp [taskFailed, absorb], rfl, rfl, ?_⟩
  simp [taskProblems_eq, taskFailed, absorb, Array.countP_append, Problem.isTask]
  omega

theorem feeds_enqueue (s : Session) (task : Task) : Feeds s (s.enqueue task) [task] 0 := by
  unfold enqueue
  dsimp only
  split
  · rename_i h
    have h₁ : min 1 s.idle = 1 := by omega
    exact ⟨by simp, rfl, by simp [h₁], by simp [h₁], rfl, rfl, rfl⟩
  · rename_i h
    have h₀ : s.idle = 0 := by omega
    exact ⟨by simp, rfl, by simp [h₀], by simp [h₀], rfl, rfl, rfl⟩

theorem feeds_prepare {s t : Session} {parent : NodeId} (h : s.prepare parent = .ok t) :
    Feeds s t [] 0 := by
  unfold prepare at h
  split at h
  · split at h
    · rename_i n f ps ha
      cases h
      have hc := countP_applyTemplates ha
      refine feeds_of_problems rfl rfl rfl rfl rfl rfl ?_ rfl rfl
      simp only at hc
      simp [Array.countP_append, hc]
    · cases h
  · cases h
    exact Feeds.refl s

theorem feeds_wrapScope (s : Session) (scope : Nat) : Feeds s (s.wrapScope scope) [] 0 := by
  unfold wrapScope
  split
  · rename_i n _
    have h := NodeTable.problems_wrapWithin s.forest.depthBound s.forest s.table n
    unfold NodeTable.wrapTexts
    rcases hw : NodeTable.wrapWithin s.forest s.table s.forest.depthBound n with ⟨_, t, f⟩
    rw [hw] at h
    exact (feeds_of_problems (s := s) (t := { s with table := t, forest := f }) rfl rfl rfl rfl rfl rfl rfl rfl
      (by rw [← h])).absorb
  · exact Feeds.refl s

theorem feeds_enqueueChildren (s : Session) (parent : NodeId) (scope : Nat) :
    Feeds s (s.enqueueChildren parent scope) ((s.forest.children parent).map (⟨·, scope⟩)) 0 := by
  unfold enqueueChildren
  suffices h : ∀ (cs : List NodeId) (t : Session), Feeds t (cs.foldl (fun s c => s.enqueue ⟨c, scope⟩) t)
      (cs.map (⟨·, scope⟩)) 0 from h _ s
  intro cs
  induction cs with
  | nil => exact Feeds.refl
  | cons c cs ih =>
    intro t
    exact (feeds_enqueue t ⟨c, scope⟩).trans (ih _)

theorem feeds_unwrapElement (s : Session) (e : NodeId) : Feeds s (s.unwrapElement e) [] 0 :=
  feeds_of_eq rfl rfl rfl rfl rfl rfl rfl

theorem feeds_queueChildren (s : Session) (parent : NodeId) (scope : Nat) (options : List String) :
    ∃ ts, Feeds s (s.queueChildren parent scope options) ts 0 := by
  unfold queueChildren
  have h₁ := feeds_ite (c := options.contains "texts" = true) (feeds_wrapScope s scope) (Feeds.refl s)
  have h₂ := h₁.nil_trans (feeds_enqueueChildren _ parent scope)
  exact ⟨_, feeds_ite (h₂.trans_nil (feeds_unwrapElement _ parent)) h₂⟩

theorem feeds_scheduleOne {s t : Session} {parent : NodeId} {scope : Nat}
    (h : s.scheduleOne parent scope = .ok t) : ∃ ts, Feeds s t ts 0 := by
  unfold scheduleOne at h
  split at h
  · cases h
    exact ⟨[], Feeds.refl s⟩
  · rcases hp : s.prepare parent with _ | u
    · rw [hp] at h
      cases h
    · rw [hp] at h
      cases h
      obtain ⟨ts, hq⟩ := feeds_queueChildren u parent scope (optionWords s.forest parent)
      exact ⟨ts, (feeds_prepare hp).nil_trans hq⟩

theorem feeds_scheduleSteps (e : NodeId) :
    ∀ (s : Session) (steps : List (NodeId × Nat)),
      ∃ ts k, k ≤ 1 ∧ Feeds s (s.scheduleSteps e steps) ts k
  | s, [] => ⟨[], 0, Nat.zero_le 1, Feeds.refl s⟩
  | s, (parent, scope) :: rest => by
    unfold scheduleSteps
    rcases h : s.scheduleOne parent scope with err | t
    · exact ⟨[], 1, le_refl 1, feeds_taskFailed s e _⟩
    · obtain ⟨ts, h₁⟩ := feeds_scheduleOne h
      obtain ⟨us, k, hk, h₂⟩ := feeds_scheduleSteps e t rest
      exact ⟨ts ++ us, k, hk, by simpa using h₁.trans h₂⟩

theorem feeds_schedule (s : Session) (e : NodeId) (steps : List (NodeId × Nat)) :
    ∃ ts k, k ≤ 1 ∧ Feeds s (s.schedule e steps) ts k := by
  unfold schedule
  have h₀ : Feeds s (if s.table.isTemplate e then s.remove e else s) [] 0 :=
    feeds_ite (feeds_remove s e) (Feeds.refl s)
  obtain ⟨ts, k, hk, h⟩ := feeds_scheduleSteps e (if s.table.isTemplate e then s.remove e else s) steps
  exact ⟨ts, k, hk, h₀.nil_trans h⟩

theorem feeds_cloneElement (s : Session) (e : NodeId) : Feeds s (s.cloneElement e).2 [] 0 := by
  have h := NodeTable.countP_clone s.table s.forest e
  unfold cloneElement
  rcases hc : s.table.clone s.forest e with ⟨c, t, f⟩
  rw [hc] at h
  exact (feeds_of_problems (s := s) (t := { s with table := t, forest := f }) rfl rfl rfl rfl rfl
    rfl rfl rfl h).absorb

theorem feeds_cloneAfter (s : Session) (e ref : NodeId) : Feeds s (s.cloneAfter e ref).2 [] 0 := by
  have h := NodeTable.countP_cloneAfter s.table s.forest e ref
  unfold cloneAfter
  rcases hc : s.table.cloneAfter s.forest e ref with ⟨c, t, f⟩
  rw [hc] at h
  exact (feeds_of_problems (s := s) (t := { s with table := t, forest := f }) rfl rfl rfl rfl rfl
    rfl rfl rfl h).absorb

theorem feeds_cloneAll (s : Session) (e : NodeId) (r : Select.ResultSet) :
    Feeds s (s.cloneAll e r).2 [] 0 := by
  unfold cloneAll
  refine List.foldlRecOn (motive := fun acc : List (NodeId × Select.Location) × Session =>
    Feeds s acc.2 [] 0) _ _ (Feeds.refl s) ?_
  intro ⟨clones, t⟩ ht m _
  have hc := feeds_cloneElement t e
  dsimp only at ht ⊢
  split
  · rename_i c t' heq
    rw [heq] at hc
    exact ht.trans_nil hc
  · rename_i t' heq
    rw [heq] at hc
    exact ht.trans_nil hc

theorem feeds_renderClone (s : Session) (copy : NodeId) (m : Select.Location)
    (options : List String) : Feeds s (s.renderClone copy m options).2 [] 0 := by
  unfold renderClone
  dsimp only
  have h := countP_runChain s.forest (s.config.renderers ++ builtinRenderers)
    ⟨copy, m.value, m.textKey?, options, s.config.debug⟩
  generalize runChain s.forest (s.config.renderers ++ builtinRenderers)
    ⟨copy, m.value, m.textKey?, options, s.config.debug⟩ = out at h ⊢
  rcases out with ⟨step, f, ps⟩
  dsimp only at h
  refine feeds_of_problems rfl rfl rfl rfl rfl rfl ?_ rfl rfl
  simp [Array.countP_append, h]

theorem feeds_continueClone_go (e : NodeId) (scope : Nat) (options : List String)
    (m : Select.Location) (same isList : Bool) :
    ∀ (items : List Value) (index : Nat) (target : NodeId) (s : Session)
      (acc : List (NodeId × Nat)),
      Feeds s (continueClone.go e scope options m same isList items index target s acc).2 [] 0
  | [], _, _, s, _ => by
    unfold continueClone.go
    exact Feeds.refl s
  | item :: rest, index, target, s, acc => by
    unfold continueClone.go
    have hp : Feeds s (if index = 0 then (some target, s) else s.cloneAfter e target).2 [] 0 := by
      split
      · exact Feeds.refl s
      · exact feeds_cloneAfter s e target
    dsimp only
    rcases hpl : (if index = 0 then (some target, s) else s.cloneAfter e target) with
      ⟨_ | target', s'⟩ <;> rw [hpl] at hp
    · exact hp
    · dsimp only
      split
      · exact hp.trans_nil (feeds_continueClone_go e scope options m same isList rest _ _ _ _)
      · have hs : Feeds s' { s' with scopes := (s'.scopes.child scope
            (if (!isList && same) = true then m else m.withValue item)).2 } [] 0 :=
          feeds_of_eq rfl rfl rfl rfl rfl rfl rfl
        exact hp.trans_nil (hs.trans_nil
          (feeds_continueClone_go e scope options m same isList rest _ _ _ _))

theorem feeds_continueClone (e : NodeId) (scope : Nat) (options : List String) (s : Session)
    (copy : NodeId) (m : Select.Location) (step : RenderStep) :
    Feeds s (continueClone e scope options s copy m step).2 [] 0 := by
  unfold continueClone
  split
  · exact feeds_of_eq rfl rfl rfl rfl rfl rfl rfl
  · split
    rename_i value same _
    split
    rename_i items isList _
    split
    · exact feeds_remove s copy
    · exact feeds_continueClone_go e scope options m same isList items 0 copy s []

theorem feeds_finishExpansion (s : Session) (x : Expansion) :
    ∃ ts k, k ≤ 1 ∧ Feeds s (s.finishExpansion x) ts k := by
  unfold finishExpansion
  split
  rename_i steps s' heq
  have h₁ : Feeds s (steps, s').2 [] 0 := by
    rw [← heq]
    refine List.foldlRecOn (motive := fun acc : List (NodeId × Nat) × Session => Feeds s acc.2 [] 0)
      _ _ (Feeds.refl s) ?_
    intro acc hacc ⟨⟨c, m⟩, step⟩ _
    exact hacc.trans_nil (feeds_continueClone _ _ _ acc.2 c m step)
  obtain ⟨ts, k, hk, h₂⟩ := feeds_schedule s' x.element steps
  exact ⟨ts, k, hk, h₁.nil_trans h₂⟩

theorem feeds_condition (s : Session) (e : NodeId) (name : String) (scope : Nat) (b : Bool)
    (drops : Select.ResultSet → Bool) : Feeds s (s.condition e name scope b drops).2 [] 0 := by
  unfold condition
  split
  · rename_i expr _
    have h := feeds_resolve s scope (some expr) b
    rcases hr : s.resolve scope (some expr) b with ⟨r, t⟩
    rw [hr] at h
    exact h
  · exact Feeds.refl s

theorem feeds_compressNode (s : Session) (n : NodeId) : Feeds s (s.compressNode n).2 [] 0 := by
  unfold compressNode
  split
  · exact Feeds.refl s
  · rcases compress s.forest n with ⟨n', f⟩
    exact feeds_of_eq rfl rfl rfl rfl rfl rfl rfl

end Parts

/-! ## A task -/

/-- A `data-is` that made clones, from `s` to `t`: its worker waits for a new expansion, whose
renderer chains become ready; nothing is queued, no worker woken and no task problem
recorded. -/
structure Waits (s t : Session) : Prop where
  queue : t.queue = s.queue
  next : t.next = s.next
  idle : t.idle = s.idle
  ready : ∃ R : List Wakeup, t.ready.toList = s.ready.toList ++ R ∧ R.countP Wakeup.wakes = 0
  nextReady : t.nextReady = s.nextReady
  unstarted : t.unstarted = s.unstarted
  concurrency : t.config.concurrency = s.config.concurrency
  running : t.running = false
  expansions : t.expansions.size = s.expansions.size + 1
  tasks : t.taskProblems = s.taskProblems

theorem Waits.of_feeds {s t u : Session} (h₁ : Feeds s t [] 0) (h₂ : Waits t u) : Waits s u := by
  have hq : t.queue = s.queue := Array.toList_inj.mp (by simpa using h₁.queue)
  obtain ⟨R, hR, hw⟩ := h₂.ready
  refine ⟨h₂.queue.trans hq, h₂.next.trans h₁.next, by rw [h₂.idle, h₁.idle]; simp,
    ⟨R, by rw [hR, h₁.ready]; simp, hw⟩, h₂.nextReady.trans h₁.nextReady,
    h₂.unstarted.trans (congrArg Workers.unstarted h₁.workers),
    h₂.concurrency.trans (congrArg Workers.concurrency h₁.workers), h₂.running, ?_,
    h₂.tasks.trans (by simpa using h₁.tasks)⟩
  rw [h₂.expansions, expansions_eq_of_workers h₁.workers]

theorem expand_feeds_or_waits (s : Session) (e : NodeId) (scope : Nat) (r : Select.ResultSet)
    (options : List String) :
    (∃ ts k, k ≤ 1 ∧ Feeds s (s.expand e scope r options) ts k) ∨
      Waits s (s.expand e scope r options) := by
  have h := feeds_cloneAll s e r
  unfold expand
  rcases hc : s.cloneAll e r with ⟨clones, s'⟩
  rw [hc] at h
  dsimp only at h ⊢
  split
  · obtain ⟨ts, k, hk, h₂⟩ := feeds_schedule s' e []
    exact Or.inl ⟨ts, k, hk, h.nil_trans h₂⟩
  · -- the chains of the clones are all the work that becomes ready
    refine Or.inr (Waits.of_feeds h ⟨rfl, rfl, rfl,
      ⟨(List.range clones.length).map (Wakeup.render s'.expansions.size), by simp, ?_⟩,
      rfl, rfl, rfl, rfl, by simp, rfl⟩)
    simp [List.countP_map, Function.comp_def, Wakeup.wakes]

theorem applyConditions_feeds_or_waits (s : Session) (e : NodeId) (scope : Nat)
    (options : List String) (b : Bool) :
    (∃ ts k, k ≤ 1 ∧ Feeds s (s.applyConditions e scope options b) ts k) ∨
      Waits s (s.applyConditions e scope options b) := by
  unfold applyConditions
  have h₁ := feeds_condition s e notName scope b (·.size > 0)
  rcases hc₁ : s.condition e notName scope b (·.size > 0) with ⟨_ | _, s₁⟩ <;>
    rw [hc₁] at h₁ <;> dsimp only at h₁ ⊢
  · have h₂ := feeds_condition s₁ e ifName scope b (·.size = 0)
    rcases hc₂ : s₁.condition e ifName scope b (·.size = 0) with ⟨_ | _, s₂⟩ <;>
      rw [hc₂] at h₂ <;> dsimp only at h₂ ⊢
    · split
      · rename_i expr _
        have h₃ := feeds_resolve s₂ scope (some expr) b
        rcases hr : s₂.resolve scope (some expr) b with ⟨r, s₃⟩
        rw [hr] at h₃
        have h₀ := (h₁.trans_nil h₂).trans_nil h₃
        dsimp only
        split
        · exact Or.inl ⟨[], 0, Nat.zero_le 1, h₀.trans_nil (feeds_remove s₃ e)⟩
        · rcases expand_feeds_or_waits s₃ e scope r options with ⟨ts, k, hk, h⟩ | h
          · exact Or.inl ⟨ts, k, hk, h₀.nil_trans h⟩
          · exact Or.inr (h.of_feeds h₀)
      · obtain ⟨ts, k, hk, h⟩ := feeds_schedule s₂ e [(e, scope)]
        exact Or.inl ⟨ts, k, hk, (h₁.trans_nil h₂).nil_trans h⟩
    · exact Or.inl ⟨[], 0, Nat.zero_le 1, (h₁.trans_nil h₂).trans_nil (feeds_remove s₂ e)⟩
  · exact Or.inl ⟨[], 0, Nat.zero_le 1, h₁.trans_nil (feeds_remove s₁ e)⟩

/-- A task feeds the queue and records at most one task problem, its failure, unless a `data-is`
makes its worker wait. -/
theorem process_feeds_or_waits (s : Session) (task : Task) :
    (∃ ts k, k ≤ 1 ∧ Feeds s (s.process task) ts k) ∨ Waits s (s.process task) := by
  unfold process
  have h₀ := feeds_compressNode s task.node
  rcases hc : s.compressNode task.node with ⟨_ | e, s₁⟩ <;> rw [hc] at h₀ <;> dsimp only
  · exact Or.inl ⟨[], 0, Nat.zero_le 1, h₀⟩
  · split
    · -- a node that is not an element has its children queued
      obtain ⟨ts, k, hk, h⟩ := feeds_schedule s₁ e [(e, task.scope)]
      exact Or.inl ⟨ts, k, hk, h₀.nil_trans h⟩
    · split
      · -- a template is skipped
        exact Or.inl ⟨[], 0, Nat.zero_le 1, h₀⟩
      · have h₂ := h₀.trans_nil (feeds_assignVariables s₁ e task.scope
          ((optionWords s₁.forest e).contains "self"))
        have h₃ := feeds_bindAttributes (s₁.assignVariables e task.scope
          ((optionWords s₁.forest e).contains "self")) e task.scope
          ((optionWords s₁.forest e).contains "self")
        split
        · -- binding an attribute failed the task
          rename_i s₃ m hb
          rw [hb] at h₃
          exact Or.inl ⟨[], 1, le_refl 1,
            (h₂.trans_nil h₃).nil_trans (feeds_taskFailed s₃ task.node m)⟩
        · rename_i s₃ hb
          rw [hb] at h₃
          rcases applyConditions_feeds_or_waits s₃ e task.scope (optionWords s₁.forest e)
            ((optionWords s₁.forest e).contains "self") with ⟨ts, k, hk, h⟩ | h
          · exact Or.inl ⟨ts, k, hk, (h₂.trans_nil h₃).nil_trans h⟩
          · exact Or.inr (h.of_feeds (h₂.trans_nil h₃))

end Session

end Stencil.Template

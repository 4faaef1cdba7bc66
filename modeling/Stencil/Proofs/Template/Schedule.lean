import Mathlib
import Stencil.Proofs.Template.Workers
/-!
# Renderings that do not depend on their schedule

With any number of workers, a rendering in which no `data-is` clones is done by the first worker
to start: the others start only once the queue is empty, and then stop at once
(`Session.Follows`). So every interleaving of such a rendering that runs to its end leaves the
document and the problems of the rendering with one worker (`render_independent_of_schedule`).
A `data-is` that clones makes its worker wait for the renderer chains, and meanwhile the other
workers take the tasks queued after it: a variable may then be assigned before the task that
reads it or after it, depending on the number of workers (`render_depends_on_worker_count`).
-/

namespace Stencil.Template

open Stencil.Markup

namespace Session

/-! ## Runs

`Session.drain` follows the steps of a rendering until none is left; its runs are the
interleavings where work goes in order of readiness. -/

theorem drain_of_step_eq_none {s : Session} (h : s.step = none) (n : Nat) : s.drain n = s := by
  cases n <;> simp [drain, h]

theorem drain_add (m n : Nat) (s : Session) : s.drain (m + n) = (s.drain m).drain n := by
  induction m generalizing s with
  | zero => simp [drain]
  | succ m ih =>
    rw [show m + 1 + n = (m + n) + 1 by omega]
    cases h : s.step with
    | none => simp only [drain, h, drain_of_step_eq_none h]
    | some t =>
      simp only [drain, h]
      exact ih t

theorem drain_succ_of_step {s t : Session} {m : Nat} (h : (s.drain m).step = some t) :
    s.drain (m + 1) = t := by
  rw [drain_add]
  simp [drain, h]

theorem drain_eq_of_step_eq_none {s : Session} {m n : Nat} (hm : (s.drain m).step = none)
    (hn : (s.drain n).step = none) : s.drain m = s.drain n := by
  rcases le_total m n with h | h
  · rw [← Nat.add_sub_cancel' h, drain_add, drain_of_step_eq_none hm]
  · rw [← Nat.add_sub_cancel' h, drain_add, drain_of_step_eq_none hn]

theorem expansions_drain_eq_empty {s : Session} {n : Nat} (hn : (s.drain n).step = none)
    (h : (s.drain n).expansions = #[]) (m : Nat) : (s.drain m).expansions = #[] := by
  rcases le_total m n with hmn | hnm
  · have grow := expansions_size_le_drain (n - m) (s.drain m)
    rw [← drain_add, Nat.add_sub_cancel' hmn, h] at grow
    exact Array.eq_empty_of_size_eq_zero (by simpa using grow)
  · rw [← Nat.add_sub_cancel' hnm, drain_add, drain_of_step_eq_none hn, h]

theorem prefer_nextReady (s : Session) : s.prefer s.nextReady = s := by
  have keep : s.ready.swapIfInBounds s.nextReady s.nextReady = s.ready := by
    ext k hk <;> grind
  simp only [prefer, keep]

theorem next_of_step {s t : Session} (h : s.step = some t) : s.Next t :=
  ⟨s.nextReady, le_refl _, by rwa [prefer_nextReady]⟩

theorem prefer_of_ready_eq_empty {s : Session} (h : s.ready = #[]) (j : Nat) : s.prefer j = s := by
  rcases s with ⟨_, _, _, _, _, _, _, _, _, _, _, ready, _, _⟩
  simp only at h
  subst h
  rfl

theorem next_iff_step_of_ready_eq_empty {s t : Session} (h : s.ready = #[]) :
    s.Next t ↔ s.step = some t := by
  constructor
  · rintro ⟨j, -, hj⟩
    rwa [prefer_of_ready_eq_empty h] at hj
  · exact next_of_step

theorem Reaches.head {s t u : Session} (h : s.Next t) (h' : t.Reaches u) : s.Reaches u := by
  induction h' with
  | refl => exact .tail (.refl s) h
  | tail _ hn ih => exact .tail ih hn

theorem reaches_drain (n : Nat) (s : Session) : s.Reaches (s.drain n) := by
  induction n generalizing s with
  | zero => exact .refl s
  | succ n ih =>
    cases h : s.step with
    | none =>
      simp only [drain, h]
      exact .refl s
    | some t =>
      simp only [drain, h]
      exact Reaches.head (next_of_step h) (ih t)

/-! ## Runs with more workers

As long as no `data-is` adds an expansion, a run with `K` workers follows the run with one: the
first worker to start takes every task while the others have not started, and once the queue is
empty they all stop. -/

/-- How a session of a run with `K` workers stands to a session of the run with one worker. -/
inductive Follows (K : Nat) : Session → Session → Prop
  /-- Before the worker starts: the same session, with `K` workers none of which has started. -/
  | unstarted {t : Session} : t.running = false → t.unstarted = 1 → t.next < t.queue.size →
      t.idle = 0 → t.ready = #[] → Follows K t (t.withWorkers ⟨K, K, false, t.expansions, none⟩)
  /-- While the worker runs and none waits: the same session, with `K - 1` workers not started. -/
  | running {t : Session} : t.running = true → t.unstarted = 0 → t.idle = 0 → t.ready = #[] →
      Follows K t (t.withWorkers ⟨K, K - 1, true, t.expansions, none⟩)
  /-- Once the one worker is done: a session with the same document and problems, where no
  worker runs, no work is ready and no task is left. -/
  | finished {t u : Session} : t.step = none → u.running = false → u.ready = #[] →
      u.queue[u.next]? = none → u.forest = t.forest → u.allProblems = t.allProblems → Follows K t u

theorem Follows.ready_eq_empty {K : Nat} {t₁ t : Session} (h : Follows K t₁ t) : t.ready = #[] := by
  cases h with
  | unstarted _ _ _ _ hready => exact hready
  | running _ _ _ hready => exact hready
  | finished _ _ hready => exact hready

theorem follows_start {K : Nat} (hK : 0 < K) {t u : Session} (hr : t.running = false)
    (hu : t.unstarted = 1) (hq : t.next < t.queue.size) (hi : t.idle = 0) (hready : t.ready = #[])
    (hs : (t.withWorkers ⟨K, K, false, t.expansions, none⟩).step = some u) :
    ∃ t', t.step = some t' ∧ Follows K t' u := by
  refine ⟨{ t with unstarted := 0, running := true }, by simp [step, hr, hu, hq], ?_⟩
  have hu' : u = { t with unstarted := 0, running := true }.withWorkers
      ⟨K, K - 1, true, t.expansions, none⟩ := by
    simp only [step, withWorkers_running, withWorkers_unstarted, withWorkers_next, withWorkers_queue,
      hK, hq, Bool.false_eq_true, if_false, if_true, Option.some.injEq] at hs
    rw [← hs]
    rfl
  subst hu'
  exact .running rfl rfl hi hready

theorem follows_running {K : Nat} {t u : Session} (hr : t.running = true) (hu : t.unstarted = 0)
    (hi : t.idle = 0) (hready : t.ready = #[])
    (hgrow : ∀ t', t.step = some t' → t'.expansions = #[])
    (hs : (t.withWorkers ⟨K, K - 1, true, t.expansions, none⟩).step = some u) :
    ∃ t', t.step = some t' ∧ Follows K t' u := by
  have hs' : (t.withWorkers ⟨K, K - 1, true, t.expansions, none⟩).takeTask = u := by
    simpa [step] using hs
  cases hqt : t.queue[t.next]? with
  | none =>
    refine ⟨{ t with running := false, idle := t.idle + 1 }, by simp [step, hr, takeTask, hqt], ?_⟩
    have hu' : u = { t.withWorkers ⟨K, K - 1, true, t.expansions, none⟩ with
        running := false, idle := t.idle + 1 } := by
      rw [← hs']
      simp [takeTask, hqt]
    subst hu'
    exact .finished (by simp [step, hu, hready]) rfl hready hqt rfl rfl
  | some task =>
    have ht' : t.step = some ({ t with next := t.next + 1 }.process task) := by
      simp [step, hr, takeTask, hqt]
    -- the task adds no expansion, so it is done the same way whatever the workers are
    have ho : Oblivious (·.process task) { t with next := t.next + 1 } := by
      refine (process_oblivious_or_grows _ task).resolve_right fun hg => ?_
      simp [hgrow _ ht'] at hg
    have frame := ho.workers_eq
    obtain ⟨hi', hready'⟩ := ho.settled hi
    refine ⟨_, ht', ?_⟩
    have hu' : u = ({ t with next := t.next + 1 }.process task).withWorkers
        ⟨K, K - 1, true, ({ t with next := t.next + 1 }.process task).expansions, none⟩ := by
      rw [← hs', expansions_eq_of_workers frame]
      simp only [takeTask, withWorkers_queue, withWorkers_next, hqt]
      exact ho _
    subst hu'
    exact .running ((running_eq_of_workers frame).trans hr)
      ((congrArg Workers.unstarted frame).trans hu) hi' (hready'.trans hready)

theorem follows_finished {K : Nat} {t u v : Session} (hstep : t.step = none)
    (hr : u.running = false) (hready : u.ready = #[]) (hq : u.queue[u.next]? = none)
    (hf : u.forest = t.forest) (hp : u.allProblems = t.allProblems) (hs : u.step = some v) :
    Follows K t v := by
  have hnext : ¬ u.next < u.queue.size := by simpa using hq
  simp only [step, hr, Bool.false_eq_true, if_false, hnext, hready] at hs
  split at hs
  · cases hs
    exact .finished hstep rfl rfl hq hf hp
  · simp at hs

theorem Follows.next {K : Nat} (hK : 0 < K) {t₁ t u : Session} (hf : Follows K t₁ t)
    (hgrow : ∀ t', t₁.step = some t' → t'.expansions = #[]) (hn : t.Next u) :
    ∃ t₁', (t₁' = t₁ ∨ t₁.step = some t₁') ∧ Follows K t₁' u := by
  rw [next_iff_step_of_ready_eq_empty hf.ready_eq_empty] at hn
  cases hf with
  | unstarted hr hu hq hi hready =>
    obtain ⟨t', h, h'⟩ := follows_start hK hr hu hq hi hready hn
    exact ⟨t', .inr h, h'⟩
  | running hr hu hi hready =>
    obtain ⟨t', h, h'⟩ := follows_running hr hu hi hready hgrow hn
    exact ⟨t', .inr h, h'⟩
  | finished hstep hr hready hq hforest hp =>
    exact ⟨_, .inl rfl, follows_finished hstep hr hready hq hforest hp hn⟩

theorem Follows.reaches {K : Nat} (hK : 0 < K) {s₁ sK t : Session}
    (hquiet : ∀ m, (s₁.drain m).expansions = #[]) (h₀ : Follows K s₁ sK) (ht : sK.Reaches t) :
    ∃ m, Follows K (s₁.drain m) t := by
  induction ht with
  | refl => exact ⟨0, h₀⟩
  | tail _ hn ih =>
    obtain ⟨m, hm⟩ := ih
    have hgrow : ∀ t', (s₁.drain m).step = some t' → t'.expansions = #[] := fun t' h => by
      rw [← drain_succ_of_step h]
      exact hquiet _
    obtain ⟨t₁', h | h, hf⟩ := hm.next hK hgrow hn
    · subst h
      exact ⟨m, hf⟩
    · exact ⟨m + 1, by rw [drain_succ_of_step h]; exact hf⟩

theorem Follows.done {K : Nat} (hK : 0 < K) {t₁ t : Session} (hf : Follows K t₁ t)
    (hend : t.step = none) : t₁.step = none ∧ t.forest = t₁.forest ∧ t.allProblems = t₁.allProblems := by
  cases hf with
  | unstarted _ _ hq _ _ => simp [step, hK, hq] at hend
  | running _ _ _ _ => simp [step] at hend
  | finished hstep _ _ _ hforest hp => exact ⟨hstep, hforest, hp⟩

end Session

theorem Session.start_concurrency (f : Forest) (target : NodeId) (data : Value)
    (config : RenderConfig) (K : Nat) :
    Session.start f target data { config with concurrency := K } =
      (Session.start f target data { config with concurrency := 1 }).withWorkers
        ⟨K, K, false, #[], none⟩ := rfl

/-- Without a `data-is` that clones, a rendering does not depend on its schedule: when the
rendering with one worker ends with no expansion, every interleaving of the work of any number
of workers that comes to its end leaves the same document and the same problems. -/
theorem render_independent_of_schedule (f : Forest) (target : NodeId) (data : Value)
    (config : RenderConfig) {K : Nat} (hK : 0 < K)
    (hdone : (renderTemplate f target data { config with concurrency := 1 }).step = none)
    (hquiet : (renderTemplate f target data { config with concurrency := 1 }).expansions = #[])
    {t : Session} (ht : (Session.start f target data { config with concurrency := K }).Reaches t)
    (hend : t.step = none) :
    t.forest = (renderTemplate f target data { config with concurrency := 1 }).forest ∧
      t.allProblems = (renderTemplate f target data { config with concurrency := 1 }).allProblems := by
  set s₁ := Session.start f target data { config with concurrency := 1 }
  have h₀ : Session.Follows K s₁ (Session.start f target data { config with concurrency := K }) := by
    rw [Session.start_concurrency]
    exact .unstarted rfl rfl (by simp [s₁, Session.start]) rfl rfl
  obtain ⟨m, hm⟩ := h₀.reaches hK (Session.expansions_drain_eq_empty hdone hquiet) ht
  obtain ⟨hstep, hforest, hp⟩ := hm.done hK hend
  have same : s₁.drain m = renderTemplate f target data { config with concurrency := 1 } :=
    Session.drain_eq_of_step_eq_none hstep hdone
  rw [← same]
  exact ⟨hforest, hp⟩

def paragraphForest : Forest := ⟨#[
  ⟨.document, none, #[⟨1⟩]⟩,
  ⟨.element "p" [] true, some ⟨0⟩, #[⟨2⟩]⟩,
  ⟨.string .text "x", some ⟨1⟩, #[]⟩]⟩

-- a paragraph is rendered by one worker with no expansion, and by two as by one
set_option maxRecDepth 2000 in
example :
    (renderTemplate paragraphForest ⟨0⟩ .null { RenderConfig.default with concurrency := 1 }).step
        = none ∧
      (renderTemplate paragraphForest ⟨0⟩ .null
        { RenderConfig.default with concurrency := 1 }).expansions = #[] ∧
      (renderTemplate paragraphForest ⟨0⟩ .null { RenderConfig.default with concurrency := 2 }).forest
        = (renderTemplate paragraphForest ⟨0⟩ .null
          { RenderConfig.default with concurrency := 1 }).forest := by
  have one : ((renderTemplate paragraphForest ⟨0⟩ .null
      { RenderConfig.default with concurrency := 1 }).step.isNone &&
      (renderTemplate paragraphForest ⟨0⟩ .null
        { RenderConfig.default with concurrency := 1 }).expansions.isEmpty) = true := by
    cbv
  simp only [Bool.and_eq_true, Option.isNone_iff_eq_none, Array.isEmpty_iff] at one
  have two : (renderTemplate paragraphForest ⟨0⟩ .null
      { RenderConfig.default with concurrency := 2 }).step = none := by
    cbv
  exact ⟨one.1, one.2, (render_independent_of_schedule paragraphForest ⟨0⟩ .null RenderConfig.default
    (by decide) one.1 one.2 (Session.reaches_drain _ _) two).1⟩

/-- `<div><ul data-is="*"><li data-if="$x">seen</li></ul><section><i data-$x="*"></i></section></div>`:
the `<li>` of the list's clone reads `$x`, which the `<i>` assigns. -/
def lateVariableForest : Forest := ⟨#[
  ⟨.document, none, #[⟨1⟩]⟩,
  ⟨.element "div" [] true, some ⟨0⟩, #[⟨2⟩, ⟨5⟩]⟩,
  ⟨.element "ul" [("data-is", "*")] true, some ⟨1⟩, #[⟨3⟩]⟩,
  ⟨.element "li" [("data-if", "$x")] true, some ⟨2⟩, #[⟨4⟩]⟩,
  ⟨.string .text "seen", some ⟨3⟩, #[]⟩,
  ⟨.element "section" [] true, some ⟨1⟩, #[⟨6⟩]⟩,
  ⟨.element "i" [("data-$x", "*")] true, some ⟨5⟩, #[]⟩]⟩

end Stencil.Template

import Mathlib
import Stencil.Proofs.Template.Drain
import Stencil.Proofs.Template.Feeds
import Stencil.Proofs.Template.Placeholders
/-!
# Draining the queue

The `concurrency` workers of a rendering are always accounted for (`Session.Staffed`): each has
not started, waits for a task, runs, has been woken and waits for its turn, or waits for the
renderer chains of its expansion. While a worker waits for a task, every task in the queue has
been taken or will be, by the worker that runs or by one woken. Every step of every interleaving
keeps this (`Session.staffed_next`), so when no work is left every worker waits for a task, and
then every task queued has been taken: `rendering_takes_every_task`.

The processor is also a handler of the task queue of `Stencil.Template.TaskQueue`: each of its
slices leaves the tasks it puts at the end of the session's queue (`Session.processor_mirrors`),
so once `join` returns every task the session queued has been handed out once and its run ended
(`processor_takes_every_task`).
-/

namespace Stencil.Template

open Stencil.Markup

namespace Session

def woken (s : Session) : Nat := s.pending.countP Wakeup.wakes

def suspended (s : Session) : Nat :=
  ((Finset.range s.expansions.size).filter fun n => s.ran.countP (Wakeup.resumes n) = 0).card

/-- The `K` workers of a session accounted for: each has not started, waits for a task, runs,
has been woken, or waits for an expansion; while one waits for a task, every task queued has
been taken or will be by the worker running or one woken; and no task is taken before it is
queued. -/
structure Staffed (K : Nat) (s : Session) : Prop where
  workers : s.unstarted + s.idle + s.running.toNat + s.woken + s.suspended = K
  waiting : 0 < s.idle → s.queue.size ≤ s.next + s.woken + s.running.toNat
  next_le : s.next ≤ s.queue.size

/-! ## Counting workers -/

section Counts

variable {s t : Session}

theorem ran_pending_of_append (hle : s.nextReady ≤ s.ready.size) {R : List Wakeup}
    (hr : t.ready.toList = s.ready.toList ++ R) (hn : t.nextReady = s.nextReady) :
    t.ran = s.ran ∧ t.pending = s.pending ++ R := by
  have hlen : s.nextReady ≤ s.ready.toList.length := by simpa using hle
  exact ⟨by rw [ran, ran, hr, hn, take_append_ready hlen],
    by rw [pending, pending, hr, hn, drop_append_ready hlen]⟩

theorem suspended_of_ran (hran : t.ran = s.ran) (he : t.expansions.size = s.expansions.size) :
    t.suspended = s.suspended := by
  simp only [suspended, hran, he]

theorem suspended_of_ran_append {w : Wakeup} (hran : t.ran = s.ran ++ [w])
    (he : t.expansions.size = s.expansions.size)
    (hw : ∀ n < s.expansions.size, w.resumes n = false) : t.suspended = s.suspended := by
  unfold suspended
  rw [hran, he]
  congr 1
  refine Finset.filter_congr fun n hn => ?_
  simp [List.countP_append, hw n (Finset.mem_range.mp hn)]

theorem suspended_resume {n : Nat} (hran : t.ran = s.ran ++ [.resume n])
    (he : t.expansions.size = s.expansions.size) (hn : n < s.expansions.size)
    (hnr : s.ran.countP (Wakeup.resumes n) = 0) : t.suspended + 1 = s.suspended := by
  unfold suspended
  rw [hran, he]
  have hmem : n ∈ (Finset.range s.expansions.size).filter
      fun m => s.ran.countP (Wakeup.resumes m) = 0 :=
    Finset.mem_filter.mpr ⟨Finset.mem_range.mpr hn, hnr⟩
  -- the expansion resumed leaves the suspended ones, the others stay as they were
  have herase : (Finset.range s.expansions.size).filter
      (fun m => (s.ran ++ [Wakeup.resume n]).countP (Wakeup.resumes m) = 0) =
      ((Finset.range s.expansions.size).filter
        fun m => s.ran.countP (Wakeup.resumes m) = 0).erase n := by
    ext m
    by_cases hm : m = n
    · subst hm
      simp [List.countP_append, Wakeup.resumes]
    · simp [List.countP_append, Wakeup.resumes, hm, Ne.symm hm]
  rw [herase, Finset.card_erase_of_mem hmem]
  have := Finset.card_pos.mpr ⟨n, hmem⟩
  omega

theorem Feeds.counts (hle : s.nextReady ≤ s.ready.size) {ts : List Task} {k : Nat}
    (h : Feeds s t ts k) : t.woken = s.woken + min ts.length s.idle ∧ t.suspended = s.suspended := by
  obtain ⟨hran, hpend⟩ := ran_pending_of_append hle h.ready h.nextReady
  refine ⟨?_, suspended_of_ran hran (by rw [expansions_eq_of_workers h.workers])⟩
  simp [woken, hpend, List.countP_append, List.countP_replicate, Wakeup.wakes]

theorem Feeds.nextReady_le (hle : s.nextReady ≤ s.ready.size) {ts : List Task} {k : Nat}
    (h : Feeds s t ts k) : t.nextReady ≤ t.ready.size := by
  have := congrArg List.length h.ready
  simp only [Array.length_toList, List.length_append] at this
  rw [h.nextReady]
  omega

theorem Feeds.waiting (hle : s.nextReady ≤ s.ready.size) {ts : List Task} {k : Nat}
    (h : Feeds s t ts k) {r : Nat} (hw : 0 < s.idle → s.queue.size ≤ s.next + s.woken + r) :
    0 < t.idle → t.queue.size ≤ t.next + t.woken + r := by
  intro hidle
  have hq := congrArg List.length h.queue
  simp only [Array.length_toList, List.length_append] at hq
  have hi := h.idle
  have hwk := (h.counts hle).1
  have := hw (by omega)
  rw [hq, h.next, hwk]
  omega

theorem Staffed.feeds {K : Nat} (hK : Staffed K s) (hle : s.nextReady ≤ s.ready.size)
    {ts : List Task} {k : Nat} (h : Feeds s t ts k) : Staffed K t := by
  obtain ⟨hwk, hsus⟩ := h.counts hle
  have hu : t.unstarted = s.unstarted := congrArg Workers.unstarted h.workers
  have hr := running_eq_of_workers h.workers
  have hi := h.idle
  have hq := congrArg List.length h.queue
  simp only [Array.length_toList, List.length_append] at hq
  refine ⟨?_, ?_, ?_⟩
  · have := hK.workers
    rw [hu, hr, hwk, hsus, hi]
    omega
  · rw [hr]
    exact h.waiting hle hK.waiting
  · have := hK.next_le
    rw [h.next]
    omega

theorem Waits.counts (hs : s.Sound) (h : Waits s t) :
    t.woken = s.woken ∧ t.suspended = s.suspended + 1 := by
  obtain ⟨R, hR, hwk⟩ := h.ready
  obtain ⟨hran, hpend⟩ := ran_pending_of_append hs.nextReady_le hR h.nextReady
  refine ⟨by rw [woken, woken, hpend, List.countP_append, hwk, Nat.add_zero], ?_⟩
  have hnew : s.ran.countP (Wakeup.resumes s.expansions.size) = 0 :=
    Nat.eq_zero_of_le_zero ((List.take_sublist _ _).countP_le.trans_eq (hs.unknown _ le_rfl).2)
  unfold suspended
  rw [h.expansions, Finset.range_add_one, Finset.filter_insert, hran, if_pos hnew,
    Finset.card_insert_of_notMem (by simp)]

end Counts

/-! ## Steps -/

section Steps

variable {K : Nat} {s : Session}

theorem staffed_takeTask (hs : s.Sound) (h : Staffed K s) (hr : s.running = true) :
    Staffed K s.takeTask := by
  have hle : s.nextReady ≤ s.ready.size := hs.nextReady_le
  unfold takeTask
  split
  · rename_i task htask
    have hlt : s.next < s.queue.size := (Array.getElem?_eq_some_iff.mp htask).1
    -- once the task is taken, the tasks queued are taken or will be even if the worker stops
    have hw₁ : 0 < s.idle → s.queue.size ≤ (s.next + 1) + s.woken + 0 := by
      intro hi
      have := h.waiting hi
      simp only [hr, Bool.toNat_true] at this
      omega
    have hwk := h.workers
    simp only [hr, Bool.toNat_true] at hwk
    have h₁ : Staffed K { s with next := s.next + 1 } := by
      refine ⟨h.workers, fun hi => ?_, hlt⟩
      change s.queue.size ≤ (s.next + 1) + s.woken + s.running.toNat
      exact (hw₁ hi).trans (by simp)
    have hs₁ : Sound { s with next := s.next + 1 } := hs.of_eq rfl rfl rfl rfl rfl rfl
    rcases process_feeds_or_waits { s with next := s.next + 1 } task with ⟨ts, k, -, hf⟩ | hw
    · exact h₁.feeds hs₁.nextReady_le hf
    · -- or it waits for the chains of an expansion
      obtain ⟨hwk', hsus⟩ := hw.counts hs₁
      refine ⟨?_, ?_, ?_⟩
      · rw [hw.unstarted, hw.idle, hw.running, hwk', hsus]
        change s.unstarted + s.idle + 0 + s.woken + (s.suspended + 1) = K
        omega
      · intro hi
        rw [hw.queue, hw.next, hwk', hw.running]
        exact hw₁ (by rwa [hw.idle] at hi)
      · rw [hw.queue, hw.next]
        exact hlt
  · -- the queue is empty: the worker waits for a task
    rename_i hnone
    have hge : s.queue.size ≤ s.next := Array.getElem?_eq_none_iff.mp hnone
    refine ⟨?_, fun _ => ?_, h.next_le⟩
    · have := h.workers
      simp only [hr, Bool.toNat_true] at this
      change s.unstarted + (s.idle + 1) + 0 + s.woken + s.suspended = K
      omega
    · change s.queue.size ≤ s.next + s.woken + 0
      omega

theorem staffed_start_one (h : Staffed K s) (hr : s.running = false) (hu : 0 < s.unstarted) :
    Staffed K { s with unstarted := s.unstarted - 1, running := true } := by
  have hwk := h.workers
  rw [hr, Bool.toNat_false] at hwk
  refine ⟨?_, fun hi => ?_, h.next_le⟩
  · change s.unstarted - 1 + s.idle + 1 + s.woken + s.suspended = K
    omega
  · have := h.waiting hi
    rw [hr, Bool.toNat_false] at this
    change s.queue.size ≤ s.next + s.woken + 1
    omega

theorem staffed_start_all (h : Staffed K s) (hr : s.running = false) (hge : s.queue.size ≤ s.next) :
    Staffed K { s with idle := s.idle + s.unstarted, unstarted := 0 } := by
  have hwk := h.workers
  rw [hr, Bool.toNat_false] at hwk
  refine ⟨?_, fun _ => ?_, h.next_le⟩
  · change 0 + (s.idle + s.unstarted) + s.running.toNat + s.woken + s.suspended = K
    rw [hr, Bool.toNat_false]
    omega
  · change s.queue.size ≤ s.next + s.woken + s.running.toNat
    omega

theorem Staffed.prefer (h : Staffed K s) {j : Nat} (hj : s.nextReady ≤ j) :
    Staffed K (s.prefer j) := by
  have hwoken : (s.prefer j).woken = s.woken := (pending_prefer_perm s hj).countP_eq _
  have hsus : (s.prefer j).suspended = s.suspended := suspended_of_ran (ran_prefer s hj) rfl
  exact ⟨by rw [hwoken, hsus]; exact h.workers, by rw [hwoken]; exact h.waiting, h.next_le⟩

end Steps

/-! ## Ready work -/

section Wake

variable {K : Nat} {s : Session} {w : Wakeup}

theorem ran_pending_succ (hw : s.ready[s.nextReady]? = some w) :
    { s with nextReady := s.nextReady + 1 }.ran = s.ran ++ [w] ∧
      s.pending = w :: { s with nextReady := s.nextReady + 1 }.pending := by
  have h := take_succ_ready hw []
  rw [List.append_nil] at h
  exact ⟨h, pending_cons hw⟩

theorem nextReady_succ_le (hw : s.ready[s.nextReady]? = some w) :
    { s with nextReady := s.nextReady + 1 }.nextReady ≤ s.ready.size := by
  simpa using nextReady_lt hw

theorem Staffed.skip (h : Staffed K s) (hw : s.ready[s.nextReady]? = some w)
    (hwk : w.wakes = false) (hres : ∀ n < s.expansions.size, w.resumes n = false) :
    Staffed K { s with nextReady := s.nextReady + 1 } := by
  obtain ⟨hran, hpend⟩ := ran_pending_succ hw
  have hwoken : { s with nextReady := s.nextReady + 1 }.woken = s.woken := by
    rw [woken, woken, hpend, List.countP_cons, hwk]
    rfl
  have hsus := suspended_of_ran_append hran rfl hres
  exact ⟨by rw [hwoken, hsus]; exact h.workers, by rw [hwoken]; exact h.waiting, h.next_le⟩

theorem Staffed.modify (h : Staffed K s) (n : Nat) (g : Expansion → Expansion) :
    Staffed K { s with expansions := s.expansions.modify n g } :=
  ⟨by rw [suspended_of_ran (s := s) (t := { s with expansions := s.expansions.modify n g }) rfl
    (Array.size_modify ..)]; exact h.workers, h.waiting, h.next_le⟩

theorem Staffed.push (h : Staffed K s) (hle : s.nextReady ≤ s.ready.size) (x : Wakeup)
    (hx : x.wakes = false) : Staffed K { s with ready := s.ready.push x } := by
  obtain ⟨hran, hpend⟩ := ran_pending_of_append (t := { s with ready := s.ready.push x }) hle
    (R := [x]) (by simp) rfl
  have hwoken : { s with ready := s.ready.push x }.woken = s.woken := by
    rw [woken, woken, hpend, List.countP_append, List.countP_singleton, hx]
    rfl
  have hsus := suspended_of_ran (s := s) hran rfl
  exact ⟨by rw [hwoken, hsus]; exact h.workers, by rw [hwoken]; exact h.waiting, h.next_le⟩

theorem staffed_wake_take (h : Staffed K s) (hr : s.running = false)
    (hw : s.ready[s.nextReady]? = some .take) :
    Staffed K ({ s with nextReady := s.nextReady + 1 }.wake .take) := by
  obtain ⟨hran, hpend⟩ := ran_pending_succ hw
  have hwoken : s.woken = { s with nextReady := s.nextReady + 1 }.woken + 1 := by
    rw [woken, woken, hpend, List.countP_cons]
    rfl
  have hsus := suspended_of_ran_append hran rfl fun _ _ => rfl
  have hwk := h.workers
  rw [hr, Bool.toNat_false] at hwk
  refine ⟨?_, fun hi => ?_, h.next_le⟩
  · change s.unstarted + s.idle + 1 + { s with nextReady := s.nextReady + 1 }.woken +
      { s with nextReady := s.nextReady + 1 }.suspended = K
    omega
  · have := h.waiting hi
    rw [hr, Bool.toNat_false] at this
    change s.queue.size ≤ s.next + { s with nextReady := s.nextReady + 1 }.woken + 1
    omega

theorem staffed_wake_render (h : Staffed K s) {n i : Nat}
    (hw : s.ready[s.nextReady]? = some (.render n i)) :
    Staffed K ({ s with nextReady := s.nextReady + 1 }.wake (.render n i)) := by
  have h₁ := h.skip hw rfl fun _ _ => rfl
  have hle₁ := nextReady_succ_le hw
  simp only [wake]
  split
  · rename_i x _
    generalize x.clones.getD i (x.element, Select.Location.ofValue .null) = cm
    rcases cm with ⟨c, m⟩
    dsimp only
    have hf := feeds_renderClone { s with nextReady := s.nextReady + 1 } c m x.options
    have h₂ := h₁.feeds hle₁ hf
    have hle₂ := hf.nextReady_le hle₁
    set r := { s with nextReady := s.nextReady + 1 }.renderClone c m x.options
    have h₃ := h₂.modify n fun y => { y with steps := y.steps.setIfInBounds i r.1 }
    exact h₃.push hle₂ (.report n) rfl
  · exact h₁

theorem staffed_wake_report (h : Staffed K s) {n : Nat}
    (hw : s.ready[s.nextReady]? = some (.report n)) :
    Staffed K ({ s with nextReady := s.nextReady + 1 }.wake (.report n)) := by
  have h₁ := h.skip hw rfl fun _ _ => rfl
  have hle₁ := nextReady_succ_le hw
  simp only [wake]
  split
  · have h₂ := h₁.modify n fun x => { x with reported := x.reported + 1 }
    split
    · exact h₂.push hle₁ (.resume n) rfl
    · exact h₂
  · exact h₁

theorem staffed_wake_resume (hs : s.Sound) (h : Staffed K s) (hr : s.running = false) {n : Nat}
    (hw : s.ready[s.nextReady]? = some (.resume n)) :
    Staffed K ({ s with nextReady := s.nextReady + 1 }.wake (.resume n)) := by
  obtain ⟨hran, hpend⟩ := ran_pending_succ hw
  have hle₁ := nextReady_succ_le hw
  set s₁ := { s with nextReady := s.nextReady + 1 } with hs₁
  simp only [wake]
  split
  · rename_i x hx
    have hn : n < s.expansions.size := (Array.getElem?_eq_some_iff.mp hx).1
    -- the expansion is ready to resume once, so it had not resumed
    have hnr : s.ran.countP (Wakeup.resumes n) = 0 := by
      have hres := hs.resumable n x hx
      have hsplit : s.ready.toList.countP (Wakeup.resumes n) =
          s.ran.countP (Wakeup.resumes n) + s.pending.countP (Wakeup.resumes n) := by
        rw [ran, pending, ← List.countP_append, List.take_append_drop]
      rw [hpend, List.countP_cons] at hsplit
      simp only [Wakeup.resumes, beq_self_eq_true, if_true] at hsplit
      split at hres <;> omega
    have hsus : s₁.suspended + 1 = s.suspended := suspended_resume hran rfl hn hnr
    have hwoken : s₁.woken = s.woken := by
      unfold woken
      rw [hpend, List.countP_cons]
      rfl
    obtain ⟨ts, k, -, hf⟩ := feeds_finishExpansion s₁ x
    obtain ⟨hwk, hsus'⟩ := hf.counts hle₁
    have hu : (s₁.finishExpansion x).unstarted = s₁.unstarted :=
      congrArg Workers.unstarted hf.workers
    have hq : (s₁.finishExpansion x).queue.size = s₁.queue.size + ts.length := by
      simpa using congrArg List.length hf.queue
    have hu₁ : s₁.unstarted = s.unstarted := rfl
    have hi₁ : s₁.idle = s.idle := rfl
    have hq₁ : s₁.queue.size = s.queue.size := rfl
    have hn₁ : s₁.next = s.next := rfl
    have hworkers := h.workers
    rw [hr, Bool.toNat_false] at hworkers
    -- the tasks the worker queues are taken by the workers it wakes
    have hwait := hf.waiting hle₁ (r := 0) fun h0 => by
      have := h.waiting h0
      rw [hr, Bool.toNat_false] at this
      rw [hwoken]
      exact this
    refine ⟨?_, fun hi' => ?_, ?_⟩
    · change (s₁.finishExpansion x).unstarted + (s₁.finishExpansion x).idle + 1 +
        (s₁.finishExpansion x).woken + (s₁.finishExpansion x).suspended = K
      rw [hu, hf.idle, hwk, hsus', hwoken]
      omega
    · change (s₁.finishExpansion x).queue.size ≤
        (s₁.finishExpansion x).next + (s₁.finishExpansion x).woken + 1
      have := hwait hi'
      omega
    · change (s₁.finishExpansion x).next ≤ (s₁.finishExpansion x).queue.size
      have := h.next_le
      rw [hf.next, hq]
      omega
  · -- no such expansion: nothing resumes
    rename_i hx
    refine h.skip hw rfl fun m hm => ?_
    have hmn : n ≠ m := fun he => by
      rw [he, Array.getElem?_eq_getElem hm] at hx
      cases hx
    simp [Wakeup.resumes, hmn]

theorem staffed_wake (hs : s.Sound) (h : Staffed K s) (hr : s.running = false)
    (hw : s.ready[s.nextReady]? = some w) :
    Staffed K ({ s with nextReady := s.nextReady + 1 }.wake w) := by
  cases w with
  | take => exact staffed_wake_take h hr hw
  | render n i => exact staffed_wake_render h hw
  | report n => exact staffed_wake_report h hw
  | resume n => exact staffed_wake_resume hs h hr hw

end Wake

/-! ## Runs -/

section Runs

variable {K : Nat} {s t : Session}

theorem staffed_step (hs : s.Sound) (h : Staffed K s) (hstep : s.step = some t) : Staffed K t := by
  unfold step at hstep
  split at hstep
  · rename_i hr
    cases hstep
    exact staffed_takeTask hs h hr
  · rename_i hr
    simp only [Bool.not_eq_true] at hr
    split at hstep
    · rename_i hu
      split at hstep
      · cases hstep
        exact staffed_start_one h hr hu
      · rename_i hge
        cases hstep
        exact staffed_start_all h hr (Nat.le_of_not_lt hge)
    · split at hstep
      · rename_i w hw
        cases hstep
        exact staffed_wake hs h hr hw
      · cases hstep

/-- Every step of every interleaving keeps the workers accounted for. -/
theorem staffed_next (hs : s.Sound) (h : Staffed K s) (hn : s.Next t) : Staffed K t := by
  obtain ⟨j, hj, hstep⟩ := hn
  exact staffed_step (hs.prefer hj) (h.prefer hj) hstep

theorem staffed_start (f : Forest) (target : NodeId) (data : Value) (config : RenderConfig) :
    Staffed config.concurrency (start f target data config) := by
  unfold start
  rcases f.copyTree (f.top target) with ⟨pristine, g⟩
  refine ⟨?_, fun hi => absurd hi (Nat.lt_irrefl 0), Nat.zero_le _⟩
  simp [woken, pending, suspended]

theorem sound_staffed_reaches {f : Forest} (hf : f.Linked) {target : NodeId} {data : Value}
    {config : RenderConfig} (hr : ∀ x ∈ config.renderers, x.Tame)
    (ht : (start f target data config).Reaches t) :
    t.Sound ∧ Staffed config.concurrency t := by
  induction ht with
  | refl => exact ⟨sound_start hf target data hr, staffed_start f target data config⟩
  | tail _ hn ih => exact ⟨(sound_next hn ih.1).1, staffed_next ih.1 ih.2 hn⟩

theorem step_eq_none {s : Session} (hend : s.step = none) :
    s.running = false ∧ s.unstarted = 0 ∧ s.ready.size ≤ s.nextReady := by
  unfold step at hend
  split at hend
  · cases hend
  · rename_i hr
    split at hend
    · split at hend <;> cases hend
    · split at hend
      · cases hend
      · rename_i hu hready
        exact ⟨by simpa using hr, by omega, Array.getElem?_eq_none_iff.mp hready⟩

theorem Staffed.drained (hs : s.Sound) (h : Staffed K s) (hK : 0 < K) (hend : s.step = none) :
    s.next = s.queue.size ∧ s.idle = K := by
  obtain ⟨hr, hu, hready⟩ := step_eq_none hend
  have hwoken : s.woken = 0 := by
    rw [woken, pending, List.drop_eq_nil_of_le (by simpa using hready)]
    rfl
  have hsus : s.suspended = 0 := by
    rw [suspended, Finset.card_eq_zero, Finset.filter_eq_empty_iff]
    intro n hn
    obtain ⟨x, hx⟩ : ∃ x, s.expansions[n]? = some x :=
      ⟨_, Array.getElem?_eq_getElem (Finset.mem_range.mp hn)⟩
    exact Nat.pos_iff_ne_zero.mp (List.countP_pos_iff.mpr
      ⟨_, hs.resumed_of_step_eq_none hend hx, by simp [Wakeup.resumes]⟩)
  have hwk := h.workers
  rw [hr, hu, hwoken, hsus, Bool.toNat_false] at hwk
  have hidle : s.idle = K := by omega
  have := h.waiting (by omega)
  rw [hwoken, hr, Bool.toNat_false] at this
  exact ⟨le_antisymm h.next_le (by omega), hidle⟩

end Runs

end Session

/-- A rendering never stops with a task left in its queue. Along every interleaving of a
rendering with tame renderers and at least one worker, once no work is left every task queued has
been taken, no worker runs, has yet to start or waits for the renderer chains of an expansion,
all of them wait for a task, and every expansion has resumed. -/
theorem rendering_takes_every_task {f : Forest} (hf : f.Linked) (target : NodeId) (data : Value)
    {config : RenderConfig} (hr : ∀ x ∈ config.renderers, x.Tame) (hK : 0 < config.concurrency)
    {t : Session} (ht : (Session.start f target data config).Reaches t) (hend : t.step = none) :
    t.next = t.queue.size ∧ t.running = false ∧ t.unstarted = 0 ∧
      t.idle = config.concurrency ∧ ∀ n < t.expansions.size, Wakeup.resume n ∈ t.ran := by
  obtain ⟨hs, hstaffed⟩ := Session.sound_staffed_reaches hf hr ht
  obtain ⟨hrun, hu, -⟩ := Session.step_eq_none hend
  obtain ⟨hnext, hidle⟩ := hstaffed.drained hs hK hend
  exact ⟨hnext, hrun, hu, hidle, fun n hn =>
    hs.resumed_of_step_eq_none hend (Array.getElem?_eq_getElem hn)⟩

/-! ## The processor on the task queue -/

namespace Session

theorem queue_wake_render (s : Session) (n i : Nat) : (s.wake (.render n i)).queue = s.queue := by
  simp only [wake]
  split
  · rename_i x _
    exact Array.toList_inj.mp (by simpa using (feeds_renderClone s _ _ x.options).queue)
  · rfl

theorem queue_renderChains (s : Session) (n : Nat) : (s.renderChains n).queue = s.queue := by
  unfold renderChains
  refine List.foldlRecOn (motive := fun t : Session => t.queue = s.queue) _ _ rfl ?_
  intro t ht i _
  rw [queue_wake_render, ht]

theorem queue_processorSlice (k : ProcessorRun) (s : Session) :
    (processorSlice k s).2.queue.toList = s.queue.toList ++ (processorSlice k s).1.puts := by
  have hgrow : ∀ t : Session, (∃ ts, t.queue.toList = s.queue.toList ++ ts) →
      t.queue.toList = s.queue.toList ++ t.queue.toList.drop s.queue.size := by
    rintro t ⟨ts, h⟩
    rw [h, ← Array.length_toList, List.drop_left]
  cases k with
  | fresh task =>
    apply hgrow
    show ∃ ts, ({ s with running := true }.process task).queue.toList = s.queue.toList ++ ts
    rcases process_feeds_or_waits { s with running := true } task with ⟨ts, _, -, h⟩ | h
    · exact ⟨ts, h.queue⟩
    · exact ⟨[], by rw [h.queue, List.append_nil]⟩
  | waiting n =>
    apply hgrow
    show ∃ ts, ((s.renderChains n).wake (.resume n)).queue.toList = s.queue.toList ++ ts
    rw [← queue_renderChains s n]
    simp only [wake]
    split
    · rename_i x _
      obtain ⟨ts, _, -, h⟩ := feeds_finishExpansion (s.renderChains n) x
      exact ⟨ts, h.queue⟩
    · exact ⟨[], (List.append_nil _).symm⟩

theorem processor_mirrors : TaskQueue.Mirrors processor (·.queue.toList) :=
  queue_processorSlice

end Session

/-- The directive processor on the task queue takes every task the session queues. Along every
interleaving of `K` workers running the processor on a session whose queue holds the tasks put
first, the session's queue stays the list of the tasks put; so once `join` returns, every task the
session queued, first or by a run, was handed out once and its run ended, every run is counted,
and every worker waits. -/
theorem processor_takes_every_task (s : Session) (K : Nat)
    {q : TaskQueue Task Session ProcessorRun}
    (hq : (TaskQueue.start s K s.queue.toList).Reaches processor q) (hj : q.joined = true) :
    q.shared.queue.toList = q.tasks ∧ q.next = q.shared.queue.size ∧
      (q.ended.map Prod.fst).Perm (List.range q.shared.queue.size) ∧
      q.processed = q.shared.queue.size ∧ q.workers = List.replicate K .idle := by
  have hview : q.shared.queue.toList = q.tasks :=
    Session.processor_mirrors.reaches rfl hq
  have hsize : q.shared.queue.size = q.tasks.length := by
    rw [← Array.length_toList, hview]
  obtain ⟨hnext, hidle, hended, hprocessed, -⟩ :=
    (TaskQueue.accounted_reaches (TaskQueue.accounted_start s K _) hq).drained hj
  rw [hsize]
  exact ⟨hview, hnext, hended, hprocessed, hidle⟩

-- two workers on the template of `lateVariableForest`: the second takes the section and the
-- `<i>` while the first waits for the chain of the list's clone, and seven tasks are queued
example :
    let s := Session.start lateVariableForest ⟨0⟩ (.dict [(.str "a", .dict [])])
      { RenderConfig.default with concurrency := 2 }
    let q := (TaskQueue.start s 2 s.queue.toList).runSchedule processor
      [.take 0, .run 0, .take 0, .run 0, .take 0, .run 0, .take 1, .run 1, .take 1, .run 1, .run 0,
        .take 0, .run 0, .take 0, .run 0, .join]
    q.joined = true ∧ q.tasks.length = 7 ∧
      (q.shared.queue.toList = q.tasks ∧ q.next = q.shared.queue.size ∧
        (q.ended.map Prod.fst).Perm (List.range q.shared.queue.size) ∧
        q.processed = q.shared.queue.size ∧ q.workers = List.replicate 2 .idle) := by
  intro s q
  have hj : q.joined = true ∧ q.tasks.length = 7 := by decide +kernel
  exact ⟨hj.1, hj.2, processor_takes_every_task s 2 (TaskQueue.reaches_runSchedule _ _) hj.1⟩

end Stencil.Template

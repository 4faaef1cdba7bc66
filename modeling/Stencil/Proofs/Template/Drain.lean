import Mathlib
import Stencil.Template.TaskQueue
/-!
# `join` returns only once every task is done

Along every interleaving of the workers of a task queue, whatever its handler does, the count of
unfinished tasks is the number of tasks not handed out yet plus the number of runs under way, and
the tickets of the runs that ended together with those under way are the tickets handed out, each
once (`TaskQueue.Accounted`). Each step keeps this (`TaskQueue.accounted_next`), so when `join`
returns, every task put so far, by the first callers or by any run, raising or not, was handed out
once and its run ended, no worker runs, every run ended is counted, and each run that raised
recorded one problem (`join_after_every_task`).

A view of the shared state that every slice extends by the tasks it puts (`TaskQueue.Mirrors`)
stays the list of the tasks put along every interleaving; the directive processor keeps its
session's queue so.
-/

namespace Stencil.Template

namespace Worker

variable {κ : Type}

def ticket? : Worker κ → Option Nat
  | .idle => none
  | .busy t _ => some t

@[simp] theorem ticket?_idle : (Worker.idle : Worker κ).ticket? = none := rfl

@[simp] theorem ticket?_busy (t : Nat) (k : κ) : (Worker.busy t k).ticket? = some t := rfl

end Worker

theorem filterMap_set_perm {β γ : Type} [DecidableEq γ] (f : β → Option γ) {l : List β} {i : Nat}
    {a b : β} (h : l[i]? = some b) :
    ((f b).toList ++ (l.set i a).filterMap f).Perm ((f a).toList ++ l.filterMap f) := by
  have hi : i < l.length := (List.getElem?_eq_some_iff.mp h).1
  have hl : l = l.take i ++ b :: l.drop (i + 1) := by
    obtain ⟨hi', hb⟩ := List.getElem?_eq_some_iff.mp h
    rw [← hb, List.getElem_cons_drop, List.take_append_drop]
  have hcons : ∀ (x : β) (t : List β), (x :: t).filterMap f = (f x).toList ++ t.filterMap f := by
    intro x t
    cases hx : f x <;> simp [hx]
  rw [List.set_eq_take_append_cons_drop, if_pos hi]
  conv_rhs => rw [hl]
  rw [List.filterMap_append, hcons, List.filterMap_append, hcons, List.perm_iff_count]
  intro x
  simp only [List.count_append]
  omega

section Tickets

variable {κ : Type} {ws : List (Worker κ)} {i t : Nat} {k : κ}

theorem tickets_set_busy_of_idle (hw : ws[i]? = some .idle) (t : Nat) (k : κ) :
    ((ws.set i (.busy t k)).filterMap Worker.ticket?).Perm (t :: ws.filterMap Worker.ticket?) := by
  simpa using filterMap_set_perm Worker.ticket? (a := .busy t k) hw

theorem tickets_set_idle (hw : ws[i]? = some (.busy t k)) :
    (t :: (ws.set i .idle).filterMap Worker.ticket?).Perm (ws.filterMap Worker.ticket?) := by
  simpa using filterMap_set_perm Worker.ticket? (a := .idle) hw

theorem tickets_set_busy (hw : ws[i]? = some (.busy t k)) (k' : κ) :
    ((ws.set i (.busy t k')).filterMap Worker.ticket?).Perm (ws.filterMap Worker.ticket?) :=
  (List.perm_cons t).mp (by simpa using filterMap_set_perm Worker.ticket? (a := .busy t k') hw)

end Tickets

variable {α σ κ : Type}

namespace TaskQueue

variable {H : TaskHandler α σ κ} {K : Nat}

def busy (q : TaskQueue α σ κ) : List Nat := q.workers.filterMap Worker.ticket?

def raised (ended : List (Nat × Option String)) : List (Nat × String) :=
  ended.filterMap fun e => e.2.map fun m => (e.1, taskFailedMessage m)

/-- The counts of a queue with `K` workers agree: no more tasks are handed out than were put; the
unfinished tasks are those not handed out and those under way; the tickets of the runs that ended
and of those under way are the tickets handed out, each once; every run that ended is counted
and recorded its raise, if it raised; and `join` returned only with no task unfinished. -/
structure Accounted (K : Nat) (q : TaskQueue α σ κ) : Prop where
  workers : q.workers.length = K
  next_le : q.next ≤ q.tasks.length
  unfinished : q.unfinished = q.tasks.length - q.next + q.busy.length
  tickets : (q.ended.map Prod.fst ++ q.busy).Perm (List.range q.next)
  processed : q.processed = q.ended.length
  problems : q.problems = raised q.ended
  joined : q.joined = true → q.unfinished = 0

theorem raised_append_none (ended : List (Nat × Option String)) (t : Nat) :
    raised (ended ++ [(t, none)]) = raised ended := by
  simp [raised]

theorem raised_append_some (ended : List (Nat × Option String)) (t : Nat) (m : String) :
    raised (ended ++ [(t, some m)]) = raised ended ++ [(t, taskFailedMessage m)] := by
  simp [raised]

theorem accounted_start (shared : σ) (K : Nat) (tasks : List α) :
    Accounted K (start shared K tasks : TaskQueue α σ κ) where
  workers := List.length_replicate
  next_le := Nat.zero_le _
  unfinished := by simp [start, busy, List.filterMap_replicate]
  tickets := by simp [start, busy, List.filterMap_replicate]
  processed := rfl
  problems := rfl
  joined := fun h => by cases h

section Steps

variable {q r : TaskQueue α σ κ}

theorem Accounted.take (hq : Accounted K q) {i : Nat} (h : q.take H i = some r) :
    Accounted K r := by
  unfold TaskQueue.take at h
  split at h
  · rename_i task hw ht
    cases h
    have hlt : q.next < q.tasks.length := (List.getElem?_eq_some_iff.mp ht).1
    have hset := tickets_set_busy_of_idle hw q.next (H.start task)
    have hlen := hset.length_eq
    rw [List.length_cons] at hlen
    refine ⟨by rw [List.length_set, hq.workers], hlt, ?_, ?_, hq.processed, hq.problems,
      hq.joined⟩
    · show q.unfinished = q.tasks.length - (q.next + 1) + (busy _).length
      rw [hq.unfinished, busy, busy, hlen]
      omega
    · show (q.ended.map Prod.fst ++ busy _).Perm (List.range (q.next + 1))
      rw [List.range_succ]
      exact ((hset.append_left _).trans List.perm_middle).trans
        ((hq.tickets.cons _).trans (List.perm_append_singleton _ _).symm)
  · cases h

theorem Accounted.put (hq : Accounted K q) (hj : q.joined = false) (shared : σ) (puts : List α) :
    Accounted K { q with
      shared := shared
      tasks := q.tasks ++ puts
      unfinished := q.unfinished + puts.length } := by
  have hle := hq.next_le
  refine ⟨hq.workers, by simp only [List.length_append]; omega, ?_, hq.tickets, hq.processed,
    hq.problems, fun h => absurd h (by simp [hj])⟩
  show q.unfinished + puts.length = (q.tasks ++ puts).length - q.next + q.busy.length
  rw [hq.unfinished, List.length_append]
  omega

theorem Accounted.finish (hq : Accounted K q) (hj : q.joined = false) {i t : Nat} {k : κ}
    (hw : q.workers[i]? = some (.busy t k)) (raised? : Option String) :
    Accounted K (q.finish i t raised?) := by
  have hset := tickets_set_idle hw
  have hlen := hset.length_eq
  rw [List.length_cons] at hlen
  refine ⟨(List.length_set ..).trans hq.workers, hq.next_le, ?_, ?_, ?_, ?_,
    fun h => nomatch h.symm.trans hj⟩
  · show q.unfinished - 1 = q.tasks.length - q.next +
      ((q.workers.set i .idle).filterMap Worker.ticket?).length
    rw [hq.unfinished, busy, ← hlen]
    omega
  · show ((q.ended ++ [(t, raised?)]).map Prod.fst ++
      (q.workers.set i .idle).filterMap Worker.ticket?).Perm (List.range q.next)
    rw [List.map_append, List.append_assoc]
    exact (hset.append_left _).trans hq.tickets
  · show q.processed + 1 = (q.ended ++ [(t, raised?)]).length
    rw [hq.processed, List.length_append, List.length_singleton]
  · rcases raised? with _ | m
    · show q.problems = raised (q.ended ++ [(t, none)])
      rw [raised_append_none, hq.problems]
    · show q.problems ++ [(t, taskFailedMessage m)] = raised (q.ended ++ [(t, some m)])
      rw [raised_append_some, hq.problems]

theorem Accounted.run (hq : Accounted K q) (hj : q.joined = false) {i : Nat}
    (h : q.run H i = some r) : Accounted K r := by
  unfold TaskQueue.run at h
  split at h
  · rename_i t k hw
    rcases hs : H.slice k q.shared with ⟨⟨puts, ending⟩, shared⟩
    rw [hs] at h
    have hp := hq.put hj shared puts
    have hj₁ : ({ q with
        shared := shared
        tasks := q.tasks ++ puts
        unfinished := q.unfinished + puts.length } : TaskQueue α σ κ).joined = false := hj
    cases ending with
    | await k' =>
      cases h
      have hbusy := tickets_set_busy hw k'
      refine ⟨(List.length_set ..).trans hp.workers, hp.next_le, ?_, ?_, hp.processed,
        hp.problems, fun h' => nomatch h'.symm.trans hj⟩
      · show q.unfinished + puts.length = (q.tasks ++ puts).length - q.next +
          ((q.workers.set i (.busy t k')).filterMap Worker.ticket?).length
        rw [hbusy.length_eq]
        exact hp.unfinished
      · exact (hbusy.append_left _).trans hp.tickets
    | done =>
      cases h
      exact hp.finish hj₁ hw none
    | raise m =>
      cases h
      exact hp.finish hj₁ hw (some m)
  · cases h

theorem Accounted.join (hq : Accounted K q) (h : q.join = some r) : Accounted K r := by
  unfold TaskQueue.join at h
  split at h
  · rename_i h0
    cases h
    exact ⟨hq.workers, hq.next_le, hq.unfinished, hq.tickets, hq.processed, hq.problems,
      fun _ => h0⟩
  · cases h

theorem Accounted.next (hq : Accounted K q) (h : q.Next H r) : Accounted K r := by
  obtain ⟨a, ha⟩ := h
  cases a with
  | take i =>
    simp only [step] at ha
    split at ha
    · cases ha
    · exact hq.take ha
  | run i =>
    simp only [step] at ha
    split at ha
    · cases ha
    · rename_i hj
      exact hq.run (by simpa using hj) ha
  | join =>
    simp only [step] at ha
    split at ha
    · cases ha
    · exact hq.join ha

end Steps

theorem Reaches.head {q r u : TaskQueue α σ κ} (hn : q.Next H r) (h : r.Reaches H u) :
    q.Reaches H u := by
  induction h with
  | refl => exact .tail (.refl q) hn
  | tail _ hm ih => exact .tail ih hm

theorem reaches_runSchedule (q : TaskQueue α σ κ) (acts : List QueueAction) :
    q.Reaches H (q.runSchedule H acts) := by
  induction acts generalizing q with
  | nil => exact .refl q
  | cons a rest ih =>
    rw [runSchedule]
    split
    · rename_i r hr
      exact (ih r).head ⟨a, hr⟩
    · exact .refl q

theorem accounted_reaches {q r : TaskQueue α σ κ} (hq : Accounted K q) (h : q.Reaches H r) :
    Accounted K r := by
  induction h with
  | refl => exact hq
  | tail _ hn ih => exact ih.next hn

theorem Accounted.drained {q : TaskQueue α σ κ} (ha : Accounted K q) (hj : q.joined = true) :
    q.next = q.tasks.length ∧ q.workers = List.replicate K .idle ∧
      (q.ended.map Prod.fst).Perm (List.range q.tasks.length) ∧ q.processed = q.tasks.length ∧
      q.problems = raised q.ended := by
  have h0 := ha.unfinished
  rw [ha.joined hj] at h0
  have hle := ha.next_le
  have hnext : q.next = q.tasks.length := by omega
  have hbusy : q.busy = [] := List.eq_nil_of_length_eq_zero (by omega)
  have hidle : ∀ w ∈ q.workers, w = .idle := fun w hw => by
    have := List.filterMap_eq_nil_iff.mp hbusy w hw
    cases w with
    | idle => rfl
    | busy t k => simp at this
  have htickets := ha.tickets
  rw [hbusy, List.append_nil, hnext] at htickets
  refine ⟨hnext, List.eq_replicate_iff.mpr ⟨ha.workers, hidle⟩, htickets, ?_, ha.problems⟩
  rw [ha.processed, ← List.length_map Prod.fst, htickets.length_eq, List.length_range]

/-- A view of the shared state that every slice extends by the tasks it puts. -/
def Mirrors (H : TaskHandler α σ κ) (view : σ → List α) : Prop :=
  ∀ k s, view (H.slice k s).2 = view s ++ (H.slice k s).1.puts

section Mirrors

variable {view : σ → List α} {q r : TaskQueue α σ κ}

theorem Mirrors.run (hH : Mirrors H view) (hq : view q.shared = q.tasks) {i : Nat}
    (h : q.run H i = some r) : view r.shared = r.tasks := by
  unfold TaskQueue.run at h
  split at h
  · rename_i t k _
    have hv := hH k q.shared
    rcases hs : H.slice k q.shared with ⟨⟨puts, ending⟩, shared⟩
    rw [hs] at h hv
    rw [hq] at hv
    cases ending <;> cases h <;> exact hv
  · cases h

theorem Mirrors.next (hH : Mirrors H view) (hq : view q.shared = q.tasks) (h : q.Next H r) :
    view r.shared = r.tasks := by
  obtain ⟨a, ha⟩ := h
  cases a with
  | take i =>
    simp only [step] at ha
    split at ha
    · cases ha
    · unfold TaskQueue.take at ha
      split at ha
      · cases ha
        exact hq
      · cases ha
  | run i =>
    simp only [step] at ha
    split at ha
    · cases ha
    · exact hH.run hq ha
  | join =>
    simp only [step] at ha
    split at ha
    · cases ha
    · unfold TaskQueue.join at ha
      split at ha
      · cases ha
        exact hq
      · cases ha

theorem Mirrors.reaches (hH : Mirrors H view) (hq : view q.shared = q.tasks) (h : q.Reaches H r) :
    view r.shared = r.tasks := by
  induction h with
  | refl => exact hq
  | tail _ hn ih => exact hH.next ih hn

end Mirrors

end TaskQueue

/-- `join` returns only once every task is done. Along every interleaving of `K` workers running
any handler on the tasks put before the workers start and on those its runs put, once `join` has
returned: every task put was handed out, each once, in the order of the puts; the run of each ended,
each once, whether it returned or raised; no worker runs; every run is counted in `processed`, so
it equals the number of puts; and the problems are one for each run that raised, with its ticket and
message, in the order the runs ended. -/
theorem join_after_every_task (H : TaskHandler α σ κ) (shared : σ) (K : Nat) (tasks : List α)
    {q : TaskQueue α σ κ} (hq : (TaskQueue.start shared K tasks).Reaches H q)
    (hj : q.joined = true) :
    q.next = q.tasks.length ∧ q.workers = List.replicate K .idle ∧
      (q.ended.map Prod.fst).Perm (List.range q.tasks.length) ∧ q.processed = q.tasks.length ∧
      q.problems = q.ended.filterMap fun e => e.2.map fun m => (e.1, taskFailedMessage m) :=
  (TaskQueue.accounted_reaches (TaskQueue.accounted_start shared K tasks) hq).drained hj

/-- A handler over depths: a run of `n` puts `n - 1`, when `n` is positive, and suspends; resumed,
the run of `1` puts `0` and raises, and the others return. -/
def countdown : TaskHandler Nat Unit (Nat × Bool) where
  start n := (n, false)
  slice
    | (n, false), u => (⟨if n = 0 then [] else [n - 1], .await (n, true)⟩, u)
    | (n, true), u => (if n = 1 then ⟨[0], .raise "odd"⟩ else ⟨[], .done⟩, u)

/-- Two workers on `countdown` from `[2]`, the second taking the task the first put while the first
waits: four tasks, the run of `1` raising after its put. -/
theorem join_after_every_task_countdown :
    let q := (TaskQueue.start () 2 [2] : TaskQueue Nat Unit (Nat × Bool)).runSchedule countdown
      [.take 0, .run 0, .take 1, .run 1, .run 0, .take 0, .run 0, .run 1, .take 1, .run 1, .run 0,
        .run 1, .join]
    q.joined = true ∧ q.tasks = [2, 1, 0, 0] ∧ q.problems = [(1, taskFailedMessage "odd")] ∧
      (q.next = q.tasks.length ∧ q.workers = List.replicate 2 .idle ∧
        (q.ended.map Prod.fst).Perm (List.range q.tasks.length) ∧ q.processed = q.tasks.length ∧
        q.problems = q.ended.filterMap fun e => e.2.map fun m => (e.1, taskFailedMessage m)) :=
  ⟨rfl, rfl, rfl, join_after_every_task countdown () 2 [2] (TaskQueue.reaches_runSchedule _ _) (by rfl)⟩

end Stencil.Template

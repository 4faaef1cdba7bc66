import Mathlib
import Stencil.Proofs.Template.Plain
import Stencil.Proofs.Template.Schedule
/-!
# A template without directives comes back as it was

A template none of whose nodes carries a directive or an escaped data attribute (`plainNode`) is
rendered by one worker that takes the tasks one after the other, each compressing its node
(unless debugging) and queuing the children of what is left of it (`Session.process_of_plain`).
Nothing else happens: no worker waits for a task while one runs, so no other work becomes ready.

`render_plain_template`: with at least one worker the rendering ends, and the tree of the target
is the template's when debugging, and otherwise the template with the subtree of the target
compacted (`compactedShape`): no comments below the target, and the texts under elements other
than `pre`, `script`, `style` and `textarea` collapsed.

Proof. Along the run (`Session.PlainRun`) every node queued or taken is a node of the template
document or a text added by compressing; every node of the template queued or taken, but the
target, has its parent taken; no node of the template is queued twice, or after it was taken; and
unless debugging the nodes taken are the nodes compressed (`Session.Compressing`). A node of the
template is queued only once its parent is taken, so the nodes whose parent is not taken, with the
tasks queued, bound the work left (`Session.plainWork`), and every step lowers that bound. When no
work is left the queue is empty, so the nodes taken are the subtree of the target, all compressed.
-/

namespace Stencil.Template

open Stencil.Markup Forest

namespace Session

def takenNodes (s : Session) : List NodeId := (s.queue.toList.take s.next).map Task.node

/-! ## Tasks taken and queued -/

section Queue

variable {s t : Session} {ts : List Task} {k : Nat}

theorem Feeds.takenNodes (h : Feeds s t ts k) (hle : s.next ≤ s.queue.size) :
    t.takenNodes = s.takenNodes := by
  unfold Session.takenNodes
  rw [h.queue, h.next, List.take_append_of_le_length (by simpa using hle)]

theorem Feeds.queuedNodes (h : Feeds s t ts k) (hle : s.next ≤ s.queue.size) :
    t.queuedNodes = s.queuedNodes ++ ts.map Task.node := by
  unfold Session.queuedNodes
  rw [h.queue, h.next, List.drop_append_of_le_length (by simpa using hle), List.map_append]

theorem takenNodes_take {task : Task} (hq : s.queue[s.next]? = some task) :
    { s with next := s.next + 1 }.takenNodes = s.takenNodes ++ [task.node] := by
  unfold takenNodes
  rw [List.take_add_one, Array.getElem?_toList, hq]
  simp

theorem feeds_plainTask (s : Session) (task : Task) :
    ∃ cs : List NodeId, Feeds s (s.plainTask task) (cs.map (⟨·, task.scope⟩)) 0 ∧
      (s.plainTask task).forest = (s.compressNode task.node).2.forest ∧
      (cs = [] ∨ (s.compressNode task.node).1 = some task.node ∧
        cs = (s.compressNode task.node).2.forest.children task.node) := by
  rcases plainTask_cases s task with ⟨-, heq⟩ | ⟨hsome, heq⟩
  · refine ⟨[], ?_, by rw [heq], Or.inl rfl⟩
    rw [heq]
    simpa using feeds_compressNode s task.node
  · refine ⟨_, ?_, by rw [heq, forest_enqueueChildren], Or.inr ⟨hsome, rfl⟩⟩
    rw [heq]
    simpa using (feeds_compressNode s task.node).trans (feeds_enqueueChildren _ task.node task.scope)

end Queue

end Session

/-! ## The children a task queues -/

/-- Nodes that the task of `y` may queue in a plain rendering of the template `F`: none twice,
each node of `F` among them a child of `y` in `F`, and no more of them than `y` has children
there. -/
structure ChildrenOf (F : Forest) (y : NodeId) (cs : List NodeId) : Prop where
  nodup : cs.Nodup
  template : ∀ c ∈ cs, c.index < F.nodes.size → c ∈ F.children y
  length_le : cs.length ≤ (F.children y).length

section Children

variable {F g : Forest} {D : List NodeId}

theorem childrenOf_nil (F : Forest) (y : NodeId) : ChildrenOf F y [] :=
  ⟨List.nodup_nil, fun _ hc => absurd hc List.not_mem_nil, Nat.zero_le _⟩

theorem childrenOf_children (hF : F.WellFormed) (y : NodeId) : ChildrenOf F y (F.children y) :=
  ⟨hF.nodup y, fun _ hc _ => hc, le_refl _⟩

theorem Compacted.childrenOf (h : Compacted F F.nodes.size D g) (y : NodeId) :
    ChildrenOf F y (g.children y) := by
  refine ⟨h.wf.nodup y, fun c hc hcF => h.mem_children hc hcF, ?_⟩
  by_cases hy : y.index < F.nodes.size
  · rw [← (h.children y hy).length_eq]
    exact List.length_filter_le _ _
  · rw [(h.fresh y (Nat.le_of_not_lt hy)).2]
    exact Nat.zero_le _

end Children

/-! ## Nodes whose parent is not taken -/

def unreached (F : Forest) (M : Nat) (D : List NodeId) : Nat :=
  (List.range M).countP fun i => (F.parent? ⟨i⟩).all fun p => !D.contains p

section Unreached

variable {F : Forest} {M : Nat} {D : List NodeId} {y : NodeId}

theorem unreached_le (F : Forest) (M : Nat) (D : List NodeId) : unreached F M D ≤ M := by
  unfold unreached
  exact List.countP_le_length.trans (by simp)

theorem unreached_append_le : unreached F M (D ++ [y]) ≤ unreached F M D := by
  unfold unreached
  refine List.countP_mono_left fun i _ hi => ?_
  cases hp : F.parent? ⟨i⟩ with
  | none => rfl
  | some p => simp_all

theorem unreached_append (hy : y ∉ D) :
    unreached F M D = unreached F M (D ++ [y]) +
      (List.range M).countP fun i => F.parent? ⟨i⟩ == some y := by
  unfold unreached
  induction List.range M with
  | nil => rfl
  | cons i l ih =>
    simp only [List.countP_cons, ih]
    cases hp : F.parent? ⟨i⟩ with
    | none =>
      simp
      omega
    | some p =>
      by_cases hpy : p = y
      · subst hpy
        simp [hy]
        omega
      · simp [hpy]
        omega

theorem length_children_le (hF : F.WellFormed) (hM : ∀ c ∈ F.children y, c.index < M) :
    (F.children y).length ≤ (List.range M).countP fun i => F.parent? ⟨i⟩ == some y := by
  rw [List.countP_eq_length_filter, ← List.length_map (f := NodeId.index)]
  refine ((hF.nodup y).map (fun a b h => by cases a; cases b; simpa using h)).subperm
    (fun i hi => ?_) |>.length_le
  obtain ⟨c, hc, rfl⟩ := List.mem_map.mp hi
  simp [hM c hc, hF.linked y c hc]

theorem ChildrenOf.unreached_take {cs : List NodeId} (hcs : ChildrenOf F y cs) (hF : F.WellFormed)
    (hM : y.index < F.nodes.size → ∀ c ∈ F.children y, c.index < M)
    (hyD : y.index < F.nodes.size → y ∉ D) :
    unreached F M (D ++ [y]) + cs.length ≤ unreached F M D := by
  have hlen := hcs.length_le
  by_cases hyF : y.index < F.nodes.size
  · have hle := length_children_le hF (hM hyF)
    rw [unreached_append (hyD hyF)]
    omega
  · -- a node added since the template has no children there
    rw [children_of_size_le (Nat.le_of_not_lt hyF), List.length_nil] at hlen
    have := unreached_append_le (F := F) (M := M) (D := D) (y := y)
    omega

end Unreached

/-! ## Compact shapes in a bigger forest -/

section Extends

variable {f g : Forest}

theorem compactWithin_of_extends (hf : f.Linked) (hext : f.Extends g) :
    ∀ (k : Nat) (x : NodeId), x.index < f.nodes.size → compactWithin g k x = compactWithin f k x
  | 0, x, hx => by simp [compactWithin, kind, hext.2 x hx]
  | k + 1, x, hx => by
    have hk : ∀ y : NodeId, y.index < f.nodes.size → g.kind y = f.kind y := fun y hy => by
      simp [kind, hext.2 y hy]
    have hch : g.children x = f.children x := by simp [children, hext.2 x hx]
    rw [compactWithin, compactWithin, hk x hx, hch]
    congr 1
    rw [List.filter_congr fun c hc => by rw [isComment_congr (hk c (index_lt_of_parent? (hf x c hc)))]]
    refine List.map_congr_left fun c hc => ?_
    have hc' := index_lt_of_parent? (hf x c (List.mem_of_mem_filter hc))
    rw [collapsedChild?_congr (hk x hx) (hk c hc'), compactWithin_of_extends hf hext k c hc']

theorem compactedWithin_of_extends (hf : f.Linked) (hext : f.Extends g) (target : NodeId) :
    ∀ (k : Nat) (x : NodeId), x.index < f.nodes.size →
      compactedWithin g target k x = compactedWithin f target k x
  | 0, x, hx => by simp [compactedWithin, kind, hext.2 x hx]
  | k + 1, x, hx => by
    rw [compactedWithin, compactedWithin]
    split
    · exact compactWithin_of_extends hf hext (k + 1) x hx
    · have hch : g.children x = f.children x := by simp [children, hext.2 x hx]
      rw [hch, show g.kind x = f.kind x by simp [kind, hext.2 x hx]]
      congr 1
      exact List.map_congr_left fun c hc =>
        compactedWithin_of_extends hf hext target k c (index_lt_of_parent? (hf x c hc))

theorem compactedShape_of_extends (hf : f.WellFormed) (hext : f.Extends g) (target : NodeId)
    {x : NodeId} (hx : x.index < f.nodes.size) :
    compactedShape g target x = compactedShape f target x := by
  rw [compactedShape, compactedWithin_of_extends hf.linked hext target _ x hx,
    compactedWithin_eq_compactedShape hf target (by have := hext.1; unfold depthBound; omega)]

end Extends

namespace Session

/-! ## The run -/

/-- A plain rendering of the template `F`, whose first `M` nodes are the template document, part
way, debugging or not: no node is a template; no work is ready, and no worker waits for a task
while one runs or tasks are queued; while tasks are queued and no worker runs, one has yet to
start; every node queued or taken is a node of the document or one added since, and every one of
the template but the target has its parent taken; no node of the template is queued twice, or
after it was taken; and the forest is the template when debugging, and otherwise the template
with the nodes taken compressed. -/
structure PlainRun (F : Forest) (M : Nat) (target : NodeId) (debug : Bool) (s : Session) :
    Prop where
  config : s.config.debug = debug
  templates : s.table.templates = []
  ready : s.ready = #[]
  idle : s.running = true → s.idle = 0
  stopped : s.running = false → s.next < s.queue.size → 0 < s.unstarted
  waiting : 0 < s.idle → s.queue.size ≤ s.next
  next_le : s.next ≤ s.queue.size
  range : ∀ x ∈ s.takenNodes ++ s.queuedNodes, x.index < M ∨ F.nodes.size ≤ x.index
  parent : ∀ x ∈ s.takenNodes ++ s.queuedNodes, x.index < F.nodes.size → x ≠ target →
    ∃ p ∈ s.takenNodes, F.parent? x = some p
  untaken : ∀ x ∈ s.queuedNodes, x.index < F.nodes.size → x ∉ s.takenNodes
  nodup : (s.queuedNodes.filter (·.index < F.nodes.size)).Nodup
  unchanged : debug = true → s.forest = F
  compressing : debug = false → Compressing F target s.takenNodes s

/-- A bound on the steps left in a plain rendering: a task for each node whose parent is not
taken and each task queued, two for a running worker, and one or three for starting the workers
when none runs. -/
def plainWork (F : Forest) (M : Nat) (s : Session) : Nat :=
  unreached F M s.takenNodes + s.queuedNodes.length + 2 * s.running.toNat +
    if s.running = false ∧ 0 < s.unstarted then (if s.next < s.queue.size then 3 else 1) else 0

section Run

variable {F : Forest} {M : Nat} {target : NodeId} {debug : Bool} {s t : Session}

theorem PlainRun.target_le (h : PlainRun F M target debug s) (hF : F.WellFormed) :
    ∀ n (x : NodeId), x.index = n → x ∈ s.takenNodes ++ s.queuedNodes → n < F.nodes.size →
      target.index ≤ n := by
  intro n
  induction n using Nat.strong_induction_on with
  | _ n ih =>
    intro x hxn hx hxF
    by_cases hxt : x = target
    · rw [← hxn, hxt]
    · -- its parent is taken, and comes before it
      obtain ⟨p, hp, hpx⟩ := h.parent x hx (hxn ▸ hxF) hxt
      have hpi : p.index < n := hxn ▸ hF.ordered x p hpx
      exact Nat.le_of_lt (Nat.lt_of_le_of_lt
        (ih p.index hpi p rfl (List.mem_append_left _ hp) (by omega)) hpi)

theorem PlainRun.step_cases (h : PlainRun F M target debug s) (hstep : s.step = some t) :
    (s.running = false ∧ 0 < s.unstarted ∧ s.next < s.queue.size ∧
        t = { s with unstarted := s.unstarted - 1, running := true }) ∨
      (s.running = false ∧ 0 < s.unstarted ∧ s.queue.size ≤ s.next ∧
        t = { s with idle := s.idle + s.unstarted, unstarted := 0 }) ∨
      (s.running = true ∧ s.queue[s.next]? = none ∧
        t = { s with running := false, idle := s.idle + 1 }) ∨
      ∃ task, s.running = true ∧ s.queue[s.next]? = some task ∧
        t = { s with next := s.next + 1 }.process task := by
  unfold step at hstep
  split at hstep
  · rename_i hr
    cases hstep
    unfold takeTask
    cases hq : s.queue[s.next]? with
    | none => exact Or.inr (Or.inr (Or.inl ⟨hr, rfl, rfl⟩))
    | some task => exact Or.inr (Or.inr (Or.inr ⟨task, hr, rfl, rfl⟩))
  · rename_i hr
    split at hstep
    · rename_i hu
      split at hstep
      · cases hstep
        exact Or.inl ⟨by simpa using hr, hu, by assumption, rfl⟩
      · cases hstep
        exact Or.inr (Or.inl ⟨by simpa using hr, hu, by omega, rfl⟩)
    · -- no work is ready
      rw [h.ready] at hstep
      cases hstep

theorem PlainRun.of_workers (h : PlainRun F M target debug s) (hf : t.forest = s.forest)
    (ht : t.table = s.table) (hc : t.config = s.config) (hq : t.queue = s.queue)
    (hn : t.next = s.next) (hr : t.ready = s.ready) (hidle : t.running = true → t.idle = 0)
    (hstopped : t.running = false → t.next < t.queue.size → 0 < t.unstarted)
    (hwaiting : 0 < t.idle → t.queue.size ≤ t.next) : PlainRun F M target debug t := by
  have htaken : t.takenNodes = s.takenNodes := by simp only [takenNodes, hq, hn]
  have hqueued : t.queuedNodes = s.queuedNodes := by simp only [queuedNodes, hq, hn]
  refine ⟨hc ▸ h.config, ht ▸ h.templates, hr ▸ h.ready, hidle, hstopped, hwaiting,
    hq ▸ hn ▸ h.next_le, htaken ▸ hqueued ▸ h.range, htaken ▸ hqueued ▸ h.parent,
    htaken ▸ hqueued ▸ h.untaken, hqueued ▸ h.nodup, fun hd => hf.trans (h.unchanged hd),
    fun hd => ?_⟩
  have hcomp := h.compressing hd
  rw [htaken]
  exact hcomp.of_eq hf hqueued

theorem PlainRun.start_one (h : PlainRun F M target debug s) (hn : s.next < s.queue.size) :
    PlainRun F M target debug { s with unstarted := s.unstarted - 1, running := true } :=
  h.of_workers rfl rfl rfl rfl rfl rfl (fun _ => by
    by_contra hi
    have := h.waiting (Nat.pos_of_ne_zero hi)
    omega) (fun hr' => by cases hr') (fun hi => h.waiting hi)

theorem PlainRun.start_all (h : PlainRun F M target debug s) (hr : s.running = false)
    (hn : s.queue.size ≤ s.next) :
    PlainRun F M target debug { s with idle := s.idle + s.unstarted, unstarted := 0 } :=
  h.of_workers rfl rfl rfl rfl rfl rfl (fun hr' => by simp_all) (fun _ hlt => by simp at hlt; omega)
    (fun _ => hn)

theorem PlainRun.stop (h : PlainRun F M target debug s) (hq : s.queue[s.next]? = none) :
    PlainRun F M target debug { s with running := false, idle := s.idle + 1 } := by
  have hn : s.queue.size ≤ s.next := Array.getElem?_eq_none_iff.mp hq
  exact h.of_workers rfl rfl rfl rfl rfl rfl (fun hr' => by cases hr') (fun _ hlt => by simp at hlt; omega)
    (fun _ => hn)

theorem PlainRun.take_queues (h : PlainRun F M target debug s) (hF : F.WellFormed)
    (hplain : ∀ x : NodeId, x.index < M → plainNode F x = true) {task : Task}
    (hq : s.queue[s.next]? = some task) :
    ∃ cs, ChildrenOf F task.node cs ∧
      Feeds { s with next := s.next + 1 } ({ s with next := s.next + 1 }.process task)
        (cs.map (⟨·, task.scope⟩)) 0 ∧
      ({ s with next := s.next + 1 }.process task).config = s.config ∧
      ({ s with next := s.next + 1 }.process task).table = s.table ∧
      ({ s with next := s.next + 1 }.process task).next ≤
        ({ s with next := s.next + 1 }.process task).queue.size ∧
      ({ s with next := s.next + 1 }.process task).takenNodes = s.takenNodes ++ [task.node] ∧
      ({ s with next := s.next + 1 }.process task).queuedNodes =
        { s with next := s.next + 1 }.queuedNodes ++ cs ∧
      (debug = true → ({ s with next := s.next + 1 }.process task).forest = F) ∧
      (debug = false → Compressing F target (s.takenNodes ++ [task.node])
        ({ s with next := s.next + 1 }.process task)) := by
  have hle₁ : s.next + 1 ≤ s.queue.size := (Array.getElem?_eq_some_iff.mp hq).1
  have hy : task.node ∈ s.takenNodes ++ s.queuedNodes := by
    rw [queuedNodes_take s hq]
    simp
  -- the node is plain in the forest its task compresses it into
  have hplainy : plainNode ({ s with next := s.next + 1 }.compressNode task.node).2.forest
      task.node = true := by
    rw [compressNode_eq]
    by_cases hd : debug = true
    · rw [if_pos (h.config.trans hd)]
      rw [show s.forest = F from h.unchanged hd]
      rcases h.range _ hy with hM | hN
      · exact hplain _ hM
      · exact plainNode_of_isText (isText_of_size_le hN)
    · have hd' : debug = false := by simpa using hd
      rw [if_neg (by simp [h.config, hd'])]
      have hc := ((h.compressing hd').compacted).compress hF.linked (y := task.node) (lt_or_ge _ _)
      exact hc.plainNode fun hyF => hplain _ ((h.range _ hy).resolve_right (by omega))
  rw [process_of_plain { s with next := s.next + 1 } task h.templates hplainy]
  obtain ⟨cs, hfeeds, hforest, hcs⟩ := feeds_plainTask { s with next := s.next + 1 } task
  obtain ⟨-, htable, hconfig, hnext, -⟩ := plainTask_keeps { s with next := s.next + 1 } task hle₁
  refine ⟨cs, ?_, hfeeds, hconfig, htable, hnext, ?_, ?_, fun hd => ?_, fun hd => ?_⟩
  · -- the children queued are those of the node, as compressing left them
    rcases hcs with rfl | ⟨-, rfl⟩
    · exact childrenOf_nil F task.node
    · rw [compressNode_eq]
      by_cases hd : debug = true
      · rw [if_pos (h.config.trans hd)]
        rw [show s.forest = F from h.unchanged hd]
        exact childrenOf_children hF task.node
      · have hd' : debug = false := by simpa using hd
        rw [if_neg (by simp [h.config, hd'])]
        exact (((h.compressing hd').compacted).compress hF.linked (lt_or_ge _ _)).childrenOf task.node
  · rw [hfeeds.takenNodes hle₁, takenNodes_take hq]
  · rw [hfeeds.queuedNodes hle₁, List.map_map]
    exact congrArg _ (List.map_id cs)
  · rw [hforest, compressNode_eq, if_pos (h.config.trans hd)]
    exact h.unchanged hd
  · exact (h.compressing hd).take hF (h.config.trans hd) hq

theorem PlainRun.child_not_mem (h : PlainRun F M target debug s) (hF : F.WellFormed)
    {y c : NodeId} {R : List NodeId} (hP : s.queuedNodes = y :: R) (hc : c ∈ F.children y) :
    c ∉ s.takenNodes ++ s.queuedNodes := by
  have hyc : y.index < c.index := hF.lt_of_mem_children hc
  have hcF : c.index < F.nodes.size := hF.index_lt_of_mem_children hc
  have hy : y ∈ s.takenNodes ++ s.queuedNodes := by
    rw [hP]
    simp
  have hyD : y ∉ s.takenNodes := h.untaken y (by rw [hP]; exact List.mem_cons_self) (by omega)
  intro hmem
  have hct : c ≠ target := by
    rintro rfl
    have := h.target_le hF y.index y rfl hy (by omega)
    omega
  obtain ⟨p, hp, hpc⟩ := h.parent c hmem hcF hct
  rw [hF.linked y c hc] at hpc
  cases hpc
  exact hyD hp

theorem PlainRun.take (h : PlainRun F M target debug s) (hF : F.WellFormed)
    (hplain : ∀ x : NodeId, x.index < M → plainNode F x = true)
    (hFM : ∀ y c : NodeId, y.index < M → c ∈ F.children y → c.index < M)
    (hr : s.running = true) {task : Task} (hq : s.queue[s.next]? = some task) :
    PlainRun F M target debug ({ s with next := s.next + 1 }.process task) ∧
      plainWork F M ({ s with next := s.next + 1 }.process task) < plainWork F M s := by
  obtain ⟨cs, hcs, hfeeds, hconfig, htable, hnext, htaken, hqueued, hdebug, hcomp⟩ :=
    h.take_queues hF hplain hq
  have hP := queuedNodes_take s hq
  have hidle₀ : s.idle = 0 := h.idle hr
  have hrun : ({ s with next := s.next + 1 }.process task).running = true :=
    (congrArg Workers.running hfeeds.workers).trans hr
  have hidle : ({ s with next := s.next + 1 }.process task).idle = 0 := by
    rw [hfeeds.idle]
    simp [hidle₀]
  have hready : ({ s with next := s.next + 1 }.process task).ready = #[] := by
    apply Array.toList_inj.mp
    rw [hfeeds.ready]
    simp [hidle₀, h.ready]
  generalize { s with next := s.next + 1 }.process task = t at *
  generalize ({ s with next := s.next + 1 } : Session).queuedNodes = R at hP hqueued
  have hnew : ∀ c ∈ cs, c.index < F.nodes.size → c ∉ s.takenNodes ++ s.queuedNodes :=
    fun c hc hcF => h.child_not_mem hF hP (hcs.template c hc hcF)
  have hy : task.node ∈ s.takenNodes ++ s.queuedNodes := by
    rw [hP]
    simp
  have hyD : task.node.index < F.nodes.size → task.node ∉ s.takenNodes :=
    h.untaken _ (by rw [hP]; exact List.mem_cons_self)
  have hRy : ∀ x ∈ R, x.index < F.nodes.size → x ≠ task.node := by
    intro x hx hxF hxy
    subst hxy
    have hnd := h.nodup
    rw [hP, List.filter_cons, if_pos (by simpa using hxF)] at hnd
    exact (List.nodup_cons.mp hnd).1 (List.mem_filter.mpr ⟨hx, by simpa using hxF⟩)
  have hcsM : ∀ c ∈ cs, c.index < F.nodes.size → c.index < M := by
    intro c hc hcF
    have hcy := hcs.template c hc hcF
    rcases h.range _ hy with hyM | hyN
    · exact hFM _ _ hyM hcy
    · rw [children_of_size_le hyN] at hcy
      cases hcy
  refine ⟨⟨by rw [hconfig]; exact h.config, htable ▸ h.templates, hready, fun _ => hidle,
    fun hr' => by simp [hrun] at hr', fun hi => by omega, hnext, ?_, ?_, ?_, ?_, hdebug,
    fun hd => htaken ▸ hcomp hd⟩, ?_⟩
  · -- every node is a node of the document or one added since
    rw [htaken, hqueued]
    intro x hx
    rcases List.mem_append.mp hx with hx | hx
    · exact h.range x (by rw [hP] at hy ⊢; simp at hx ⊢; tauto)
    · rcases List.mem_append.mp hx with hx | hx
      · exact h.range x (by rw [hP]; simp [hx])
      · by_cases hxF : x.index < F.nodes.size
        · exact Or.inl (hcsM x hx hxF)
        · exact Or.inr (Nat.le_of_not_lt hxF)
  · -- every node of the template but the target has its parent taken
    rw [htaken, hqueued]
    intro x hx hxF hxt
    have hold : x ∈ s.takenNodes ++ s.queuedNodes ∨ x ∈ cs := by
      rw [hP]
      simp only [List.mem_append, List.mem_cons] at hx ⊢
      tauto
    rcases hold with hx | hx
    · obtain ⟨p, hp, hpx⟩ := h.parent x hx hxF hxt
      exact ⟨p, List.mem_append_left _ hp, hpx⟩
    · exact ⟨task.node, List.mem_append_right _ (List.mem_singleton_self _),
        hF.linked _ _ (hcs.template x hx hxF)⟩
  · -- no node of the template is queued after it was taken
    rw [htaken, hqueued]
    intro x hx hxF
    rw [List.mem_append, List.mem_singleton, not_or]
    rcases List.mem_append.mp hx with hx | hx
    · exact ⟨h.untaken x (by rw [hP]; exact List.mem_cons_of_mem _ hx) hxF, hRy x hx hxF⟩
    · have hxy : task.node.index < x.index := hF.lt_of_mem_children (hcs.template x hx hxF)
      refine ⟨fun hxD => hnew x hx hxF (List.mem_append_left _ hxD), ?_⟩
      rintro rfl
      omega
  · -- and none is queued twice
    rw [hqueued, List.filter_append, List.nodup_append]
    have hnd := h.nodup
    rw [hP] at hnd
    refine ⟨((List.sublist_cons_self _ R).filter _).nodup hnd, hcs.nodup.filter _, ?_⟩
    intro a ha b hb hab
    subst hab
    rw [List.mem_filter] at ha hb
    exact hnew a hb.1 (by simpa using hb.2) (by rw [hP]; simp [ha.1])
  · -- the work left goes down: the node leaves the queue, and its children were unreached
    have hwork := hcs.unreached_take hF (M := M)
      (fun hyF c hc => hFM _ c ((h.range _ hy).resolve_right (by omega)) hc) hyD
    simp only [plainWork, htaken, hqueued, hP, hrun, hr, List.length_append, List.length_cons]
    simp
    omega

theorem PlainRun.step (h : PlainRun F M target debug s) (hF : F.WellFormed)
    (hplain : ∀ x : NodeId, x.index < M → plainNode F x = true)
    (hFM : ∀ y c : NodeId, y.index < M → c ∈ F.children y → c.index < M)
    (hstep : s.step = some t) : PlainRun F M target debug t ∧ plainWork F M t < plainWork F M s := by
  rcases h.step_cases hstep with ⟨hr, hu, hn, rfl⟩ | ⟨hr, hu, hn, rfl⟩ | ⟨hr, hq, rfl⟩ |
    ⟨task, hr, hq, rfl⟩
  · refine ⟨h.start_one hn, ?_⟩
    simp [plainWork, takenNodes, queuedNodes, hr, hu, hn]
  · refine ⟨h.start_all hr hn, ?_⟩
    simp [plainWork, takenNodes, queuedNodes, hr, hu, Nat.not_lt.mpr hn]
  · have hn : s.queue.size ≤ s.next := Array.getElem?_eq_none_iff.mp hq
    refine ⟨h.stop hq, ?_⟩
    simp only [plainWork, takenNodes, queuedNodes, hr, Nat.not_lt.mpr hn]
    split <;> simp
  · exact h.take hF hplain hFM hr hq

theorem PlainRun.drain (hF : F.WellFormed)
    (hplain : ∀ x : NodeId, x.index < M → plainNode F x = true)
    (hFM : ∀ y c : NodeId, y.index < M → c ∈ F.children y → c.index < M) :
    ∀ (n : Nat) (s : Session), PlainRun F M target debug s → plainWork F M s ≤ n →
      PlainRun F M target debug (s.drain n) ∧ (s.drain n).step = none := by
  intro n
  induction n with
  | zero =>
    intro s h hw
    refine ⟨h, ?_⟩
    cases hs : s.step with
    | none => simpa [Session.drain] using hs
    | some t =>
      have := (h.step hF hplain hFM hs).2
      omega
  | succ n ih =>
    intro s h hw
    cases hs : s.step with
    | none =>
      rw [drain_of_step_eq_none hs]
      exact ⟨h, hs⟩
    | some t =>
      obtain ⟨ht, hlt⟩ := h.step hF hplain hFM hs
      simp only [Session.drain, hs]
      exact ih t ht (by omega)

theorem PlainRun.queue_drained (h : PlainRun F M target debug s) (hend : s.step = none) :
    s.queuedNodes = [] := by
  obtain ⟨hr, hu, -⟩ := step_eq_none hend
  have hn : ¬s.next < s.queue.size := fun hn => by
    have := h.stopped hr hn
    omega
  exact queuedNodes_eq_nil s (Nat.le_antisymm h.next_le (Nat.le_of_not_lt hn))

end Run

/-! ## The start and the end of a plain rendering -/

section End

variable {F : Forest} {target : NodeId} {D : List NodeId} {s : Session}

theorem Compressing.shape_eq (h : Compressing F target D s) (hF : F.WellFormed)
    (hP : s.queuedNodes = []) (htc : F.isComment target = false) {x : NodeId}
    (hx : x.index < F.nodes.size) (hroot : F.parent? x = none) :
    s.forest.shape x = compactedShape F target x := by
  have hclosed : ∀ y ∈ D, y.index < F.nodes.size → F.isComment y = false →
      ∀ c ∈ s.forest.children y, c ∈ D := fun y hy _ hyc c hc => by
    simpa [hP] using h.closed y hy hyc c hc
  have hparent : ∀ y ∈ D, y.index < F.nodes.size → y ≠ target →
      ∃ p, F.parent? y = some p ∧ p ∈ D := fun y hy hyF hyt => by
    obtain ⟨p, hp, hpy⟩ := h.parent y (by simp [hy]) hyF hyt
    exact ⟨p, hpy, hp⟩
  have htD : target ∈ D := by simpa [hP] using h.target
  -- a node with no parent is compressed only if it is the target
  have hxt : x = target ∨ x ∉ D := by
    by_cases hxt : x = target
    · exact Or.inl hxt
    · refine Or.inr fun hxD => ?_
      obtain ⟨p, hp, -⟩ := hparent x hxD hx hxt
      rw [hroot] at hp
      cases hp
  have hsize := h.compacted.size
  rw [shape, h.compacted.shapeWithin_eq_compactedWithin hF.linked hclosed htD htc hparent _ x hx hxt,
    compactedWithin_eq_compactedShape hF target (by unfold depthBound; omega)]

end End

theorem start_fields (f : Forest) (target : NodeId) (data : Value) (config : RenderConfig) :
    (start f target data config).forest = (f.copyTree (f.top target)).2 ∧
      (start f target data config).table = NodeTable.empty ∧
      (start f target data config).config = config ∧
      (start f target data config).queue = #[⟨target, 0⟩] ∧
      (start f target data config).next = 0 ∧
      (start f target data config).unstarted = config.concurrency ∧
      (start f target data config).idle = 0 ∧
      (start f target data config).running = false ∧
      (start f target data config).ready = #[] := by
  unfold start
  rcases f.copyTree (f.top target) with ⟨pristine, g⟩
  exact ⟨rfl, rfl, rfl, rfl, rfl, rfl, rfl, rfl, rfl⟩

theorem plainRun_start {f : Forest} (hf : f.WellFormed) {target : NodeId}
    (ht : target.index < f.nodes.size) (data : Value) (config : RenderConfig)
    (hK : 0 < config.concurrency) :
    PlainRun (f.copyTree (f.top target)).2 f.nodes.size target config.debug
      (start f target data config) := by
  obtain ⟨hforest, htable, hconfig, hqueue, hnext, hunst, hidle, hrun, hready⟩ :=
    start_fields f target data config
  have hcopy := hf.copied_copyTree (n := f.top target) (Prod.mk.eta (p := f.copyTree (f.top target))).symm
  have htaken : (start f target data config).takenNodes = [] := by
    simp [takenNodes, hqueue, hnext]
  have hqueued : (start f target data config).queuedNodes = [target] := by
    simp [queuedNodes, hqueue, hnext]
  refine ⟨by rw [hconfig], by rw [htable]; rfl, hready, fun h => by simp [hrun] at h,
    fun _ _ => by rw [hunst]; exact hK, fun h => by simp [hidle] at h, by simp [hqueue, hnext],
    ?_, ?_, ?_, ?_, fun _ => hforest, fun _ => ?_⟩
  · rw [htaken, hqueued]
    intro x hx
    simp only [List.nil_append, List.mem_singleton] at hx
    exact Or.inl (hx ▸ ht)
  · rw [htaken, hqueued]
    intro x hx _ hxt
    simp only [List.nil_append, List.mem_singleton] at hx
    exact absurd hx hxt
  · rw [htaken]
    intro x _ _ hx
    cases hx
  · rw [hqueued]
    exact (List.nodup_singleton target).sublist List.filter_sublist
  · -- nothing compressed yet
    refine ⟨?_, ?_, ?_, ?_⟩
    · rw [htaken, hforest]
      exact compacted_nil hcopy.wf (Extends.refl _)
    · rw [htaken, hqueued]
      intro x hx _ hxt
      simp only [List.nil_append, List.mem_singleton] at hx
      exact absurd hx hxt
    · rw [htaken]
      intro x hx
      cases hx
    · rw [htaken, hqueued]
      exact List.mem_singleton_self target

end Session

/-- A template none of whose nodes carries a directive or an escaped data attribute, rendered by at
least one worker with any data and configuration, comes back as it was when debugging, and
otherwise with the subtree of the target compacted: its comments taken out and the white space of
its texts collapsed under every node but `pre`, `script`, `style` and `textarea`. The rendering
ends within the work limit for every template of fewer nodes than the limit, less four. -/
theorem render_plain_template {f : Forest} (hf : f.WellFormed) {target : NodeId}
    (ht : target.index < f.nodes.size) (htc : f.isComment target = false)
    (hplain : ∀ x : NodeId, x.index < f.nodes.size → plainNode f x = true)
    (data : Value) (config : RenderConfig) (hK : 0 < config.concurrency)
    (hsize : f.nodes.size + 4 ≤ workLimit) :
    (renderTemplate f target data config).step = none ∧
      (renderTemplate f target data config).forest.shape (f.top target) =
        if config.debug then f.shape (f.top target)
        else compactedShape f target (f.top target) := by
  have hcopy := hf.copied_copyTree (n := f.top target) (Prod.mk.eta (p := f.copyTree (f.top target))).symm
  have h₀ := Session.plainRun_start hf ht data config hK
  set F := (f.copyTree (f.top target)).2
  have hext : f.Extends F := hcopy.ext
  have hget : ∀ y : NodeId, y.index < f.nodes.size → F.get y = f.get y := hext.2
  have hplainF : ∀ x : NodeId, x.index < f.nodes.size → plainNode F x = true := fun x hx => by
    rw [plainNode_congr (g := F) (f := f) (by simp [kind, hget x hx])]
    exact hplain x hx
  have hFM : ∀ y c : NodeId, y.index < f.nodes.size → c ∈ F.children y →
      c.index < f.nodes.size := fun y c hy hc => by
    rw [show F.children y = f.children y by simp [children, hget y hy]] at hc
    exact hf.index_lt_of_mem_children hc
  have hwork : Session.plainWork F f.nodes.size (Session.start f target data config) ≤ workLimit := by
    obtain ⟨-, -, -, hqueue, hnext, hunst, -, hrun, -⟩ := Session.start_fields f target data config
    have := unreached_le F f.nodes.size (Session.start f target data config).takenNodes
    simp only [Session.plainWork, Session.queuedNodes, hqueue, hnext, hunst, hrun]
    simp [hK]
    omega
  obtain ⟨hend_run, hend⟩ := Session.PlainRun.drain hcopy.wf hplainF hFM workLimit _ h₀ hwork
  refine ⟨hend, ?_⟩
  obtain ⟨htop, htop_le⟩ := hf.top_spec target
  have htopf : (f.top target).index < f.nodes.size := by omega
  split
  · -- debugging, nothing changes
    rename_i hd
    rw [renderTemplate, hend_run.unchanged hd]
    exact hf.shape_eq hext.1 htopf fun y _ hy => ⟨by simp [kind, hget y hy], by simp [children, hget y hy]⟩
  · -- otherwise every node below the target is compressed
    rename_i hd
    have hd' : config.debug = false := by simpa using hd
    have htcF : F.isComment target = false := by
      rw [isComment_congr (g := F) (f := f) (by simp [kind, hget target ht])]
      exact htc
    have hrootF : F.parent? (f.top target) = none := by
      rw [parent?, hget _ htopf]
      exact htop
    have hsizeF := hext.1
    rw [renderTemplate, (hend_run.compressing hd').shape_eq hcopy.wf (hend_run.queue_drained hend)
      htcF (by omega) hrootF]
    exact compactedShape_of_extends hf hext target htopf

/-- `<div> a  b <!--note--><pre> x  y </pre></div>`: a template without directives, with a comment
to take out and texts to collapse, one of them under `pre`. -/
def spacedForest : Forest := ⟨#[
  ⟨.document, none, #[⟨1⟩]⟩,
  ⟨.element "div" [] true, some ⟨0⟩, #[⟨2⟩, ⟨3⟩, ⟨4⟩]⟩,
  ⟨.string .text " a  b ", some ⟨1⟩, #[]⟩,
  ⟨.string .comment "note", some ⟨1⟩, #[]⟩,
  ⟨.element "pre" [] true, some ⟨1⟩, #[⟨5⟩]⟩,
  ⟨.string .text " x  y ", some ⟨4⟩, #[]⟩]⟩

/-- The document `spacedForest`, rendered with the default configuration, ends compacted. -/
theorem render_spaced_template :
    spacedForest.WellFormed ∧ spacedForest.isComment ⟨0⟩ = false ∧
      (∀ x : NodeId, x.index < spacedForest.nodes.size → plainNode spacedForest x = true) ∧
      (renderTemplate spacedForest ⟨0⟩ .null .default).step = none ∧
      (renderTemplate spacedForest ⟨0⟩ .null .default).forest.shape (spacedForest.top ⟨0⟩) =
        if RenderConfig.default.debug then spacedForest.shape (spacedForest.top ⟨0⟩)
        else compactedShape spacedForest ⟨0⟩ (spacedForest.top ⟨0⟩) := by
  have hf : spacedForest.WellFormed := wellFormed_of_lt (by decide)
  have hplain : ∀ x : NodeId, x.index < spacedForest.nodes.size → plainNode spacedForest x = true := by
    have h : ∀ i < 6, plainNode spacedForest ⟨i⟩ = true := by decide
    exact fun x hx => h x.index hx
  exact ⟨hf, rfl, hplain,
    render_plain_template hf (by decide) rfl hplain .null .default (by decide) (by decide)⟩

end Stencil.Template

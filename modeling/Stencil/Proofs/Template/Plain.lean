import Mathlib
import Stencil.Proofs.Template.Expansion
import Stencil.Proofs.Template.Queue
/-!
# Templates without directives

A template node none of whose attributes is a directive or an escaped `data-data-*` attribute
(`plainNode`) is rendered by compressing it, unless debugging, and queuing its children, and by
nothing else (`Session.process_of_plain`): no variable is assigned, no attribute is bound, no
condition is read, nothing is applied and nothing is stripped.

Taking such tasks one after the other keeps the nodes compressed so far, with the nodes still
queued, covering the subtree of the target (`Session.Compressing`, `Session.Compressing.take`):
the children of a compressed node are compressed or queued, and every compressed node but the
target has its parent compressed. The run as a whole is in `Stencil.Proofs.Template.PlainRender`.

* `plainNode` : a node with no directive and no escaped attribute.
* `Session.plainTask` : what the task of such a node does.
* `Session.Compressing` : the nodes compressed part way through a rendering.
-/

namespace Stencil.Markup.Forest

/-! ## Tops of trees -/

section Trees

variable {f : Forest}

theorem WellFormed.last_ancestorsWithin (hf : f.WellFormed) : ∀ (k : Nat) (n : NodeId),
    n.index < k → f.parent? ((f.ancestorsWithin k n).getLast?.getD n) = none ∧
      ((f.ancestorsWithin k n).getLast?.getD n).index ≤ n.index
  | 0, _, hn => absurd hn (Nat.not_lt_zero _)
  | k + 1, n, hn => by
    rw [ancestorsWithin]
    cases hp : f.parent? n with
    | none => exact ⟨hp, le_refl _⟩
    | some p =>
      have hpn := hf.ordered n p hp
      obtain ⟨htop, hle⟩ := hf.last_ancestorsWithin k p (by omega)
      rw [List.getLast?_cons, Option.getD_some]
      exact ⟨htop, by omega⟩

theorem WellFormed.top_spec (hf : f.WellFormed) (n : NodeId) :
    f.parent? (f.top n) = none ∧ (f.top n).index ≤ n.index := by
  by_cases hn : n.index < f.nodes.size
  · exact hf.last_ancestorsWithin _ n (by unfold depthBound; omega)
  · have hp := parent?_of_size_le (Nat.le_of_not_lt hn)
    have htop : f.top n = n := by
      rw [top, ancestors, depthBound, ancestorsWithin, hp]
      rfl
    rw [htop]
    exact ⟨hp, le_refl _⟩

end Trees

end Stencil.Markup.Forest

namespace Stencil.Template

open Stencil.Markup Forest

def plainAttr (a : String × String) : Bool := !isDirective a.1 && !a.1.startsWith escapedPrefix

/-- A node whose attributes rendering leaves alone; a node that is not an element has none. -/
def plainNode (f : Forest) (x : NodeId) : Bool := (f.attrs x).all plainAttr

/-! ## Plain nodes -/

section Plain

variable {f : Forest} {x : NodeId}

theorem plainNode_congr {g : Forest} (h : g.kind x = f.kind x) : plainNode g x = plainNode f x := by
  simp only [plainNode, attrs, h]

theorem plainNode_of_isText (h : f.isText x = true) : plainNode f x = true := by
  unfold isText at h
  unfold plainNode attrs
  split at h <;> simp_all

theorem plainAttr_prefixes {a : String × String} (h : plainAttr a = true) :
    isDirective a.1 = false ∧ a.1.startsWith variablePrefix = false ∧
      a.1.startsWith targetPrefix = false ∧ a.1.startsWith escapedPrefix = false := by
  simp only [plainAttr, Bool.and_eq_true, Bool.not_eq_true'] at h
  simp only [isDirective, Bool.or_eq_false_iff] at h
  exact ⟨by rw [isDirective, h.1.1.1, h.1.1.2, h.1.2]; rfl, h.1.1.2, h.1.2, h.2⟩

theorem attr?_of_plain (h : plainNode f x = true) {name : String} (hn : isDirective name = true) :
    f.attr? x name = none := by
  rw [attr?, List.lookup_eq_none_iff]
  intro a ha
  have hd := (plainAttr_prefixes (List.all_eq_true.mp h a ha)).1
  rw [bne_iff_ne]
  rintro rfl
  rw [hn] at hd
  cases hd

theorem optionWords_of_plain (h : plainNode f x = true) : optionWords f x = [] := by
  rw [optionWords, attr?_of_plain h (by decide)]

theorem applyTemplates_of_plain (h : plainNode f x = true) (pristine : NodeId) :
    applyTemplates f x pristine = .ok (0, f, []) := by
  rw [applyTemplates, attr?_of_plain h (by decide)]

theorem stripDirectives_of_plain (h : plainNode f x = true) : stripDirectives f x = f := by
  have hplain : ∀ a ∈ f.attrs x, plainAttr a = true := List.all_eq_true.mp h
  unfold stripDirectives
  split
  · rfl
  · dsimp only
    rw [List.foldl_ext _ (fun g _ => g) _ fun g a ha => ?_, List.foldl_fixed' (fun _ => rfl),
      List.foldl_ext _ (fun g _ => g) _ fun g a ha => ?_, List.foldl_fixed' (fun _ => rfl)]
    · obtain ⟨hdir, -, -, -⟩ := plainAttr_prefixes (hplain a ha)
      simp only [hdir, Bool.and_false, Bool.false_eq_true, if_false]
    · obtain ⟨-, -, -, hesc⟩ := plainAttr_prefixes (hplain a ha)
      simp only [hesc, Bool.false_eq_true, if_false]

theorem filterMap_assignmentOf_of_plain (h : plainNode f x = true) :
    (f.attrs x).filterMap Session.assignmentOf = [] := by
  refine List.filterMap_eq_nil_iff.mpr fun a ha => ?_
  obtain ⟨-, hvar, -, -⟩ := plainAttr_prefixes (List.all_eq_true.mp h a ha)
  simp [Session.assignmentOf, hvar]

theorem filterMap_bindingOf_of_plain (h : plainNode f x = true) :
    (f.attrs x).filterMap Session.bindingOf = [] := by
  refine List.filterMap_eq_nil_iff.mpr fun a ha => ?_
  obtain ⟨-, -, hto, -⟩ := plainAttr_prefixes (List.all_eq_true.mp h a ha)
  simp [Session.bindingOf, hto]

end Plain

namespace Session

/-! ## The task of a plain node -/

/-- What the task of a node without directives does: the node is compressed, unless debugging,
and unless it was a comment taken out, its children are queued in the task's scope. -/
def plainTask (s : Session) (task : Task) : Session :=
  match s.compressNode task.node with
  | (some n, s) => s.enqueueChildren n task.scope
  | (none, s) => s

section Task

variable (s : Session) {e : NodeId} (scope : Nat)

theorem fst_compress (g : Forest) (n : NodeId) :
    (compress g n).1 = if g.isComment n then none else some n := by
  unfold compress
  split
  · rfl
  · split <;> rfl

theorem compressNode_eq (n : NodeId) :
    s.compressNode n = if s.config.debug then (some n, s)
      else ((compress s.forest n).1, { s with forest := (compress s.forest n).2 }) := by
  unfold compressNode
  split
  · rfl
  · rcases compress s.forest n with ⟨o, g⟩
    rfl

theorem prepare_of_plain (h : plainNode s.forest e = true) : s.prepare e = .ok s := by
  unfold prepare
  split
  · rw [applyTemplates_of_plain h]
    simp [stripDirectives_of_plain h]
  · rfl

theorem scheduleOne_of_plain (ht : s.table.isTemplate e = false) (h : plainNode s.forest e = true) :
    s.scheduleOne e scope = .ok (s.enqueueChildren e scope) := by
  unfold scheduleOne
  rw [if_neg (by simp [ht]), optionWords_of_plain h, prepare_of_plain s h]
  simp [Except.map, queueChildren]

theorem schedule_of_plain (ht : s.table.isTemplate e = false) (h : plainNode s.forest e = true) :
    s.schedule e [(e, scope)] = s.enqueueChildren e scope := by
  simp [schedule, ht, scheduleSteps, scheduleOne_of_plain s scope ht h]

theorem applyConditions_of_plain (h : plainNode s.forest e = true) (options : List String)
    (b : Bool) : s.applyConditions e scope options b = s.schedule e [(e, scope)] :=
  applyConditions_of_conditions
    (.keeps (.absent (attr?_of_plain h (by decide))) (.absent (attr?_of_plain h (by decide)))
      (attr?_of_plain h (by decide))) options

/-- The task of a node that carries no directive, and is no template, compresses the node unless
debugging and queues the children of what is left of it. -/
theorem process_of_plain (task : Task) (ht : s.table.templates = [])
    (h : plainNode (s.compressNode task.node).2.forest task.node = true) :
    s.process task = s.plainTask task := by
  obtain ⟨node, scope⟩ := task
  have hT : ∀ t : Session, t.table = s.table → t.table.isTemplate node = false := fun t he => by
    simp [NodeTable.isTemplate, he, ht]
  rw [compressNode_eq] at h
  unfold process plainTask
  rw [compressNode_eq]
  by_cases hd : s.config.debug = true
  · -- debugging: the node stays as it is
    rw [if_pos hd] at h ⊢
    dsimp only at h ⊢
    by_cases he : s.forest.isElement node
    · rw [if_neg (by simp [he]), if_neg (by simp [hT s rfl]), assignVariables_eq,
        filterMap_assignmentOf_of_plain h, resolveAll_nil, bindAttributes_eq,
        filterMap_bindingOf_of_plain h]
      exact (applyConditions_of_plain s scope h _ _).trans (schedule_of_plain s scope (hT s rfl) h)
    · rw [if_pos (by simp [he])]
      exact schedule_of_plain s scope (hT s rfl) h
  · rw [if_neg hd] at h ⊢
    rw [fst_compress]
    by_cases hc : s.forest.isComment node = true
    · -- a comment is taken out, and its task ends
      rw [if_pos hc]
    · rw [if_neg hc]
      set s₀ : Session := { s with forest := (compress s.forest node).2 }
      dsimp only at h ⊢
      by_cases he : s₀.forest.isElement node
      · rw [if_neg (by simp [he]), if_neg (by simp [hT s₀ rfl]), assignVariables_eq,
          filterMap_assignmentOf_of_plain h, resolveAll_nil, bindAttributes_eq,
          filterMap_bindingOf_of_plain h]
        exact (applyConditions_of_plain s₀ scope h _ _).trans
          (schedule_of_plain s₀ scope (hT s₀ rfl) h)
      · rw [if_pos (by simp [he])]
        exact schedule_of_plain s₀ scope (hT s₀ rfl) h

theorem compressNode_keeps (n : NodeId) :
    (s.compressNode n).2.table = s.table ∧ (s.compressNode n).2.config = s.config ∧
      (s.compressNode n).2.queue = s.queue ∧ (s.compressNode n).2.next = s.next ∧
      (s.compressNode n).2.ready = s.ready := by
  rw [compressNode_eq]
  split <;> exact ⟨rfl, rfl, rfl, rfl, rfl⟩

theorem plainTask_cases (task : Task) :
    ((s.compressNode task.node).1 = none ∧ s.plainTask task = (s.compressNode task.node).2) ∨
      ((s.compressNode task.node).1 = some task.node ∧
        s.plainTask task = (s.compressNode task.node).2.enqueueChildren task.node task.scope) := by
  unfold plainTask
  rw [compressNode_eq]
  split
  · exact Or.inr ⟨rfl, rfl⟩
  · rw [fst_compress]
    split
    · exact Or.inl ⟨rfl, rfl⟩
    · exact Or.inr ⟨rfl, rfl⟩

theorem config_enqueueChildren (p : NodeId) (scope : Nat) :
    (s.enqueueChildren p scope).config = s.config := by
  unfold enqueueChildren
  generalize s.forest.children p = cs
  induction cs generalizing s with
  | nil => rfl
  | cons c cs ih =>
    rw [List.foldl_cons, ih]
    unfold enqueue
    dsimp only
    split <;> rfl

end Task

/-! ## The queue -/

def queuedNodes (s : Session) : List NodeId := (s.queue.toList.drop s.next).map Task.node

section Queue

variable (s : Session)

theorem queuedNodes_take {task : Task} (hq : s.queue[s.next]? = some task) :
    s.queuedNodes = task.node :: { s with next := s.next + 1 }.queuedNodes := by
  obtain ⟨hlt, hget⟩ := Array.getElem?_eq_some_iff.mp hq
  unfold queuedNodes
  rw [List.drop_eq_getElem_cons (by simpa using hlt), List.map_cons, Array.getElem_toList, hget]

theorem queuedNodes_enqueueChildren (hle : s.next ≤ s.queue.size) (p : NodeId) (scope : Nat) :
    (s.enqueueChildren p scope).queuedNodes = s.queuedNodes ++ s.forest.children p := by
  have h := feeds_enqueueChildren s p scope
  unfold queuedNodes
  rw [h.queue, h.next, List.drop_append_of_le_length (by simpa using hle), List.map_append,
    List.map_map]
  exact congrArg _ (List.map_id _)

theorem queuedNodes_eq_nil (h : s.next = s.queue.size) : s.queuedNodes = [] := by
  simp [queuedNodes, h]

theorem plainTask_keeps (task : Task) (hle : s.next ≤ s.queue.size) :
    (s.plainTask task).forest = (s.compressNode task.node).2.forest ∧
      (s.plainTask task).table = s.table ∧ (s.plainTask task).config = s.config ∧
      (s.plainTask task).next ≤ (s.plainTask task).queue.size ∧
      (∀ w ∈ (s.plainTask task).ready.toList, w ∈ s.ready.toList ∨ w = .take) ∧
      ∀ x ∈ (s.plainTask task).queuedNodes,
        x ∈ s.queuedNodes ∨ x ∈ (s.plainTask task).forest.children task.node := by
  obtain ⟨ht₀, hc₀, hq₀, hn₀, hr₀⟩ := compressNode_keeps s task.node
  rcases plainTask_cases s task with ⟨-, heq⟩ | ⟨-, heq⟩ <;> rw [heq] <;>
    generalize (s.compressNode task.node).2 = s₀ at *
  all_goals have hqueued₀ : s₀.queuedNodes = s.queuedNodes := by simp only [queuedNodes, hq₀, hn₀]
  · exact ⟨rfl, ht₀, hc₀, hq₀ ▸ hn₀ ▸ hle, fun w hw => Or.inl (hr₀ ▸ hw),
      fun x hx => Or.inl (hqueued₀ ▸ hx)⟩
  · have hle₀ : s₀.next ≤ s₀.queue.size := hq₀ ▸ hn₀ ▸ hle
    have hfeeds := feeds_enqueueChildren s₀ task.node task.scope
    have hforest := forest_enqueueChildren s₀ task.node task.scope
    refine ⟨hforest, (table_scopes_enqueueChildren s₀ _ _).1.trans ht₀,
      (config_enqueueChildren s₀ _ _).trans hc₀, ?_, fun w hw => ?_, fun x hx => ?_⟩
    · have hsize := congrArg List.length hfeeds.queue
      simp only [Array.length_toList, List.length_append] at hsize
      rw [hfeeds.next]
      omega
    · rw [hfeeds.ready, List.mem_append, hr₀] at hw
      exact hw.imp_right List.eq_of_mem_replicate
    · rw [queuedNodes_enqueueChildren s₀ hle₀, hqueued₀, List.mem_append] at hx
      rwa [hforest]

end Queue

end Session

/-! ## Compressing one more node -/

section Compress

variable {F g : Forest} {D : List NodeId} {x y c : NodeId}

theorem mem_children_compress (hg : g.WellFormed) (hxy : x ≠ y)
    (hc : c ∈ (compress g y).2.children x) : c ∈ g.children x := by
  cases hcom : g.isComment y
  · cases ht : tidies g y
    · rwa [compress_of_not_tidies hcom ht] at hc
    · have hcol := collapsed_compress hg hcom ht
      by_cases hx : x.index < g.nodes.size
      · rwa [hcol.others x hxy hx] at hc
      · rw [(hcol.fresh x (Nat.le_of_not_lt hx)).2] at hc
        cases hc
  · rw [compress_of_isComment hcom, children_detach_eq_filter hg.linked] at hc
    exact List.mem_of_mem_filter hc

theorem Compacted.isComment_eq (h : Compacted F F.nodes.size D g) (y : NodeId) :
    g.isComment y = F.isComment y := by
  by_cases hy : y.index < F.nodes.size
  · exact isComment_congr (h.kind y hy)
  · rw [not_isComment_of_isText (h.fresh y (Nat.le_of_not_lt hy)).1,
      not_isComment_of_isText (isText_of_size_le (Nat.le_of_not_lt hy))]

/-- The nodes of a compacted template keep their attributes; the fresh ones are texts. -/
theorem Compacted.plainNode (h : Compacted F F.nodes.size D g)
    (hy : y.index < F.nodes.size → plainNode F y = true) : plainNode g y = true := by
  by_cases hy' : y.index < F.nodes.size
  · rw [plainNode_congr (h.kind y hy')]
    exact hy hy'
  · exact plainNode_of_isText (h.fresh y (Nat.le_of_not_lt hy')).1

theorem Compacted.mem_children (h : Compacted F F.nodes.size D g) (hc : c ∈ g.children x)
    (hcF : c.index < F.nodes.size) : c ∈ F.children x := by
  by_cases hx : x.index < F.nodes.size
  · obtain ⟨a, ha, hac⟩ := exists_of_forall₂ (List.Forall₂.flip (R := flip _) (h.children x hx)) c hc
    cases ho : collapsedBy? F D x a with
    | none =>
      have hca : c = a := by
        simpa [flip, ho, Stands] using hac
      rw [hca]
      exact List.mem_of_mem_filter ha
    | some t =>
      have hN : F.nodes.size ≤ c.index := by
        simp only [flip, ho] at hac
        exact hac.1
      omega
  · rw [(h.fresh x (Nat.le_of_not_lt hx)).2] at hc
    cases hc

end Compress

namespace Session

/-! ## Compressing task by task -/

/-- Part way through compressing the subtree of `target` in the template `F`: the nodes `D` have
been compressed; every node compressed or queued that is a node of the template, other than the
target, has its parent compressed; the children of a compressed node that is not a comment are
compressed or queued; and so is the target. -/
structure Compressing (F : Forest) (target : NodeId) (D : List NodeId) (s : Session) : Prop where
  compacted : Compacted F F.nodes.size D s.forest
  parent : ∀ x ∈ D ++ s.queuedNodes, x.index < F.nodes.size → x ≠ target →
    ∃ p ∈ D, F.parent? x = some p
  closed : ∀ x ∈ D, F.isComment x = false → ∀ c ∈ s.forest.children x, c ∈ D ++ s.queuedNodes
  target : target ∈ D ++ s.queuedNodes

section Run

variable {F : Forest} {target : NodeId} {D : List NodeId} {s t : Session}

theorem Compressing.of_eq (h : Compressing F target D s) (hf : t.forest = s.forest)
    (hq : t.queuedNodes = s.queuedNodes) : Compressing F target D t := by
  refine ⟨hf ▸ h.compacted, hq ▸ h.parent, ?_, hq ▸ h.target⟩
  rw [hf, hq]
  exact h.closed

/-- Taking the next task, unless debugging: its node is compressed, and its children, unless it
was a comment taken out, are queued. -/
theorem Compressing.take (h : Compressing F target D s) (hF : F.WellFormed)
    (hd : s.config.debug = false) {task : Task} (hq : s.queue[s.next]? = some task) :
    Compressing F target (D ++ [task.node]) ({ s with next := s.next + 1 }.plainTask task) := by
  obtain ⟨y, scope⟩ := task
  set s₁ : Session := { s with next := s.next + 1 }
  set g := (compress s.forest y).2
  have hqueued : s.queuedNodes = y :: s₁.queuedNodes := queuedNodes_take s hq
  have hle₁ : s₁.next ≤ s₁.queue.size := (Array.getElem?_eq_some_iff.mp hq).1
  have hc : Compacted F F.nodes.size (D ++ [y]) g := h.compacted.compress hF.linked (lt_or_ge _ _)
  have hcom : s.forest.isComment y = F.isComment y := h.compacted.isComment_eq y
  have hs₀ : (s₁.compressNode y).2 = { s₁ with forest := g } := by
    rw [compressNode_eq, if_neg (by simp [s₁, hd])]
  have hfst : (s₁.compressNode y).1 = if F.isComment y then none else some y := by
    rw [compressNode_eq, if_neg (by simp [s₁, hd]), fst_compress, ← hcom]
  -- the forest after the task, and the nodes queued: those left, and the children of `y` kept
  obtain ⟨hforest, hQ⟩ : (s₁.plainTask ⟨y, scope⟩).forest = g ∧
      (s₁.plainTask ⟨y, scope⟩).queuedNodes =
        s₁.queuedNodes ++ if F.isComment y then [] else g.children y := by
    rcases plainTask_cases s₁ ⟨y, scope⟩ with ⟨hnone, heq⟩ | ⟨hsome, heq⟩ <;> rw [heq, hs₀]
    · rw [hfst] at hnone
      have hy : F.isComment y = true := by
        by_contra hy
        simp [hy] at hnone
      refine ⟨rfl, ?_⟩
      rw [if_pos hy, List.append_nil]
      rfl
    · rw [hfst] at hsome
      have hy : F.isComment y = false := by
        by_contra hy
        simp [hy] at hsome
      refine ⟨forest_enqueueChildren _ _ _, ?_⟩
      rw [queuedNodes_enqueueChildren { s₁ with forest := g } hle₁, hy]
      rfl
  -- every node compressed or queued after the task was so before, or is a child of `y` kept
  have hsplit : ∀ x ∈ (D ++ [y]) ++ (s₁.plainTask ⟨y, scope⟩).queuedNodes,
      x ∈ D ++ s.queuedNodes ∨ (F.isComment y = false ∧ x ∈ g.children y) := by
    intro x hx
    rw [hQ] at hx
    rw [hqueued]
    simp only [List.mem_append, List.mem_cons] at hx ⊢
    cases hy : F.isComment y <;> simp only [hy, if_true, Bool.false_eq_true, if_false] at hx ⊢ <;>
      simp only [List.not_mem_nil, or_false, true_and] at hx ⊢ <;> tauto
  have hkeep : ∀ x ∈ D ++ s.queuedNodes, x ∈ (D ++ [y]) ++ (s₁.plainTask ⟨y, scope⟩).queuedNodes := by
    intro x hx
    rw [hQ]
    rw [hqueued] at hx
    simp only [List.mem_append, List.mem_cons] at hx ⊢
    tauto
  refine ⟨hforest ▸ hc, fun x hx hxF hxt => ?_, fun x hx hxc c hcx => ?_, hkeep _ h.target⟩
  · rcases hsplit x hx with hx | ⟨-, hx⟩
    · obtain ⟨p, hp, hpx⟩ := h.parent x hx hxF hxt
      exact ⟨p, List.mem_append_left _ hp, hpx⟩
    · -- a child of `y` kept has `y` for its parent
      exact ⟨y, List.mem_append_right _ (List.mem_singleton_self _),
        hF.linked y x (hc.mem_children hx hxF)⟩
  · rw [hforest] at hcx
    by_cases hxy : x = y
    · -- the children of `y` kept are queued
      subst hxy
      rw [hQ, if_neg (by simp [hxc])]
      exact List.mem_append_right _ (List.mem_append_right _ hcx)
    · have hxD : x ∈ D := by simpa [hxy] using hx
      exact hkeep c (h.closed x hxD hxc c (mem_children_compress h.compacted.wf hxy hcx))

end Run

end Session

end Stencil.Template

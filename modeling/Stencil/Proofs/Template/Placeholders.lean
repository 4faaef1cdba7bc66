import Mathlib
import Stencil.Proofs.Template.Quiet
import Stencil.Proofs.Template.Schedule
/-!
# No bookkeeping reaches the output

A session is sound (`Session.Sound`) when its table agrees with its forest and its ready work
accounts for every expansion: the chains and reports still to run for an expansion, with the
reports it had, make up its clones, and its worker is ready to resume exactly when all were
reported. A placeholder then stays attached only while the expansion of its element has not
resumed, since resuming takes the element and its placeholder out.

Every step of every interleaving keeps a session sound (`Session.sound_next`), so at the end of
a rendering, when no work is left, every expansion has resumed: no placeholder and no template
is in any document (`bookkeeping_leaves_output`).
-/

namespace Stencil.Template

open Stencil.Markup Forest NodeTable

/-- Ready work that an expansion `n` waits for before its last report: the renderer chains of its
clones and their reports. -/
def Wakeup.feeds (n : Nat) : Wakeup → Bool
  | .render m _ => m == n
  | .report m => m == n
  | _ => false

def Wakeup.resumes (n : Nat) : Wakeup → Bool
  | .resume m => m == n
  | _ => false

namespace Session

def ran (s : Session) : List Wakeup := s.ready.toList.take s.nextReady

def pending (s : Session) : List Wakeup := s.ready.toList.drop s.nextReady

/-- A sound session: the table agrees with the forest; every expansion is of a template with
some clones; its reports so far and the chains and reports still to run make up its clones, and
its worker is ready to resume once, exactly when all were reported; no work is ready for an
expansion not made yet; a placeholder with a parent stands for an element whose expansion
has not resumed; and the configured renderers keep forests tame. -/
structure Sound (s : Session) : Prop where
  table : s.table.Sound s.forest
  nextReady_le : s.nextReady ≤ s.ready.size
  element_template : ∀ (n : Nat) (x : Expansion), s.expansions[n]? = some x →
    x.element ∈ s.table.templates
  clones_pos : ∀ (n : Nat) (x : Expansion), s.expansions[n]? = some x → 0 < x.clones.length
  awaited : ∀ (n : Nat) (x : Expansion), s.expansions[n]? = some x →
    x.reported + s.pending.countP (Wakeup.feeds n) = x.clones.length
  resumable : ∀ (n : Nat) (x : Expansion), s.expansions[n]? = some x →
    s.ready.toList.countP (Wakeup.resumes n) = if x.reported = x.clones.length then 1 else 0
  unknown : ∀ n, s.expansions.size ≤ n →
    s.ready.toList.countP (Wakeup.feeds n) = 0 ∧ s.ready.toList.countP (Wakeup.resumes n) = 0
  live : ∀ e p, (e, p) ∈ s.table.placeholders → s.forest.parent? p = none ∨
    ∃ n x, s.expansions[n]? = some x ∧ x.element = e ∧ Wakeup.resume n ∉ s.ran
  renderers : ∀ x ∈ s.config.renderers, x.Tame

def Safe (s t : Session) : Prop :=
  s.Sound → t.Sound ∧ Step (fun _ => True) s.table s.forest t.table t.forest

theorem Safe.trans {s t u : Session} (h₁ : Safe s t) (h₂ : Safe t u) : Safe s u := by
  intro hs
  obtain ⟨ht, st₁⟩ := h₁ hs
  obtain ⟨hu, st₂⟩ := h₂ ht
  refine ⟨hu, st₁.tame.trans st₂.tame, fun e he => st₂.templates e (st₁.templates e he),
    fun e p hp => ?_, fun _ _ _ => Or.inr trivial⟩
  rcases st₁.kept e p hp with hp' | hp'
  · exact st₂.kept e p hp'
  · exact Or.inr (st₂.tame.keeps p
      (lt_of_lt_of_le (hs.table.placeholder_lt e p hp) st₁.tame.grows) hp')

/-! ## Counting ready work -/

theorem countP_replicate_take (n k : Nat) :
    (List.replicate k Wakeup.take).countP (Wakeup.feeds n) = 0 ∧
      (List.replicate k Wakeup.take).countP (Wakeup.resumes n) = 0 := by
  simp [List.countP_replicate, Wakeup.feeds, Wakeup.resumes]

theorem take_append_ready {R : List Wakeup} {i : Nat} (h : i ≤ R.length) (T : List Wakeup) :
    (R ++ T).take i = R.take i :=
  List.take_append_of_le_length h

theorem drop_append_ready {R : List Wakeup} {i : Nat} (h : i ≤ R.length) (T : List Wakeup) :
    (R ++ T).drop i = R.drop i ++ T :=
  List.drop_append_of_le_length h

/-! ## Quiet parts keep a session sound -/

theorem safe_of_quiet {s t : Session} (h : Quiet (fun _ => False) s t) : Safe s t := by
  intro hs
  obtain ⟨hts, st⟩ := h.table hs.table
  obtain ⟨k, hk⟩ := h.ready
  have hlen : s.nextReady ≤ s.ready.toList.length := by simpa using hs.nextReady_le
  have hran : t.ran = s.ran := by
    rw [ran, ran, hk, h.nextReady, take_append_ready hlen]
  have hpend : t.pending = s.pending ++ List.replicate k .take := by
    rw [pending, pending, hk, h.nextReady, drop_append_ready hlen]
  have hcount := countP_replicate_take
  refine ⟨⟨hts, ?_, ?_, ?_, ?_, ?_, ?_, ?_, h.config ▸ hs.renderers⟩, st.tame, st.templates,
    st.kept, fun _ _ _ => Or.inr trivial⟩
  · have := congrArg List.length hk
    simp only [Array.length_toList, List.length_append] at this
    rw [h.nextReady]
    exact hs.nextReady_le.trans (by omega)
  · intro n x hx
    rw [h.expansions] at hx
    exact h.templates _ (hs.element_template n x hx)
  · intro n x hx
    rw [h.expansions] at hx
    exact hs.clones_pos n x hx
  · intro n x hx
    rw [h.expansions] at hx
    rw [hpend, List.countP_append, (hcount n k).1, Nat.add_zero]
    exact hs.awaited n x hx
  · intro n x hx
    rw [h.expansions] at hx
    rw [hk, List.countP_append, (hcount n k).2, Nat.add_zero]
    exact hs.resumable n x hx
  · intro n hn
    rw [h.expansions] at hn
    rw [hk, List.countP_append, List.countP_append, (hcount n k).1, (hcount n k).2]
    simpa using hs.unknown n hn
  · intro e p hp
    rcases st.fresh e p hp with hp' | hp'
    · rcases hs.live e p hp' with hd | ⟨n, x, hx, hxe, hn⟩
      · exact Or.inl (st.tame.keeps p (hs.table.placeholder_lt e p hp') hd)
      · exact Or.inr ⟨n, x, h.expansions ▸ hx, hxe, hran ▸ hn⟩
    · exact hp'.elim

theorem safe_of_eq {s t : Session} (hf : t.forest = s.forest) (ht : t.table = s.table)
    (he : t.expansions = s.expansions) (hn : t.nextReady = s.nextReady) (hr : t.ready = s.ready)
    (hc : t.config = s.config) : Safe s t :=
  safe_of_quiet (quiet_of_eq hf (by rw [ht]) (by rw [ht]) he hn hr hc)

theorem resume_not_mem {l : List Wakeup} {n : Nat} (h : l.countP (Wakeup.resumes n) = 0) :
    Wakeup.resume n ∉ l := by
  intro hn
  have := List.countP_eq_zero.mp h _ hn
  simp [Wakeup.resumes] at this

theorem resume_mem {l : List Wakeup} {n : Nat} (h : 0 < l.countP (Wakeup.resumes n)) :
    Wakeup.resume n ∈ l := by
  obtain ⟨w, hw, hr⟩ := List.countP_pos_iff.mp h
  cases w <;> simp_all [Wakeup.resumes]

theorem countP_renders (n N k : Nat) :
    ((List.range k).map (Wakeup.render N)).countP (Wakeup.feeds n) = (if N = n then k else 0) ∧
      ((List.range k).map (Wakeup.render N)).countP (Wakeup.resumes n) = 0 := by
  constructor
  · split
    · rename_i h
      simp [List.countP_map, Function.comp_def, Wakeup.feeds, h]
    · rename_i h
      simp [List.countP_map, Function.comp_def, Wakeup.feeds, h]
  · simp [List.countP_map, Function.comp_def, Wakeup.resumes]

theorem Sound.pending_feeds_eq_zero {s : Session} (hs : s.Sound) {n : Nat}
    (hn : s.expansions.size ≤ n) : s.pending.countP (Wakeup.feeds n) = 0 :=
  Nat.eq_zero_of_le_zero ((List.drop_sublist _ _).countP_le.trans_eq (hs.unknown n hn).1)

theorem Sound.not_ran_resume {s : Session} (hs : s.Sound) {n : Nat}
    (hn : s.expansions.size ≤ n) : Wakeup.resume n ∉ s.ran :=
  resume_not_mem (Nat.eq_zero_of_le_zero
    ((List.take_sublist _ _).countP_le.trans_eq (hs.unknown n hn).2))

theorem Sound.of_eq {s t : Session} (hs : s.Sound) (hf : t.forest = s.forest)
    (ht : t.table = s.table) (he : t.expansions = s.expansions) (hn : t.nextReady = s.nextReady)
    (hr : t.ready = s.ready) (hc : t.config = s.config) : t.Sound :=
  (safe_of_eq hf ht he hn hr hc hs).1

/-! ## Ready work taken in another order -/

theorem ready_prefer_perm (s : Session) (j : Nat) : (s.prefer j).ready.toList.Perm s.ready.toList := by
  simp only [prefer, Array.swapIfInBounds_def]
  split
  · split
    · exact Array.perm_iff_toList_perm.mp (Array.swap_perm _ _)
    · exact List.Perm.refl _
  · exact List.Perm.refl _

theorem ran_prefer (s : Session) {j : Nat} (hj : s.nextReady ≤ j) : (s.prefer j).ran = s.ran := by
  simp only [ran, prefer, Array.swapIfInBounds_def]
  split
  · split
    · rw [Array.toList_swap, List.take_set_of_le hj, List.take_set_of_le le_rfl]
    · rfl
  · rfl

theorem pending_prefer_perm (s : Session) {j : Nat} (hj : s.nextReady ≤ j) :
    (s.prefer j).pending.Perm s.pending := by
  have h := ready_prefer_perm s j
  rw [← List.take_append_drop s.nextReady (s.prefer j).ready.toList,
    ← List.take_append_drop s.nextReady s.ready.toList] at h
  have hran : (s.prefer j).ready.toList.take s.nextReady = s.ready.toList.take s.nextReady :=
    ran_prefer s hj
  rw [hran] at h
  exact (List.perm_append_left_iff _).mp h

theorem Sound.prefer {s : Session} (hs : s.Sound) {j : Nat} (hj : s.nextReady ≤ j) :
    (s.prefer j).Sound where
  table := hs.table
  nextReady_le := by simpa [Session.prefer] using hs.nextReady_le
  element_template := hs.element_template
  clones_pos := hs.clones_pos
  awaited n x hx := by
    rw [(pending_prefer_perm s hj).countP_eq]
    exact hs.awaited n x hx
  resumable n x hx := by
    rw [(ready_prefer_perm s j).countP_eq]
    exact hs.resumable n x hx
  unknown n hn := by
    rw [(ready_prefer_perm s j).countP_eq, (ready_prefer_perm s j).countP_eq]
    exact hs.unknown n hn
  live e p hp := by
    rw [ran_prefer s hj]
    exact hs.live e p hp
  renderers := hs.renderers

/-! ## Expansions -/

theorem Quiet.of_placeholders_eq {A : NodeId → Prop} {s t : Session} (h : Quiet A s t)
    (hpl : t.table.placeholders = s.table.placeholders) : Quiet (fun _ => False) s t := by
  refine ⟨fun hs => ?_, h.templates, h.expansions, h.nextReady, h.ready, h.config⟩
  obtain ⟨ht, st⟩ := h.table hs
  exact ⟨ht, st.tame, st.templates, st.kept, fun e p hp => Or.inl (hpl ▸ hp)⟩

theorem safe_expand (s : Session) (e : NodeId) (scope : Nat) (r : Select.ResultSet)
    (options : List String) : Safe s (s.expand e scope r options) := by
  obtain ⟨hq, hnil, hcons⟩ := quiet_cloneAll s e r
  unfold expand
  rcases hc : s.cloneAll e r with ⟨clones, s₂⟩
  rw [hc] at hq hnil hcons
  dsimp only at hq hnil hcons ⊢
  split
  · rename_i hempty
    have hq' := hq.of_placeholders_eq (hnil (List.isEmpty_iff.mp hempty))
    exact safe_of_quiet (hq'.trans (quiet_schedule s₂ e []))
  · rename_i hne
    have hne : clones ≠ [] := fun h => hne (List.isEmpty_iff.mpr h)
    intro hs
    obtain ⟨hs₂, st⟩ := hq.table hs.table
    obtain ⟨m, hm⟩ := hq.ready
    have hN : s₂.expansions.size = s.expansions.size := by rw [hq.expansions]
    have hlen : s.nextReady ≤ s.ready.toList.length := by simpa using hs.nextReady_le
    have hnr : s₂.nextReady = s.nextReady := hq.nextReady
    have hready : (s₂.ready ++ ((List.range clones.length).map
        (Wakeup.render s₂.expansions.size)).toArray).toList =
        s.ready.toList ++ (List.replicate m Wakeup.take ++
          (List.range clones.length).map (Wakeup.render s.expansions.size)) := by
      simp [hm, hN]
    have hpend : (s.ready.toList ++ (List.replicate m Wakeup.take ++
        (List.range clones.length).map (Wakeup.render s.expansions.size))).drop s.nextReady =
        s.pending ++ (List.replicate m Wakeup.take ++
          (List.range clones.length).map (Wakeup.render s.expansions.size)) :=
      drop_append_ready hlen _
    have hran : (s.ready.toList ++ (List.replicate m Wakeup.take ++
        (List.range clones.length).map (Wakeup.render s.expansions.size))).take s.nextReady =
        s.ran :=
      take_append_ready hlen _
    have hold : ∀ n, n < s.expansions.size → (s₂.expansions.push
        ⟨e, scope, options, clones, Array.replicate clones.length ⟨.proceed, none, false⟩, 0⟩)[n]? =
        s.expansions[n]? := by
      intro n hn
      rw [Array.getElem?_push, if_neg (by omega), hq.expansions]
    refine ⟨⟨hs₂, ?_, ?_, ?_, ?_, ?_, ?_, ?_, hq.config ▸ hs.renderers⟩, st.tame, st.templates,
      st.kept, fun _ _ _ => Or.inr trivial⟩
    · show s₂.nextReady ≤ _
      rw [hnr, ← Array.length_toList, hready, List.length_append]
      omega
    · intro n x hx
      rw [Array.getElem?_push] at hx
      split at hx
      · obtain rfl := Option.some.inj hx
        exact hcons hne
      · rw [hq.expansions] at hx
        exact hq.templates _ (hs.element_template n x hx)
    · intro n x hx
      rw [Array.getElem?_push] at hx
      split at hx
      · obtain rfl := Option.some.inj hx
        exact List.length_pos_iff.mpr hne
      · rw [hq.expansions] at hx
        exact hs.clones_pos n x hx
    · intro n x hx
      show x.reported + ((s₂.ready ++ _).toList.drop s₂.nextReady).countP _ = _
      rw [hready, hnr, hpend, List.countP_append, List.countP_append,
        (countP_replicate_take n m).1, (countP_renders n _ _).1]
      rw [Array.getElem?_push] at hx
      split at hx
      · -- the new expansion: all its chains are still to run
        rename_i hn
        obtain rfl := Option.some.inj hx
        rw [hs.pending_feeds_eq_zero (by omega), if_pos (by omega)]
        simp
      · rename_i hn
        rw [hq.expansions] at hx
        rw [if_neg (by omega)]
        simpa using hs.awaited n x hx
    · intro n x hx
      show ((s₂.ready ++ _).toList).countP _ = _
      rw [hready, List.countP_append, List.countP_append, (countP_replicate_take n m).2,
        (countP_renders n _ _).2]
      rw [Array.getElem?_push] at hx
      split at hx
      · -- the new expansion has had no report, and its worker is not ready
        rename_i hn
        obtain rfl := Option.some.inj hx
        have hk := List.length_pos_iff.mpr hne
        rw [(hs.unknown n (by omega)).2, if_neg (by simp only; omega)]
      · rw [hq.expansions] at hx
        simpa using hs.resumable n x hx
    · intro n hn
      have hn' : s.expansions.size + 1 ≤ n := by simpa [hN] using hn
      show ((s₂.ready ++ _).toList).countP _ = 0 ∧ ((s₂.ready ++ _).toList).countP _ = 0
      rw [hready, List.countP_append, List.countP_append, List.countP_append, List.countP_append,
        (countP_replicate_take n m).1, (countP_replicate_take n m).2, (countP_renders n _ _).1,
        (countP_renders n _ _).2, (hs.unknown n (by omega)).1, (hs.unknown n (by omega)).2,
        if_neg (by omega)]
      simp
    · intro e' p hp
      show _ ∨ ∃ n x, _ ∧ _ ∧ Wakeup.resume n ∉ ((s₂.ready ++ _).toList.take s₂.nextReady)
      rw [hready, hnr, hran]
      rcases st.fresh e' p hp with hp' | rfl
      · rcases hs.live e' p hp' with hd | ⟨n, x, hx, hxe, hnr'⟩
        · exact Or.inl (st.tame.keeps p (hs.table.placeholder_lt e' p hp') hd)
        · refine Or.inr ⟨n, x, ?_, hxe, hnr'⟩
          rw [hold n (Array.getElem?_eq_some_iff.mp hx).1]
          exact hx
      · -- a new placeholder stands for the element of the new expansion
        exact Or.inr ⟨s₂.expansions.size, _, Array.getElem?_push_size, rfl,
          by rw [hN]; exact hs.not_ran_resume le_rfl⟩

theorem safe_takeTask (s : Session) : Safe s s.takeTask := by
  rcases takeTask_cases (A := fun _ => False) s with h | ⟨s₁, e, scope, r, o, h, heq⟩
  · exact safe_of_quiet h
  · rw [heq]
    exact (safe_of_quiet h).trans (safe_expand s₁ e scope r o)

/-! ## Ready work -/

section Wake

variable {s : Session} {w : Wakeup}

theorem nextReady_lt (hw : s.ready[s.nextReady]? = some w) : s.nextReady < s.ready.toList.length := by
  simpa using (Array.getElem?_eq_some_iff.mp hw).1

theorem take_succ_ready (hw : s.ready[s.nextReady]? = some w) (E : List Wakeup) :
    (s.ready.toList ++ E).take (s.nextReady + 1) = s.ran ++ [w] := by
  rw [take_append_ready (nextReady_lt hw) E, List.take_add_one, ran]
  simp [hw]

theorem drop_succ_ready (hw : s.ready[s.nextReady]? = some w) (E : List Wakeup) :
    (s.ready.toList ++ E).drop (s.nextReady + 1) = s.ready.toList.drop (s.nextReady + 1) ++ E :=
  drop_append_ready (nextReady_lt hw) E

theorem pending_cons (hw : s.ready[s.nextReady]? = some w) :
    s.pending = w :: s.ready.toList.drop (s.nextReady + 1) := by
  rw [pending, List.drop_eq_getElem_cons (nextReady_lt hw)]
  congr
  simpa using (Array.getElem?_eq_some_iff.mp hw).2

theorem resume_not_mem_ran_succ {n : Nat} (hn : Wakeup.resume n ∉ s.ran) (hw' : w ≠ .resume n) :
    Wakeup.resume n ∉ s.ran ++ [w] := by
  simp only [List.mem_append, List.mem_singleton, not_or]
  exact ⟨hn, fun h => hw' h.symm⟩

theorem sound_skip (hs : s.Sound) (hw : s.ready[s.nextReady]? = some w)
    (hw' : ∀ n x, s.expansions[n]? = some x → w.feeds n = false ∧ w ≠ .resume n) :
    { s with nextReady := s.nextReady + 1 }.Sound := by
  have hE := take_succ_ready hw []
  have hD := drop_succ_ready hw []
  simp only [List.append_nil] at hE hD
  refine ⟨hs.table, ?_, hs.element_template, hs.clones_pos, fun n x hx => ?_, hs.resumable,
    hs.unknown, fun e p hp => ?_, hs.renderers⟩
  · have := nextReady_lt hw
    simp only [Array.length_toList] at this
    exact this
  · have h := hs.awaited n x hx
    rw [pending_cons hw, List.countP_cons, if_neg (by simp [(hw' n x hx).1])] at h
    exact h
  · show _ ∨ ∃ n x, _ ∧ _ ∧ Wakeup.resume n ∉ s.ready.toList.take (s.nextReady + 1)
    rw [hE]
    rcases hs.live e p hp with hd | ⟨n, x, hx, hxe, hn⟩
    · exact Or.inl hd
    · exact Or.inr ⟨n, x, hx, hxe, resume_not_mem_ran_succ hn (hw' n x hx).2⟩

theorem safe_wake_take (hw : s.ready[s.nextReady]? = some .take) :
    Safe s ({ s with nextReady := s.nextReady + 1 }.wake .take) := fun hs =>
  ⟨(sound_skip hs hw fun _ _ _ => ⟨rfl, by simp⟩).of_eq rfl rfl rfl rfl rfl rfl,
    (Tidy.refl _ _ _ hs.table).2⟩

theorem getElem?_modify_expansions {xs : Array Expansion} {n m : Nat} {g : Expansion → Expansion}
    {x' : Expansion} (h : (xs.modify n g)[m]? = some x') :
    ∃ x, xs[m]? = some x ∧ x' = if n = m then g x else x := by
  rw [Array.getElem?_modify] at h
  split at h
  · obtain ⟨x, hx, rfl⟩ := Option.map_eq_some_iff.mp h
    exact ⟨x, hx, by simp [*]⟩
  · exact ⟨x', h, by simp [*]⟩

theorem sound_of_wake {n : Nat} {g : Expansion → Expansion} {E : List Wakeup} {t : Session}
    (hs : s.Sound) (hw : s.ready[s.nextReady]? = some w)
    (hw' : ∀ m x, s.expansions[m]? = some x → w ≠ .resume m)
    (hg : ∀ x, (g x).element = x.element ∧ (g x).clones = x.clones)
    (htd : Tidy (fun _ => False) s.table s.forest t.table t.forest)
    (hnr : t.nextReady = s.nextReady + 1) (hexp : t.expansions = s.expansions.modify n g)
    (hr : t.ready.toList = s.ready.toList ++ E) (hc : t.config = s.config)
    (hE : ∀ m, s.expansions.size ≤ m → E.countP (Wakeup.feeds m) = 0 ∧
      E.countP (Wakeup.resumes m) = 0)
    (hawait : ∀ m x, s.expansions[m]? = some x → (if n = m then g x else x).reported +
      (s.ready.toList.drop (s.nextReady + 1) ++ E).countP (Wakeup.feeds m) = x.clones.length)
    (hresume : ∀ m x, s.expansions[m]? = some x → (s.ready.toList ++ E).countP (Wakeup.resumes m) =
      if (if n = m then g x else x).reported = x.clones.length then 1 else 0) :
    t.Sound ∧ Step (fun _ => True) s.table s.forest t.table t.forest := by
  obtain ⟨hts, st⟩ := htd hs.table
  have hkeep : ∀ m x, (if n = m then g x else x).element = x.element ∧
      (if n = m then g x else x).clones = x.clones := fun m x => by
    split
    · exact hg x
    · exact ⟨rfl, rfl⟩
  refine ⟨⟨hts, ?_, fun m x' hx' => ?_, fun m x' hx' => ?_, fun m x' hx' => ?_,
    fun m x' hx' => ?_, fun m hm => ?_, fun e p hp => ?_, hc ▸ hs.renderers⟩,
    st.tame, st.templates, st.kept, fun _ _ _ => Or.inr trivial⟩
  · rw [hnr, ← Array.length_toList, hr, List.length_append]
    have := nextReady_lt hw
    omega
  · rw [hexp] at hx'
    obtain ⟨x, hx, rfl⟩ := getElem?_modify_expansions hx'
    rw [(hkeep m x).1]
    exact st.templates _ (hs.element_template m x hx)
  · rw [hexp] at hx'
    obtain ⟨x, hx, rfl⟩ := getElem?_modify_expansions hx'
    rw [(hkeep m x).2]
    exact hs.clones_pos m x hx
  · rw [hexp] at hx'
    obtain ⟨x, hx, rfl⟩ := getElem?_modify_expansions hx'
    rw [pending, hr, hnr, drop_succ_ready hw, (hkeep m x).2]
    exact hawait m x hx
  · rw [hexp] at hx'
    obtain ⟨x, hx, rfl⟩ := getElem?_modify_expansions hx'
    rw [hr, (hkeep m x).2]
    exact hresume m x hx
  · rw [hexp, Array.size_modify] at hm
    rw [hr, List.countP_append, List.countP_append, (hs.unknown m hm).1, (hs.unknown m hm).2,
      (hE m hm).1, (hE m hm).2]
    exact ⟨rfl, rfl⟩
  · rcases st.fresh e p hp with hp' | hp'
    · rcases hs.live e p hp' with hd | ⟨m, x, hx, hxe, hm⟩
      · exact Or.inl (st.tame.keeps p (hs.table.placeholder_lt e p hp') hd)
      · refine Or.inr ⟨m, if n = m then g x else x, ?_, by rw [(hkeep m x).1]; exact hxe, ?_⟩
        · rw [hexp, Array.getElem?_modify, hx]
          split <;> rfl
        · rw [ran, hr, hnr, take_succ_ready hw]
          exact resume_not_mem_ran_succ hm (hw' m x hx)
    · exact hp'.elim

theorem safe_wake_report {n : Nat} (hw : s.ready[s.nextReady]? = some (.report n)) :
    Safe s ({ s with nextReady := s.nextReady + 1 }.wake (.report n)) := by
  intro hs
  simp only [wake]
  split
  · rename_i x hx
    have hsum := hs.awaited n x hx
    rw [pending_cons hw, List.countP_cons] at hsum
    simp only [Wakeup.feeds, beq_self_eq_true, if_true] at hsum
    have hres := hs.resumable n x hx
    rw [if_neg (by omega)] at hres
    have hn : n < s.expansions.size := (Array.getElem?_eq_some_iff.mp hx).1
    have key := fun (t : Session) (htab : t.table = s.table) (hfor : t.forest = s.forest)
        (hnr : t.nextReady = s.nextReady + 1)
        (hexp : t.expansions = s.expansions.modify n fun x => { x with reported := x.reported + 1 })
        (hr : t.ready.toList = s.ready.toList ++
          (if x.reported + 1 = x.clones.length then [Wakeup.resume n] else []))
        (hc : t.config = s.config) =>
      sound_of_wake (n := n) (g := fun x => { x with reported := x.reported + 1 }) (t := t) hs hw
        (fun _ _ _ => by simp) (fun _ => ⟨rfl, rfl⟩) (by rw [htab, hfor]; exact Tidy.refl _ _ _)
        hnr hexp hr hc
        (fun m hm => by split <;> simp [Wakeup.feeds, Wakeup.resumes, show n ≠ m by omega])
        (fun m x' hx' => by
          by_cases hm : n = m
          · -- the report of `n` counted: one more report, one less still to run
            subst hm
            rw [hx] at hx'
            obtain rfl := Option.some.inj hx'
            rw [if_pos rfl]
            split <;> simp [Wakeup.feeds] <;> omega
          · have h := hs.awaited m x' hx'
            rw [pending_cons hw, List.countP_cons] at h
            rw [if_neg hm]
            split <;> simp [Wakeup.feeds, hm] at h ⊢ <;> omega)
        (fun m x' hx' => by
          rw [List.countP_append]
          by_cases hm : n = m
          · subst hm
            rw [hx] at hx'
            obtain rfl := Option.some.inj hx'
            rw [hres, if_pos rfl]
            split <;> simp [Wakeup.resumes, *]
          · rw [hs.resumable m x' hx', if_neg hm]
            split <;> simp [Wakeup.resumes, hm])
    split
    · exact key _ rfl rfl rfl rfl (by simp [*]) rfl
    · exact key _ rfl rfl rfl rfl (by simp [*]) rfl
  · -- a report for no expansion
    rename_i hx
    refine ⟨sound_skip hs hw fun m x hm => ⟨?_, by simp⟩, (Tidy.refl _ _ _ hs.table).2⟩
    have : m ≠ n := fun h => by rw [h, hx] at hm; cases hm
    simp [Wakeup.feeds, Ne.symm this]

theorem safe_wake_render {n i : Nat} (hw : s.ready[s.nextReady]? = some (.render n i)) :
    Safe s ({ s with nextReady := s.nextReady + 1 }.wake (.render n i)) := by
  intro hs
  simp only [wake]
  split
  · rename_i x hx
    have hsum := hs.awaited n x hx
    rw [pending_cons hw, List.countP_cons] at hsum
    simp only [Wakeup.feeds, beq_self_eq_true, if_true] at hsum
    have hn : n < s.expansions.size := (Array.getElem?_eq_some_iff.mp hx).1
    rcases x.clones.getD i (x.element, Select.Location.ofValue .null) with ⟨c, m⟩
    dsimp only
    have hq := quiet_renderClone (A := fun _ => False) { s with nextReady := s.nextReady + 1 }
      hs.renderers c m x.options
    obtain ⟨k, hk⟩ := hq.ready
    let step := ({ s with nextReady := s.nextReady + 1 }.renderClone c m x.options).1
    refine sound_of_wake (n := n) (g := fun x => { x with steps := x.steps.setIfInBounds i step })
      (E := List.replicate k .take ++ [.report n]) hs hw (fun _ _ _ => by simp)
      (fun _ => ⟨rfl, rfl⟩) hq.table hq.nextReady (by rw [hq.expansions]) (by simp [hk]) hq.config
      (fun m hm => by simp [Wakeup.feeds, Wakeup.resumes, List.countP_replicate,
        show n ≠ m by omega]) (fun m x' hx' => ?_) (fun m x' hx' => ?_)
    · rw [List.countP_append, List.countP_append, (countP_replicate_take m k).1]
      by_cases hm : n = m
      · -- the chain of `n` ran: its report is still to run
        subst hm
        rw [hx] at hx'
        obtain rfl := Option.some.inj hx'
        simp only [if_true]
        simp [Wakeup.feeds]
        omega
      · have h := hs.awaited m x' hx'
        rw [pending_cons hw, List.countP_cons] at h
        simp [Wakeup.feeds, hm] at h ⊢
        exact h
    · rw [List.countP_append, List.countP_append, (countP_replicate_take m k).2,
        hs.resumable m x' hx']
      by_cases hm : n = m <;> simp [hm, Wakeup.resumes]
  · -- the chain of no expansion
    rename_i hx
    refine ⟨sound_skip hs hw fun m x hm => ⟨?_, by simp⟩, (Tidy.refl _ _ _ hs.table).2⟩
    have : m ≠ n := fun h => by rw [h, hx] at hm; cases hm
    simp [Wakeup.feeds, Ne.symm this]

theorem safe_wake_resume {n : Nat} (hw : s.ready[s.nextReady]? = some (.resume n)) :
    Safe s ({ s with nextReady := s.nextReady + 1 }.wake (.resume n)) := by
  intro hs
  simp only [wake]
  split
  · rename_i x hx
    obtain ⟨hq, hrm⟩ := quiet_finishExpansion (A := fun _ => False)
      { s with nextReady := s.nextReady + 1 } (hs.element_template n x hx)
    obtain ⟨hts, st⟩ := hq.table hs.table
    obtain ⟨k, hk⟩ := hq.ready
    have hlt := nextReady_lt hw
    refine ⟨⟨hts, ?_, fun m x' hx' => ?_, fun m x' hx' => ?_, fun m x' hx' => ?_,
      fun m x' hx' => ?_, fun m hm => ?_, fun e p hp => ?_,
      fun x' hx' => hs.renderers x' (hq.config ▸ hx')⟩, st.tame, st.templates, st.kept,
      fun _ _ _ => Or.inr trivial⟩
    · dsimp only
      rw [hq.nextReady, ← Array.length_toList, hk, List.length_append]
      simp only [Array.length_toList] at hlt ⊢
      omega
    · rw [hq.expansions] at hx'
      exact st.templates _ (hs.element_template m x' hx')
    · rw [hq.expansions] at hx'
      exact hs.clones_pos m x' hx'
    · rw [hq.expansions] at hx'
      have h := hs.awaited m x' hx'
      rw [pending_cons hw, List.countP_cons] at h
      rw [pending]
      dsimp only
      rw [hq.nextReady, hk, drop_succ_ready hw, List.countP_append, (countP_replicate_take m k).1]
      simpa [Wakeup.feeds] using h
    · rw [hq.expansions] at hx'
      dsimp only
      rw [hk, List.countP_append, (countP_replicate_take m k).2, Nat.add_zero]
      exact hs.resumable m x' hx'
    · rw [hq.expansions] at hm
      dsimp only
      rw [hk, List.countP_append, List.countP_append, (countP_replicate_take m k).1,
        (countP_replicate_take m k).2]
      simpa using hs.unknown m hm
    · have hp' := (st.fresh e p hp).resolve_right id
      have hne := hrm hs.table e p hp
      rcases hs.live e p hp' with hd | ⟨m, x', hx', hxe, hm⟩
      · exact Or.inl (st.tame.keeps p (hs.table.placeholder_lt e p hp') hd)
      · -- the placeholder stands for another element, whose expansion has not resumed
        have hmn : m ≠ n := fun h => by
          rw [h, hx] at hx'
          obtain rfl := Option.some.inj hx'
          exact hne hxe.symm
        refine Or.inr ⟨m, x', by rw [hq.expansions]; exact hx', hxe, ?_⟩
        rw [ran]
        dsimp only
        rw [hq.nextReady, hk, take_succ_ready hw]
        exact resume_not_mem_ran_succ hm (by simp [Ne.symm hmn])
  · -- no expansion to go on with
    rename_i hx
    refine ⟨sound_skip hs hw fun m x hm => ⟨rfl, ?_⟩, (Tidy.refl _ _ _ hs.table).2⟩
    have : m ≠ n := fun h => by rw [h, hx] at hm; cases hm
    simp [Ne.symm this]

theorem safe_wake (hw : s.ready[s.nextReady]? = some w) :
    Safe s ({ s with nextReady := s.nextReady + 1 }.wake w) := by
  cases w with
  | take => exact safe_wake_take hw
  | render n i => exact safe_wake_render hw
  | report n => exact safe_wake_report hw
  | resume n => exact safe_wake_resume hw

end Wake

/-! ## Runs -/

theorem safe_step {s t : Session} (h : s.step = some t) : Safe s t := by
  unfold step at h
  split at h
  · cases h
    exact safe_takeTask s
  · split at h
    · -- a worker starts, or all of them start and wait
      split at h <;> (cases h; exact safe_of_eq rfl rfl rfl rfl rfl rfl)
    · split at h
      · rename_i w hw
        cases h
        exact safe_wake hw
      · cases h

/-- Every step of every interleaving keeps a session sound. -/
theorem sound_next {s t : Session} (h : s.Next t) : Safe s t := by
  obtain ⟨j, hj, hstep⟩ := h
  intro hs
  obtain ⟨ht, st⟩ := safe_step hstep (hs.prefer hj)
  exact ⟨ht, st⟩

theorem safe_reaches {s t : Session} (h : s.Reaches t) : Safe s t := by
  induction h with
  | refl => exact fun hs => ⟨hs, (Tidy.refl _ _ _ hs.table).2⟩
  | tail _ hn ih => exact ih.trans (sound_next hn)

theorem sound_start {f : Forest} (hf : f.Linked) (target : NodeId) (data : Value)
    {config : RenderConfig} (hr : ∀ x ∈ config.renderers, x.Tame) :
    (start f target data config).Sound := by
  have hg := (Tame.refl hf).copyTree (f.top target)
  unfold start
  rcases hc : f.copyTree (f.top target) with ⟨pristine, g⟩
  rw [hc] at hg
  dsimp only
  refine ⟨sound_empty hg.linked, Nat.zero_le _, ?_, ?_, ?_, ?_, ?_, ?_, hr⟩ <;>
    simp [NodeTable.empty]

theorem Sound.resumed_of_step_eq_none {s : Session} (hs : s.Sound) (hend : s.step = none)
    {n : Nat} {x : Expansion} (hx : s.expansions[n]? = some x) : Wakeup.resume n ∈ s.ran := by
  have hready : s.ready.size ≤ s.nextReady := by
    unfold step at hend
    split at hend
    · cases hend
    · split at hend
      · split at hend <;> cases hend
      · split at hend
        · cases hend
        · rename_i hr
          exact Array.getElem?_eq_none_iff.mp hr
  have hnr : s.nextReady = s.ready.size := le_antisymm hs.nextReady_le hready
  -- nothing is pending, so all the clones were reported and the resume is among the work run
  have hrep := hs.awaited n x hx
  rw [pending, hnr, ← Array.length_toList, List.drop_length, List.countP_nil,
    Nat.add_zero] at hrep
  have hres := hs.resumable n x hx
  rw [if_pos hrep] at hres
  rw [ran, hnr, ← Array.length_toList, List.take_length]
  exact resume_mem (by omega)

end Session

/-- No bookkeeping reaches the output. Along every interleaving of a rendering of a linked
forest, whatever tame renderers are configured, a template stays out of every document once it is one; a placeholder made at any point
is in a document only while the expansion of its element has not resumed; and when no work is
left, no placeholder is in any document. -/
theorem bookkeeping_leaves_output {f : Forest} (hf : f.Linked) (target : NodeId) (data : Value)
    (config : RenderConfig) (hr : ∀ x ∈ config.renderers, x.Tame) {s t : Session}
    (hs : (Session.start f target data config).Reaches s) (ht : s.Reaches t) :
    (∀ e ∈ s.table.templates, ∀ r, e ∉ t.forest.descendants r) ∧
    (∀ e p, (e, p) ∈ s.table.placeholders → t.forest.parent? p ≠ none →
      ∃ n x, t.expansions[n]? = some x ∧ x.element = e ∧ Wakeup.resume n ∉ t.ran) ∧
    (t.step = none → ∀ e p, (e, p) ∈ s.table.placeholders → ∀ r, p ∉ t.forest.descendants r) := by
  have hs' : s.Sound := (Session.safe_reaches hs (Session.sound_start hf target data hr)).1
  obtain ⟨ht', st⟩ := Session.safe_reaches ht hs'
  -- a placeholder made at `s` is still in the table at `t`, or out of every document
  have attached : ∀ e p, (e, p) ∈ s.table.placeholders → t.forest.parent? p ≠ none →
      ∃ n x, t.expansions[n]? = some x ∧ x.element = e ∧ Wakeup.resume n ∉ t.ran := by
    intro e p hp hpar
    rcases st.kept e p hp with hp' | hd
    · exact (ht'.live e p hp').resolve_left hpar
    · exact absurd hd hpar
  refine ⟨fun e he r => not_mem_descendants ht'.table.linked
      (ht'.table.template_detached e (st.templates e he)) r, attached, fun hend e p hp r => ?_⟩
  refine not_mem_descendants ht'.table.linked ?_ r
  by_contra hpar
  obtain ⟨n, x, hx, -, hn⟩ := attached e p hp hpar
  exact hn (ht'.resumed_of_step_eq_none hend hx)

def listForest : Forest := ⟨#[
  ⟨.document, none, #[⟨1⟩]⟩,
  ⟨.element "ul" [] true, some ⟨0⟩, #[⟨2⟩]⟩,
  ⟨.element "li" [("data-is", "*")] true, some ⟨1⟩, #[⟨3⟩]⟩,
  ⟨.string .text "x", some ⟨2⟩, #[]⟩]⟩

def listRun (k : Nat) : Session :=
  (Session.start listForest ⟨0⟩ (.list [.str "a", .str "b"]) .default).drain k

set_option maxRecDepth 2000 in
/-- Four steps into rendering the list, the item is a template in no document, and its
placeholder, node 8, is in the list: the expansion of the item is still in progress. -/
theorem bookkeeping_leaves_list :
    listForest.Linked ∧ (listRun 4).table.templates = [⟨2⟩] ∧
      (listRun 4).table.placeholders = [(⟨2⟩, ⟨8⟩)] ∧ (listRun 4).forest.parent? ⟨8⟩ = some ⟨1⟩ ∧
      (∀ r, (⟨2⟩ : NodeId) ∉ (listRun 4).forest.descendants r) ∧
      ∃ n x, (listRun 4).expansions[n]? = some x ∧ x.element = ⟨2⟩ ∧
        Wakeup.resume n ∉ (listRun 4).ran := by
  have hf : listForest.Linked := linked_of_lt (by decide)
  obtain ⟨htm, hpl, hpar⟩ : (listRun 4).table.templates = [⟨2⟩] ∧
      (listRun 4).table.placeholders = [(⟨2⟩, ⟨8⟩)] ∧ (listRun 4).forest.parent? ⟨8⟩ = some ⟨1⟩ := by
    cbv
  have h := bookkeeping_leaves_output (s := listRun 4) hf ⟨0⟩ (.list [.str "a", .str "b"])
    .default (fun _ hx => absurd hx List.not_mem_nil) (Session.reaches_drain 4 _) (.refl _)
  exact ⟨hf, htm, hpl, hpar, h.1 ⟨2⟩ (by rw [htm]; simp),
    h.2.1 ⟨2⟩ ⟨8⟩ (by rw [hpl]; simp) (by rw [hpar]; simp)⟩

end Stencil.Template

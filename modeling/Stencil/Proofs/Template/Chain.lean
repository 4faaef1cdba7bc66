import Stencil.Template.Renderer
/-!
# The renderer chain is a left fold

A chain calls its renderers in order, each with the value the chain holds so far
(`chainStep`): the renderer's reply is read as a step on that value (`Reply.step`); a stop leaves
the chain with that step, a failure is recorded and keeps the value, and a continuing step with a
value other than null passes it on. So a chain is a left fold of its renderers in `Except`, which
leaves the fold at the first stop, and then the terminal renderer on the final value
(`chainFold`). The renderers of a list of entries are its callable entries, in order, and each
other entry is dropped with one problem (`chainRenderers_eq`).

* `runChain_gives_chainFold` : `runChain` gives the outcome, value, forest and problems of the fold.
* `chainFold_append_of_stop` : a stop leaves the renderers after it uncalled.
* `runChain_left_fold` : the chain built from any list of entries, followed by the built-in
  renderers.
-/

namespace Stencil.Template

open Stencil.Markup

/-! ## The fold -/

/-- The value a step passes on to the next renderer: the value of a continuing step, unless it
has none or it is null. -/
def RenderStep.passes : RenderStep → Option Value
  | ⟨.proceed, some .null, _⟩ => none
  | ⟨.proceed, some v, _⟩ => some v
  | _ => none

/-- A chain between two renderers: the value so far, the forest and the problems recorded. -/
structure ChainState where
  value : Value
  forest : Forest
  problems : List Problem

def failureProblem (f : Forest) (r : RenderRequest) (x : Renderer) (message : String) : Problem :=
  ⟨.renderer, "Renderer " ++ x.name ++ " failed: " ++ message, some (f.nodePath r.element)⟩

/-- One renderer of a chain, called with the value so far; its reply is read as a step on that
value. A stop leaves the chain with that step; otherwise a raised failure is recorded at the
element's path, and a value passed on replaces the value so far. -/
def chainStep (r : RenderRequest) (st : ChainState) (x : Renderer) :
    Except (RenderStep × ChainState) ChainState :=
  let (reply, f) := x.run st.forest { r with value := st.value }
  let step := reply.step st.value
  if step.outcome = .stop then .error (step, { st with forest := f })
  else
    let problems := match reply with
      | .fail message => st.problems ++ [failureProblem f r x message]
      | _ => st.problems
    .ok ⟨step.passes.getD st.value, f, problems⟩

/-- The rest of a chain from a state: a left fold of the renderers left that leaves at the first
stop, followed by the terminal renderer on the final value. -/
def chainFrom (r : RenderRequest) (rs : List Renderer) (st : ChainState) : RenderStep × ChainState :=
  match rs.foldlM (chainStep r) st with
  | .error (step, st) => (step, st)
  | .ok st => ((Renderer.terminal.run st.forest { r with value := st.value }).1.step st.value, st)

/-- A chain over a request, as the fold from its value, with no problem recorded yet. -/
def chainFold (f : Forest) (rs : List Renderer) (r : RenderRequest) : RenderStep × ChainState :=
  chainFrom r rs ⟨r.value, f, []⟩

def ChainState.Gives (res : RenderStep × Forest × List Problem) (fold : RenderStep × ChainState) :
    Prop :=
  res.1.outcome = fold.1.outcome ∧ res.1.value = fold.1.value ∧ res.2.1 = fold.2.forest ∧
    res.2.2 = fold.2.problems

/-! ## The chain computes the fold -/

theorem chainFrom_nil (r : RenderRequest) (st : ChainState) :
    chainFrom r [] st = (Reply.passOn.step st.value, st) := rfl

theorem chainFrom_cons (r : RenderRequest) (x : Renderer) (rs : List Renderer) (st : ChainState) :
    chainFrom r (x :: rs) st =
      match chainStep r st x with
      | .error e => e
      | .ok st' => chainFrom r rs st' := by
  unfold chainFrom
  rw [List.foldlM_cons]
  cases chainStep r st x with
  | error e => rfl
  | ok st' => rfl

theorem outcome_passOn (v : Value) : (Reply.passOn.step v).outcome = .proceed := by
  cases v <;> rfl

theorem passes_passOn (v : Value) : (Reply.passOn.step v).passes.getD v = v := by
  cases v <;> rfl

theorem chainStep_eq (r : RenderRequest) (st : ChainState) (x : Renderer) :
    chainStep r st x =
      match x.run st.forest { r with value := st.value } with
      | (.stop w, g) => .error ((Reply.stop w).step st.value, { st with forest := g })
      | (.fail m, g) => .ok ⟨st.value, g, st.problems ++ [failureProblem g r x m]⟩
      | (.replace .null, g) | (.decline, g) | (.passOn, g) | (.failed, g) =>
        .ok ⟨st.value, g, st.problems⟩
      | (.replace w, g) => .ok ⟨w, g, st.problems⟩ := by
  unfold chainStep
  rcases x.run st.forest { r with value := st.value } with ⟨reply, g⟩
  cases reply with
  | stop w => rcases w with _ | ⟨_ | _ | _ | _ | _ | _ | _⟩ <;> rfl
  | passOn => simp only [outcome_passOn, passes_passOn]; rfl
  | replace w => cases w <;> rfl
  | _ => rfl



theorem go_gives (r : RenderRequest) :
    ∀ (rs : List Renderer) (v : Value) (same : Bool) (g : Forest) (ps : List Problem),
      ChainState.Gives (runChain.go r rs v same g ps) (chainFrom r rs ⟨v, g, ps⟩)
  | [], v, same, g, ps => by
    rw [chainFrom_nil]
    unfold runChain.go
    cases v <;> exact ⟨rfl, rfl, rfl, rfl⟩
  | x :: rest, v, same, g, ps => by
    rw [chainFrom_cons]
    unfold runChain.go
    rcases hrun : x.run g { r with value := v } with ⟨reply, g'⟩
    cases reply with
    | stop w =>
      simp only [chainStep, hrun]
      rcases w with _ | ⟨_ | _ | _ | _ | _ | _ | _⟩ <;> exact ⟨rfl, rfl, rfl, rfl⟩
    | fail m =>
      simp only [chainStep, hrun]
      exact go_gives r rest v same g' _
    | decline =>
      simp only [chainStep, hrun]
      exact go_gives r rest v same g' ps
    | failed =>
      simp only [chainStep, hrun]
      exact go_gives r rest v same g' ps
    | passOn =>
      simp only [chainStep, hrun, outcome_passOn, passes_passOn]
      exact go_gives r rest v same g' ps
    | replace w =>
      -- a null value passed on is no value: the value so far stays
      cases w
      case null =>
        simp only [chainStep, hrun]
        exact go_gives r rest v same g' ps
      all_goals
        simp only [chainStep, hrun]
        exact go_gives r rest _ _ g' ps

theorem runChain_gives_chainFold (f : Forest) (rs : List Renderer) (r : RenderRequest) :
    ChainState.Gives (runChain f rs r) (chainFold f rs r) :=
  go_gives r rs r.value true f []

theorem chainFrom_append_of_stop {r : RenderRequest} {pre : List Renderer} {st : ChainState}
    {e : RenderStep × ChainState} (h : pre.foldlM (chainStep r) st = .error e)
    (post : List Renderer) : chainFrom r (pre ++ post) st = e := by
  unfold chainFrom
  rw [List.foldlM_append, h]
  rfl

/-! ## Entries that cannot be called -/

def ChainEntry.renderer? : ChainEntry → Option Renderer
  | .renderer r => some r
  | .uncallable _ => none

def ChainEntry.dropped? (f : Forest) : ChainEntry → Option Problem
  | .renderer _ => none
  | .uncallable v =>
    some ⟨.renderer, "Invalid renderer " ++ v.literal f ++ " is not callable and is ignored", none⟩

theorem chainRenderers_foldl (f : Forest) :
    ∀ (entries : List ChainEntry) (rs : List Renderer) (ps : List Problem),
      entries.foldl (fun (acc : List Renderer × List Problem) e =>
        match e with
        | .renderer r => (acc.1 ++ [r], acc.2)
        | .uncallable v =>
          (acc.1, acc.2 ++ [⟨.renderer, "Invalid renderer " ++ v.literal f ++
            " is not callable and is ignored", none⟩])) (rs, ps) =
        (rs ++ entries.filterMap ChainEntry.renderer?, ps ++ entries.filterMap (ChainEntry.dropped? f))
  | [], rs, ps => by simp
  | .renderer x :: rest, rs, ps => by
    rw [List.foldl_cons, chainRenderers_foldl f rest]
    simp [List.filterMap_cons, ChainEntry.renderer?, ChainEntry.dropped?]
  | .uncallable v :: rest, rs, ps => by
    rw [List.foldl_cons, chainRenderers_foldl f rest]
    simp [List.filterMap_cons, ChainEntry.renderer?, ChainEntry.dropped?]

/-- The renderers of a list of entries are its callable entries, in order, and each entry that
cannot be called gives one problem, in order. -/
theorem chainRenderers_eq (f : Forest) (entries : List ChainEntry) :
    chainRenderers f entries =
      (entries.filterMap ChainEntry.renderer?, entries.filterMap (ChainEntry.dropped? f)) := by
  have h := chainRenderers_foldl f entries [] []
  simp only [List.nil_append] at h
  exact h

/-! ## The chain of a list of entries -/

/-- The chain built from any list of entries, whatever functions its renderers are, and followed
by the built-in renderers is a left fold of its renderers that stops at the first stop: the
entries that cannot be called are dropped, one problem each; each renderer is called with the
value so far, which a value it passes on (other than null) replaces, and a raised failure is
recorded and keeps the value; a stop is the chain's step, and no renderer after it runs; otherwise
the terminal renderer gives the step on the final value. -/
theorem runChain_left_fold (f : Forest) (entries : List ChainEntry) (r : RenderRequest) :
    let rs := (chainRenderers f entries).1 ++ builtinRenderers
    (chainRenderers f entries).1 = entries.filterMap ChainEntry.renderer? ∧
    (chainRenderers f entries).2 = entries.filterMap (ChainEntry.dropped? f) ∧
    ChainState.Gives (runChain f rs r) (chainFold f rs r) ∧
    (∀ st x, chainStep r st x =
      match x.run st.forest { r with value := st.value } with
      | (.stop w, g) => .error ((Reply.stop w).step st.value, { st with forest := g })
      | (.fail m, g) => .ok ⟨st.value, g, st.problems ++ [failureProblem g r x m]⟩
      | (.replace .null, g) | (.decline, g) | (.passOn, g) | (.failed, g) =>
        .ok ⟨st.value, g, st.problems⟩
      | (.replace w, g) => .ok ⟨w, g, st.problems⟩) ∧
    ∀ pre post e, rs = pre ++ post → pre.foldlM (chainStep r) ⟨r.value, f, []⟩ = .error e →
      chainFold f rs r = e := by
  intro rs
  rw [chainRenderers_eq]
  refine ⟨rfl, rfl, runChain_gives_chainFold f rs r, chainStep_eq r, ?_⟩
  intro pre post e hsplit hstop
  rw [chainFold, hsplit]
  exact chainFrom_append_of_stop hstop post

end Stencil.Template

import Mathlib
import Stencil.Template.Scope
/-!
# Scopes remember selections and look variables up lexically

The scopes of a rendering grow from one root scope by `Scopes.child`, and expressions are
resolved in them by `Scopes.resolve`, in any order (`ScopeCall`, `Scopes.runCalls`). Over every
such history three laws hold:

* a selector resolved twice in one scope with the same self flag gives the very same result, and
  the second call changes nothing: nothing is evaluated and no problem is recorded;
* a variable reference finds the result of the latest assignment to its name in the nearest
  scope of its chain of parents that has one, whatever was assigned in other scopes; with none,
  it gives a new empty result and records one problem;
* an assignment replaces the variable's value in its scope, and records one warning exactly when
  the name was assigned in that scope before.

The proofs rest on what one call keeps (`Scopes.perform`): parents never change and a parent is
made before its children (`Scopes.Ordered`), remembered selections stay, and the variables of a
scope change only by an assignment made in it.
-/

namespace Stencil.Template

open Stencil.Markup Stencil.Select Stencil.Text

/-- A call on the scopes of a rendering: an expression resolved in a scope, or a new scope made
under one for a value found at a location. -/
inductive ScopeCall where
  | resolve (f : Forest) (scope : Nat) (text : Option String) (selfMatch : Bool)
  | child (scope : Nat) (context : Location)

namespace ScopeCall

def scope : ScopeCall → Nat
  | .resolve _ i _ _ => i
  | .child i _ => i

def assigned? : ScopeCall → Option (Nat × String)
  | .resolve _ i text _ =>
    match Expression.read (trimBlank (text.getD "")) with
    | .assignment name _ => some (i, name)
    | _ => none
  | .child _ _ => none

end ScopeCall

theorem Expression.read_cases (text : String) :
    (∃ sel, Expression.read text = .selector sel) ∨
      (∃ name sel, Expression.read text = .assignment name sel) ∨
      ∃ name, Expression.read text = .reference name := by
  generalize Expression.read text = e
  cases e with
  | selector sel => exact Or.inl ⟨sel, rfl⟩
  | assignment name sel => exact Or.inr (Or.inl ⟨name, sel, rfl⟩)
  | reference name => exact Or.inr (Or.inr ⟨name, rfl⟩)

namespace Scopes

/-- A call made: its answer (a result, or the new scope) and the scopes after it. -/
def perform (S : Scopes) : ScopeCall → Nat × Scopes
  | .resolve f i text selfMatch => S.resolve f i text selfMatch
  | .child i context => S.child i context

/-- The scopes after calls made in turn. -/
def runCalls (S : Scopes) (calls : List ScopeCall) : Scopes :=
  calls.foldl (fun S c => (S.perform c).2) S

def Valid : Scopes → List ScopeCall → Prop
  | _, [] => True
  | S, c :: cs => c.scope < S.frames.size ∧ Valid (S.perform c).2 cs

/-- Scope `j` is scope `i` or lies above it: following parents from `i` reaches `j`. -/
inductive Above (S : Scopes) : Nat → Nat → Prop
  | refl (i : Nat) : Above S i i
  | parent {i p j : Nat} : (S.frame i).parent = some p → Above S p j → Above S i j

/-- Every scope's parent was made before it. -/
def Ordered (S : Scopes) : Prop := ∀ i p, (S.frame i).parent = some p → p < i

/-! ## One operation on the frames -/

section Frames

variable (S : Scopes)

theorem getD_push_of_lt {fr : Frame} {j : Nat} (h : j < S.frames.size) :
    (S.frames.push fr).getD j default = S.frame j := by
  simp [frame, Array.getD_eq_getD_getElem?, Array.getElem?_push, Nat.ne_of_lt h, h]

theorem frame_child_of_lt (i : Nat) (c : Location) {j : Nat} (h : j < S.frames.size) :
    (S.child i c).2.frame j = S.frame j :=
  S.getD_push_of_lt h

theorem frame_child_new (i : Nat) (c : Location) :
    (S.child i c).2.frame S.frames.size = ⟨c, some i, [], []⟩ := by
  simp [child, frame, Array.getD_eq_getD_getElem?]

theorem frame_child_of_gt (i : Nat) (c : Location) {j : Nat} (h : S.frames.size < j) :
    (S.child i c).2.frame j = S.frame j := by
  have h' : ¬j < S.frames.size := by omega
  simp [child, frame, Array.getD_eq_getD_getElem?, Array.getElem?_push, Nat.ne_of_gt h, h']

theorem frame_modifyFrame (i : Nat) (g : Frame → Frame) (j : Nat) :
    (S.modifyFrame i g).frame j = if i = j ∧ j < S.frames.size then g (S.frame j) else S.frame j := by
  simp only [modifyFrame, frame, Array.getD_eq_getD_getElem?, Array.getElem?_modify]
  by_cases hij : i = j
  · subst hij
    by_cases hj : i < S.frames.size <;> simp [hj]
  · simp [hij]

@[simp] theorem frames_keep (r : ResultSet) : (S.keep r).2.frames = S.frames := rfl

@[simp] theorem frames_report (f : Forest) (i : Nat) (kind : ProblemKind) (message : String) :
    (S.report f i kind message).frames = S.frames := rfl

@[simp] theorem frames_evaluate (f : Forest) (i : Nat) (text : String) (b : Bool) :
    (S.evaluate f i text b).2.frames = S.frames := by
  unfold evaluate
  split
  · rfl
  · split <;> rfl

theorem problems_evaluate (f : Forest) (i : Nat) (text : String) (b : Bool) :
    ∃ ps : List Problem, (∀ p ∈ ps, p.kind = .selector) ∧
      (S.evaluate f i text b).2.problems.toList = S.problems.toList ++ ps := by
  unfold evaluate
  split
  · exact ⟨[], by simp, by simp [keep]⟩
  · split
    · exact ⟨[], by simp, by simp [keep]⟩
    · exact ⟨[⟨.selector, _, some (S.path f i)⟩], by simp,
        by simp only [keep, report, Array.toList_push]; rfl⟩

/-- What resolving an expression does to the frame of its scope, given the result: a selector
not yet remembered is remembered with the result, and an assignment binds the variable to it. -/
def resolveFrame (text : Option String) (b : Bool) (r : Nat) (fr : Frame) : Frame :=
  match Expression.read (trimBlank (text.getD "")) with
  | .selector sel =>
    match fr.memo.lookup (sel, b) with
    | some _ => fr
    | none => { fr with memo := ((sel, b), r) :: fr.memo }
  | .assignment name _ => { fr with bindings := (name, r) :: fr.bindings.filter (·.1 != name) }
  | .reference _ => fr

theorem frame_congr {T : Scopes} (h : T.frames = S.frames) (j : Nat) : T.frame j = S.frame j := by
  simp only [frame, h]

theorem frame_resolve (f : Forest) (i : Nat) (text : Option String) (b : Bool) (j : Nat) :
    (S.resolve f i text b).2.frame j =
      if i = j ∧ j < S.frames.size then resolveFrame text b (S.resolve f i text b).1 (S.frame j)
      else S.frame j := by
  rcases Expression.read_cases (trimBlank (text.getD "")) with ⟨sel, hr⟩ | ⟨name, sel, hr⟩ | ⟨name, hr⟩
  · simp only [resolve, resolveFrame, hr]
    cases hm : (S.frame i).memo.lookup (sel, b) with
    | some r =>
      dsimp only
      split
      · rename_i h
        obtain ⟨rfl, -⟩ := h
        rw [hm]
      · rfl
    | none =>
      dsimp only
      rw [frame_modifyFrame, frames_evaluate, frame_congr _ (frames_evaluate S f i sel b)]
      split
      · rename_i h
        obtain ⟨rfl, -⟩ := h
        rw [hm]
      · rfl
  · simp only [resolve, resolveFrame, hr]
    generalize hS : (if ((S.frame i).bindings.lookup name).isSome then S.report f i .binding
      ("Variable '" ++ name ++ "' assigned twice in the same scope, last assignment wins") else S) = S₁
    have h₁ : S₁.frames = S.frames := by
      subst hS
      split <;> rfl
    rw [frame_modifyFrame, frames_evaluate, h₁, frame_congr _ (frames_evaluate S₁ f i sel b),
      frame_congr _ h₁]
  · simp only [resolve, resolveFrame, hr]
    split
    · split <;> rfl
    · rw [frame_congr _ (frames_keep _ _)]
      split <;> rfl

@[simp] theorem context_resolveFrame (text : Option String) (b : Bool) (r : Nat) (fr : Frame) :
    (resolveFrame text b r fr).context = fr.context := by
  unfold resolveFrame
  split
  · split <;> rfl
  · rfl
  · rfl

@[simp] theorem parent_resolveFrame (text : Option String) (b : Bool) (r : Nat) (fr : Frame) :
    (resolveFrame text b r fr).parent = fr.parent := by
  unfold resolveFrame
  split
  · split <;> rfl
  · rfl
  · rfl

theorem memo_resolveFrame {text : Option String} {b : Bool} {r : Nat} {fr : Frame}
    {key : String × Bool} {r' : Nat} (h : fr.memo.lookup key = some r') :
    (resolveFrame text b r fr).memo.lookup key = some r' := by
  unfold resolveFrame
  split
  · rename_i sel _
    split
    · exact h
    · rename_i hnone
      have hne : key ≠ (sel, b) := by
        rintro rfl
        rw [h] at hnone
        cases hnone
      rw [List.lookup, beq_false_of_ne hne]
      exact h
  · exact h
  · exact h

theorem lookup_filter_ne {l : List (String × Nat)} {n name : String} (h : name ≠ n) :
    (l.filter (·.1 != n)).lookup name = l.lookup name := by
  induction l with
  | nil => rfl
  | cons kv l ih =>
    by_cases hk : kv.1 = n
    · simp [hk, List.lookup, beq_false_of_ne h, ih]
    · simp [hk, List.lookup, ih]

theorem frame_of_size_le {j : Nat} (h : S.frames.size ≤ j) : S.frame j = default := by
  simp [frame, Array.getD_eq_getD_getElem?, Array.getElem?_eq_none h]

theorem frames_size_resolve (f : Forest) (i : Nat) (text : Option String) (b : Bool) :
    (S.resolve f i text b).2.frames.size = S.frames.size := by
  rcases Expression.read_cases (trimBlank (text.getD "")) with ⟨sel, hr⟩ | ⟨name, sel, hr⟩ | ⟨name, hr⟩
  · simp only [resolve, hr]
    cases (S.frame i).memo.lookup (sel, b) with
    | some r => rfl
    | none => simp [modifyFrame]
  · simp only [resolve, hr]
    split <;> simp [modifyFrame]
  · simp only [resolve, hr]
    split
    · rfl
    · rfl

end Frames

/-! ## One call

What a single call keeps: the scopes made so far, every parent, every remembered selection, and
every variable but the one it assigns. -/

section Step

variable {S : Scopes}

theorem size_le_perform (c : ScopeCall) : S.frames.size ≤ (S.perform c).2.frames.size := by
  cases c with
  | resolve f i text b => simp [perform, frames_size_resolve]
  | child i context => simp [perform, child]

theorem ordered_perform (ho : S.Ordered) {c : ScopeCall} (hc : c.scope < S.frames.size) :
    (S.perform c).2.Ordered := by
  intro j p hp
  cases c with
  | resolve f i text b =>
    rw [perform, frame_resolve] at hp
    split at hp
    · rw [parent_resolveFrame] at hp
      exact ho j p hp
    · exact ho j p hp
  | child i context =>
    simp only [perform] at hp
    rcases Nat.lt_trichotomy j S.frames.size with hj | rfl | hj
    · rw [frame_child_of_lt _ _ _ hj] at hp
      exact ho j p hp
    · -- the new scope hangs under the scope the call was made on, which exists
      rw [frame_child_new] at hp
      cases hp
      exact hc
    · rw [frame_child_of_gt _ _ _ hj] at hp
      exact ho j p hp

theorem memo_perform (c : ScopeCall) {j : Nat} {key : String × Bool} {r : Nat}
    (h : (S.frame j).memo.lookup key = some r) : ((S.perform c).2.frame j).memo.lookup key = some r := by
  cases c with
  | resolve f i text b =>
    rw [perform, frame_resolve]
    split
    · exact memo_resolveFrame h
    · exact h
  | child i context =>
    simp only [perform]
    rcases Nat.lt_trichotomy j S.frames.size with hj | rfl | hj
    · rw [frame_child_of_lt _ _ _ hj]
      exact h
    · -- a scope not made yet remembers nothing
      rw [frame_of_size_le _ (Nat.le_refl _)] at h
      cases h
    · rw [frame_child_of_gt _ _ _ hj]
      exact h

theorem lookup_perform_of_not_assigns {c : ScopeCall} {j : Nat} {name : String}
    (h : c.assigned? ≠ some (j, name)) :
    ((S.perform c).2.frame j).bindings.lookup name = (S.frame j).bindings.lookup name := by
  cases c with
  | resolve f i text b =>
    rw [perform, frame_resolve]
    split
    · rename_i hij
      obtain ⟨rfl, -⟩ := hij
      simp only [ScopeCall.assigned?] at h
      unfold resolveFrame
      split
      · split <;> rfl
      · rename_i n _ hr
        rw [hr] at h
        have hn : name ≠ n := fun e => h (by rw [e])
        simp [List.lookup, beq_false_of_ne hn, lookup_filter_ne hn]
      · rfl
    · rfl
  | child i context =>
    simp only [perform]
    rcases Nat.lt_trichotomy j S.frames.size with hj | rfl | hj
    · rw [frame_child_of_lt _ _ _ hj]
    · rw [frame_child_new, frame_of_size_le _ (Nat.le_refl _)]
      rfl
    · rw [frame_child_of_gt _ _ _ hj]

theorem lookup_perform_of_assigns {c : ScopeCall} {j : Nat} {name : String}
    (h : c.assigned? = some (j, name)) (hc : c.scope < S.frames.size) :
    ((S.perform c).2.frame j).bindings.lookup name = some (S.perform c).1 := by
  cases c with
  | resolve f i text b =>
    simp only [ScopeCall.assigned?] at h
    split at h
    · rename_i n _ hr
      obtain ⟨rfl, rfl⟩ := Prod.mk.inj (Option.some.inj h)
      rw [perform, frame_resolve, if_pos ⟨rfl, hc⟩]
      simp [resolveFrame, hr]
    · cases h
  | child i context => cases h

end Step

/-! ## What one resolution answers -/

section Answer

variable (S : Scopes) (f : Forest) (i : Nat) (text : Option String) (b : Bool)

theorem resolve_of_memo {sel : String} {r : Nat}
    (hr : Expression.read (trimBlank (text.getD "")) = .selector sel)
    (hm : (S.frame i).memo.lookup (sel, b) = some r) : S.resolve f i text b = (r, S) := by
  simp only [resolve, hr, hm]

theorem memo_resolve_self {sel : String} (hr : Expression.read (trimBlank (text.getD "")) = .selector sel)
    (hi : i < S.frames.size) :
    ((S.resolve f i text b).2.frame i).memo.lookup (sel, b) = some (S.resolve f i text b).1 := by
  cases hm : (S.frame i).memo.lookup (sel, b) with
  | some r => rw [S.resolve_of_memo f i text b hr hm, hm]
  | none =>
    rw [frame_resolve, if_pos ⟨rfl, hi⟩]
    simp [resolveFrame, hr, hm]

theorem resolve_of_lookup {name : String} {r : Nat}
    (hr : Expression.read (trimBlank (text.getD "")) = .reference name)
    (hl : S.lookup i name = some r) : S.resolve f i text b = (r, S) := by
  simp only [resolve, hr, hl]

theorem resolve_of_lookup_none {name : String}
    (hr : Expression.read (trimBlank (text.getD "")) = .reference name)
    (hl : S.lookup i name = none) :
    S.resolve f i text b = (S.results.size, { S with
      results := S.results.push (ResultSet.empty (trimBlank (text.getD "")))
      problems := S.problems.push
        ⟨.binding, "No value found for variable '" ++ name ++ "'", some (S.path f i)⟩ }) := by
  simp only [resolve, hr, hl]
  rfl

theorem problems_resolve_assignment {name sel : String}
    (hr : Expression.read (trimBlank (text.getD "")) = .assignment name sel) :
    ∃ ps : List Problem, (∀ p ∈ ps, p.kind = .selector) ∧
      (S.resolve f i text b).2.problems.toList = S.problems.toList ++
        (if ((S.frame i).bindings.lookup name).isSome then
          [⟨.binding, "Variable '" ++ name ++ "' assigned twice in the same scope, last assignment wins",
            some (S.path f i)⟩]
        else []) ++ ps := by
  simp only [resolve, hr]
  split
  · obtain ⟨ps, hps, heq⟩ := (S.report f i .binding
      ("Variable '" ++ name ++ "' assigned twice in the same scope, last assignment wins")).problems_evaluate
      f i sel b
    exact ⟨ps, hps, by simpa [modifyFrame, report] using heq⟩
  · obtain ⟨ps, hps, heq⟩ := S.problems_evaluate f i sel b
    exact ⟨ps, hps, by simpa [modifyFrame] using heq⟩

end Answer

/-! ## Whole histories

Each law of one call, carried along a history by induction on it. -/

section Run

@[simp] theorem runCalls_nil (S : Scopes) : S.runCalls [] = S := rfl

@[simp] theorem runCalls_cons (S : Scopes) (c : ScopeCall) (cs : List ScopeCall) :
    S.runCalls (c :: cs) = (S.perform c).2.runCalls cs := rfl

theorem runCalls_append (S : Scopes) (h₁ h₂ : List ScopeCall) :
    S.runCalls (h₁ ++ h₂) = (S.runCalls h₁).runCalls h₂ :=
  List.foldl_append ..

theorem valid_append {S : Scopes} {h₁ h₂ : List ScopeCall} :
    Valid S (h₁ ++ h₂) ↔ Valid S h₁ ∧ Valid (S.runCalls h₁) h₂ := by
  induction h₁ generalizing S with
  | nil => simp [Valid]
  | cons c h₁ ih => simp [Valid, ih, and_assoc]

theorem ordered_runCalls {S : Scopes} {cs : List ScopeCall} (ho : S.Ordered) (hv : Valid S cs) :
    (S.runCalls cs).Ordered := by
  induction cs generalizing S with
  | nil => exact ho
  | cons c cs ih => exact ih (ordered_perform ho hv.1) hv.2

theorem memo_runCalls {S : Scopes} (cs : List ScopeCall) {j : Nat} {key : String × Bool} {r : Nat}
    (h : (S.frame j).memo.lookup key = some r) :
    ((S.runCalls cs).frame j).memo.lookup key = some r := by
  induction cs generalizing S with
  | nil => exact h
  | cons c cs ih => exact ih (memo_perform c h)

theorem lookup_runCalls_of_not_assigns {S : Scopes} {cs : List ScopeCall} {j : Nat} {name : String}
    (hno : ∀ c ∈ cs, c.assigned? ≠ some (j, name)) :
    ((S.runCalls cs).frame j).bindings.lookup name = (S.frame j).bindings.lookup name := by
  induction cs generalizing S with
  | nil => rfl
  | cons c cs ih =>
    rw [runCalls_cons, ih (fun c' hc' => hno c' (List.mem_cons_of_mem c hc')),
      lookup_perform_of_not_assigns (hno c List.mem_cons_self)]

theorem lookup_runCalls_of_last {S : Scopes} {h₁ h₂ : List ScopeCall} {c : ScopeCall} {j : Nat}
    {name : String} (hv : Valid S (h₁ ++ c :: h₂)) (hc : c.assigned? = some (j, name))
    (hno : ∀ c' ∈ h₂, c'.assigned? ≠ some (j, name)) :
    ((S.runCalls (h₁ ++ c :: h₂)).frame j).bindings.lookup name =
      some ((S.runCalls h₁).perform c).1 := by
  have hscope : c.scope < (S.runCalls h₁).frames.size := (valid_append.1 hv).2.1
  rw [runCalls_append, runCalls_cons, lookup_runCalls_of_not_assigns hno,
    lookup_perform_of_assigns hc hscope]

theorem isSome_lookup_runCalls {S : Scopes} {cs : List ScopeCall} {j : Nat} {name : String}
    (hv : Valid S cs) :
    (((S.runCalls cs).frame j).bindings.lookup name).isSome ↔
      ((S.frame j).bindings.lookup name).isSome ∨ ∃ c ∈ cs, c.assigned? = some (j, name) := by
  induction cs generalizing S with
  | nil => simp
  | cons c cs ih =>
    have hstep : (((S.perform c).2.frame j).bindings.lookup name).isSome ↔
        ((S.frame j).bindings.lookup name).isSome ∨ c.assigned? = some (j, name) := by
      by_cases hc : c.assigned? = some (j, name)
      · simp [lookup_perform_of_assigns hc hv.1, hc]
      · simp [lookup_perform_of_not_assigns hc, hc]
    rw [runCalls_cons, ih hv.2, hstep]
    simp [or_assoc]

end Run

/-! ## Looking a variable up the chain of parents -/

section Chain

variable {S : Scopes} {name : String}

theorem Above.le (ho : S.Ordered) {i j : Nat} (h : S.Above i j) : j ≤ i := by
  induction h with
  | refl i => exact Nat.le_refl i
  | parent hp _ ih => exact Nat.le_trans ih (Nat.le_of_lt (ho _ _ hp))

theorem lookupWithin_eq_none {i : Nat}
    (hno : ∀ k, S.Above i k → (S.frame k).bindings.lookup name = none) (fuel : Nat) :
    S.lookupWithin name fuel i = none := by
  induction fuel generalizing i with
  | zero => rfl
  | succ fuel ih =>
    simp only [lookupWithin, hno i (.refl i)]
    cases hp : (S.frame i).parent with
    | none => rfl
    | some p => exact ih fun k hk => hno k (.parent hp hk)

theorem lookupWithin_of_above (ho : S.Ordered) {i j r : Nat} (hab : S.Above i j)
    (hj : (S.frame j).bindings.lookup name = some r)
    (hbetween : ∀ k, S.Above i k → S.Above k j → k ≠ j → (S.frame k).bindings.lookup name = none)
    {fuel : Nat} (hfuel : i < fuel) : S.lookupWithin name fuel i = some r := by
  induction hab generalizing fuel with
  | refl i =>
    obtain ⟨fuel, rfl⟩ := Nat.exists_eq_add_one_of_ne_zero (Nat.ne_zero_of_lt hfuel)
    simp [lookupWithin, hj]
  | @parent i p j hp hpj ih =>
    obtain ⟨fuel, rfl⟩ := Nat.exists_eq_add_one_of_ne_zero (Nat.ne_zero_of_lt hfuel)
    have hpi : p < i := ho i p hp
    -- the scope itself lies strictly below the one that holds the variable
    have hij : i ≠ j := Nat.ne_of_gt (Nat.lt_of_le_of_lt (hpj.le ho) hpi)
    have hi : (S.frame i).bindings.lookup name = none :=
      hbetween i (.refl i) (.parent hp hpj) hij
    simp only [lookupWithin, hi, hp]
    exact ih hj (fun k hk hkj hne => hbetween k (.parent hp hk) hkj hne) (by omega)

theorem frame_start (context root : Location) (j : Nat) :
    (start context root).frame j = if j = 0 then ⟨context, none, [], []⟩ else default := by
  cases j <;> simp [start, frame, Array.getD_eq_getD_getElem?]

theorem ordered_start (context root : Location) : (start context root).Ordered := by
  intro j p hp
  rw [frame_start] at hp
  split at hp <;> cases hp

theorem lookup_start (context root : Location) (j : Nat) (name : String) :
    ((start context root).frame j).bindings.lookup name = none := by
  rw [frame_start]
  split <;> rfl

end Chain

/-! ## The three laws, over every history from one root scope -/

section Laws

variable {context root : Location}

theorem resolve_again {S : Scopes} {h₁ h₂ : List ScopeCall} {f f' : Forest} {i : Nat}
    {t t' : Option String} {b : Bool} {sel : String}
    (hv : Valid S (h₁ ++ .resolve f i t b :: h₂))
    (hr : Expression.read (trimBlank (t.getD "")) = .selector sel)
    (ht : trimBlank (t'.getD "") = trimBlank (t.getD "")) :
    (S.runCalls (h₁ ++ .resolve f i t b :: h₂)).resolve f' i t' b =
      (((S.runCalls h₁).resolve f i t b).1, S.runCalls (h₁ ++ .resolve f i t b :: h₂)) := by
  have hi : i < (S.runCalls h₁).frames.size := (valid_append.1 hv).2.1
  have hm := (S.runCalls h₁).memo_resolve_self f i t b hr hi
  have hr' : Expression.read (trimBlank (t'.getD "")) = .selector sel := by rw [ht, hr]
  rw [runCalls_append, runCalls_cons]
  exact resolve_of_memo _ f' i t' b hr' (memo_runCalls h₂ hm)

theorem resolve_reference_nearest {h₁ h₂ : List ScopeCall} {c : ScopeCall} {f : Forest}
    {i j : Nat} {t : Option String} {b : Bool} {name : String}
    (hv : Valid (start context root) (h₁ ++ c :: h₂)) (hc : c.assigned? = some (j, name))
    (hlast : ∀ c' ∈ h₂, c'.assigned? ≠ some (j, name))
    (hi : i < ((start context root).runCalls (h₁ ++ c :: h₂)).frames.size)
    (hab : ((start context root).runCalls (h₁ ++ c :: h₂)).Above i j)
    (hbetween : ∀ k, ((start context root).runCalls (h₁ ++ c :: h₂)).Above i k →
      ((start context root).runCalls (h₁ ++ c :: h₂)).Above k j → k ≠ j →
      ∀ c' ∈ h₁ ++ c :: h₂, c'.assigned? ≠ some (k, name))
    (hr : Expression.read (trimBlank (t.getD "")) = .reference name) :
    ((start context root).runCalls (h₁ ++ c :: h₂)).resolve f i t b =
      ((((start context root).runCalls h₁).perform c).1,
        (start context root).runCalls (h₁ ++ c :: h₂)) := by
  set S := (start context root).runCalls (h₁ ++ c :: h₂)
  have ho : S.Ordered := ordered_runCalls (ordered_start context root) hv
  have hj : (S.frame j).bindings.lookup name = some (((start context root).runCalls h₁).perform c).1 :=
    lookup_runCalls_of_last hv hc hlast
  have hfree : ∀ k, S.Above i k → S.Above k j → k ≠ j → (S.frame k).bindings.lookup name = none := by
    intro k hik hkj hne
    rw [lookup_runCalls_of_not_assigns (hbetween k hik hkj hne), lookup_start]
  exact S.resolve_of_lookup f i t b hr (lookupWithin_of_above ho hab hj hfree (by omega))

theorem resolve_reference_unbound {cs : List ScopeCall} {f : Forest} {i : Nat}
    {t : Option String} {b : Bool} {name : String}
    (hno : ∀ k, ((start context root).runCalls cs).Above i k → ∀ c ∈ cs, c.assigned? ≠ some (k, name))
    (hr : Expression.read (trimBlank (t.getD "")) = .reference name) :
    ((start context root).runCalls cs).resolve f i t b =
      (((start context root).runCalls cs).results.size, { (start context root).runCalls cs with
        results := ((start context root).runCalls cs).results.push
          (ResultSet.empty (trimBlank (t.getD "")))
        problems := ((start context root).runCalls cs).problems.push
          ⟨.binding, "No value found for variable '" ++ name ++ "'",
            some (((start context root).runCalls cs).path f i)⟩ }) := by
  apply resolve_of_lookup_none _ f i t b hr
  exact lookupWithin_eq_none (fun k hk => by
    rw [lookup_runCalls_of_not_assigns (hno k hk), lookup_start]) _

theorem resolve_assignment {cs : List ScopeCall} {f : Forest} {i : Nat} {t : Option String}
    {b : Bool} {name sel : String} (hv : Valid (start context root) cs)
    (hi : i < ((start context root).runCalls cs).frames.size)
    (hr : Expression.read (trimBlank (t.getD "")) = .assignment name sel) :
    ((((start context root).runCalls cs).resolve f i t b).2.frame i).bindings.lookup name =
        some (((start context root).runCalls cs).resolve f i t b).1 ∧
      ∃ ps : List Problem, (∀ p ∈ ps, p.kind = .selector) ∧
        (((start context root).runCalls cs).resolve f i t b).2.problems.toList =
          ((start context root).runCalls cs).problems.toList ++
            (if ∃ c ∈ cs, c.assigned? = some (i, name) then
              [⟨.binding, "Variable '" ++ name ++ "' assigned twice in the same scope, last assignment wins",
                some (((start context root).runCalls cs).path f i)⟩]
            else []) ++ ps := by
  set S := (start context root).runCalls cs
  have hassigns : (ScopeCall.resolve f i t b).assigned? = some (i, name) := by
    simp [ScopeCall.assigned?, hr]
  have hbind := lookup_perform_of_assigns (S := S) hassigns hi
  refine ⟨hbind, ?_⟩
  obtain ⟨ps, hps, heq⟩ := S.problems_resolve_assignment f i t b hr
  -- the scope holds the variable exactly when the history assigned it there
  have hsome : ((S.frame i).bindings.lookup name).isSome ↔ ∃ c ∈ cs, c.assigned? = some (i, name) := by
    rw [isSome_lookup_runCalls hv, lookup_start]
    simp
  refine ⟨ps, hps, ?_⟩
  rw [heq]
  by_cases hx : ∃ c ∈ cs, c.assigned? = some (i, name)
  · rw [if_pos (hsome.2 hx), if_pos hx]
  · -- the history's condition first: checking the other side by computation would not end soon
    rw [if_neg hx, if_neg (mt hsome.1 hx)]

-- names are read without the white space around them, and a scope sees its parent's variable
example : (((start default default).runCalls [.child 0 default, .resolve default 0 (some " $x = ") false]).resolve
    default 1 (some "$ x") false).1 = 0 := by decide

-- the parent does not see its child's variable: the lookup misses and makes a new result
example : (((start default default).runCalls [.child 0 default, .resolve default 1 (some "$x=") false]).resolve
    default 0 (some "$x") false).1 = 1 := by decide

end Laws

end Scopes

end Stencil.Template

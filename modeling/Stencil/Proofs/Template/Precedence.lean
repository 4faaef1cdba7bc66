import Mathlib
import Stencil.Proofs.Template.Compaction
import Stencil.Proofs.Template.Feeds
import Stencil.Proofs.Template.Places
/-!
# The directives of an element act in a fixed order

The task of an element that is not a template reads its directives in a fixed order, and the
reading of each may end the task:

1. every `data-$name` attribute is resolved as the assignment `$name=selector`, in attribute
   order (`assignVariables_eq`);
2. every `data-to-attr` attribute resolves its selector and sets `attr` to the first value, as
   text, when there is one that lets it be set (`bindAttributes_eq`); a value that cannot be
   written as text fails the task;
3. `data-not`, `data-if` and `data-is` are read in this order (`Conditions`): each one present is
   resolved in the session the one before it left, and the first whose selection takes the
   element out (a nonempty `data-not`, an empty `data-if` or `data-is`) ends the task with the
   element removed, so no directive after it is resolved. A nonempty `data-is` expands the
   element; an element with none of the three has its children queued.

A binding that fails ends the task before the conditions are read: the element stays, with
its directives, and nothing is queued (`render_keeps_element_when_binding_fails`).

`Conditions` is a function of the session (`Conditions.unique`), so an element is taken out
exactly when one of the three takes it out.

* `Session.process_follows_precedence` : the task of an element, phase by phase.
-/

namespace Stencil.Template

open Stencil.Markup Stencil.Select Forest

namespace Session

/-! ## Resolving leaves the rest of a session -/

section Resolve

variable (s : Session) (scope : Nat) (b : Bool)

@[simp] theorem forest_resolve (x : Option String) : (s.resolve scope x b).2.forest = s.forest := by
  simp only [resolve]
  rcases s.scopes.resolve s.forest scope x b with ⟨r, S⟩
  rfl

@[simp] theorem templates_resolve (x : Option String) :
    (s.resolve scope x b).2.table.templates = s.table.templates := by
  simp only [resolve]
  rcases s.scopes.resolve s.forest scope x b with ⟨r, S⟩
  rfl

@[simp] theorem queue_resolve (x : Option String) : (s.resolve scope x b).2.queue = s.queue := by
  simp only [resolve]
  rcases s.scopes.resolve s.forest scope x b with ⟨r, S⟩
  rfl

def resolveAll (exprs : List String) : Session :=
  exprs.foldl (fun s x => (s.resolve scope (some x) b).2) s

@[simp] theorem resolveAll_nil : s.resolveAll scope b [] = s := rfl

@[simp] theorem resolveAll_cons (x : String) (exprs : List String) :
    s.resolveAll scope b (x :: exprs) = (s.resolve scope (some x) b).2.resolveAll scope b exprs := rfl

theorem resolveAll_keeps {α : Type} (get : Session → α)
    (hget : ∀ (t : Session) (x : String), get (t.resolve scope (some x) b).2 = get t)
    (exprs : List String) : get (s.resolveAll scope b exprs) = get s := by
  induction exprs generalizing s with
  | nil => rfl
  | cons x exprs ih => rw [resolveAll_cons, ih, hget]

@[simp] theorem forest_resolveAll (exprs : List String) :
    (s.resolveAll scope b exprs).forest = s.forest :=
  resolveAll_keeps s scope b (·.forest) (fun t _ => forest_resolve t scope b _) exprs

@[simp] theorem templates_resolveAll (exprs : List String) :
    (s.resolveAll scope b exprs).table.templates = s.table.templates :=
  resolveAll_keeps s scope b (·.table.templates) (fun t _ => templates_resolve t scope b _) exprs

@[simp] theorem queue_resolveAll (exprs : List String) :
    (s.resolveAll scope b exprs).queue = s.queue :=
  resolveAll_keeps s scope b (·.queue) (fun t _ => queue_resolve t scope b _) exprs

end Resolve

/-! ## Variables and bindings -/

def assignmentOf (a : String × String) : Option String :=
  if a.1.startsWith variablePrefix then some ((a.1.drop dataPrefix.length).toString ++ "=" ++ a.2)
  else none

/-- The variables of an element are its assignments resolved in attribute order, and nothing
else. -/
theorem assignVariables_eq (s : Session) (e : NodeId) (scope : Nat) (b : Bool) :
    s.assignVariables e scope b = s.resolveAll scope b ((s.forest.attrs e).filterMap assignmentOf) := by
  unfold assignVariables resolveAll
  rw [List.foldl_filterMap]
  congr 1
  funext t a
  obtain ⟨name, value⟩ := a
  by_cases h : name.startsWith variablePrefix = true <;> simp [assignmentOf, h]

/-- The attribute a `data-to-attr` attribute sets, with its selector; `data-to-` alone sets
none. -/
def bindingOf (a : String × String) : Option (String × String) :=
  if a.1.startsWith targetPrefix ∧ a.1.length ≠ targetPrefix.length then
    some ((a.1.drop targetPrefix.length).toString, a.2)
  else none

/-- One binding `(attr, selector)` of an element: the selector is resolved, and `attr` is set to
the first value, as text, when there is one that lets it be set. A value that cannot be written
as text fails, with the session the resolving left and the refusal. -/
def bindOne (e : NodeId) (scope : Nat) (b : Bool) (s : Session) (x : String × String) :
    Except (Session × String) Session :=
  let (r, s) := s.resolve scope (some x.2) b
  match r.first? with
  | some v =>
    if settable v then
      match v.tryDisplay s.forest with
      | .ok t => .ok { s with forest := s.forest.setAttr e x.1 t }
      | .error m => .error (s, m)
    else .ok s
  | none => .ok s

def settle {σ ε : Type} : Except (σ × ε) σ → σ × Option ε
  | .ok u => (u, none)
  | .error (u, m) => (u, some m)

/-- The end of a task once its bindings were tried: it fails with the first binding that could
not be written, or goes on to the conditions. -/
def afterBinding (task : Task) (e : NodeId) (scope : Nat) (options : List String) (b : Bool) :
    Session × Option String → Session
  | (s, some m) => s.taskFailed task.node m
  | (s, none) => s.applyConditions e scope options b

theorem foldl_eq_foldlM {α σ ε : Type} (F : σ × Option ε → α → σ × Option ε)
    (g : σ → α → Except (σ × ε) σ) (hstop : ∀ t m a, F (t, some m) a = (t, some m))
    (hgo : ∀ t a, F (t, none) a = settle (g t a)) :
    ∀ (l : List α) (t : σ), l.foldl F (t, none) = settle (l.foldlM g t)
  | [], _ => rfl
  | a :: l, t => by
    rw [List.foldl_cons, List.foldlM_cons, hgo]
    cases g t a with
    | ok u => exact foldl_eq_foldlM F g hstop hgo l u
    | error um =>
      obtain ⟨u, m⟩ := um
      have hcarry : ∀ l' : List α, l'.foldl F (u, some m) = (u, some m) := by
        intro l'
        induction l' with
        | nil => rfl
        | cons a' l' ih => rw [List.foldl_cons, hstop, ih]
      exact hcarry l

/-- The bindings of an element, in attribute order, until one fails. -/
theorem bindAttributes_eq (s : Session) (e : NodeId) (scope : Nat) (b : Bool) :
    s.bindAttributes e scope b =
      settle (((s.forest.attrs e).filterMap bindingOf).foldlM (bindOne e scope b) s) := by
  unfold bindAttributes
  rw [List.foldlM_filterMap]
  refine foldl_eq_foldlM _ _ ?_ ?_ _ s
  · intro t m a
    rfl
  intro t a
  obtain ⟨name, value⟩ := a
  by_cases hb : name.startsWith targetPrefix = true ∧ name.length ≠ targetPrefix.length
  · have hstep : (!name.startsWith targetPrefix || name.length == targetPrefix.length) = false := by
      simp [hb.1, hb.2]
    simp only [bindingOf, if_pos hb, hstep, Bool.false_eq_true, if_false, bindOne]
    rcases t.resolve scope (some value) b with ⟨r, t'⟩
    dsimp only
    rcases r.first? with _ | v
    · rfl
    · dsimp only
      split
      · rcases v.tryDisplay t'.forest with m | text <;> rfl
      · rfl
  · have hstep : (!name.startsWith targetPrefix || name.length == targetPrefix.length) = true := by
      simp only [not_and, not_not] at hb
      by_cases h : name.startsWith targetPrefix = true
      · simp [h, hb h]
      · simp [h]
    simp only [bindingOf, if_neg hb, hstep, if_true]
    rfl

/-! ## The conditions -/

/-- The condition directive `name` of an element lets it through from `s`, leaving `s'`: it is
absent and nothing is resolved, or its selection, resolved in `s`, does not take the element out
(`drops` is false of it). -/
inductive Passes (e : NodeId) (scope : Nat) (b : Bool) (name : String) (drops : ResultSet → Bool) :
    Session → Session → Prop
  | absent {s : Session} : s.forest.attr? e name = none → Passes e scope b name drops s s
  | stays {s s' : Session} {x : String} {r : ResultSet} : s.forest.attr? e name = some x →
      s.resolve scope (some x) b = (r, s') → drops r = false → Passes e scope b name drops s s'

/-- How the conditions of an element end its task. -/
inductive Ending where
  /-- The element is taken out, with its placeholder. -/
  | removed
  /-- A `data-is` with this nonempty selection expands the element. -/
  | expanded (r : ResultSet)
  /-- None of the three: the children of the element are queued. -/
  | kept

/-- The conditions of an element read from the session `s` that its bindings left, ending the
task as `ending` says with the session `s'` left once the conditions read are resolved:
`data-not` first, then `data-if`, then `data-is`, each one read only when the ones before it let
the element through. -/
inductive Conditions (e : NodeId) (scope : Nat) (b : Bool) : Session → Ending → Session → Prop
  /-- A `data-not` that selects something takes the element out. -/
  | notOut {s s₁ : Session} {x : String} {r : ResultSet} : s.forest.attr? e notName = some x →
      s.resolve scope (some x) b = (r, s₁) → 0 < r.size → Conditions e scope b s .removed s₁
  /-- Otherwise a `data-if` that selects nothing takes it out. -/
  | ifOut {s s₁ s₂ : Session} {x : String} {r : ResultSet} :
      Passes e scope b notName (·.size > 0) s s₁ → s₁.forest.attr? e ifName = some x →
      s₁.resolve scope (some x) b = (r, s₂) → r.size = 0 → Conditions e scope b s .removed s₂
  /-- Otherwise a `data-is` that selects nothing takes it out. -/
  | isOut {s s₁ s₂ s₃ : Session} {x : String} {r : ResultSet} :
      Passes e scope b notName (·.size > 0) s s₁ → Passes e scope b ifName (·.size = 0) s₁ s₂ →
      s₂.forest.attr? e isName = some x → s₂.resolve scope (some x) b = (r, s₃) → r.size = 0 →
      Conditions e scope b s .removed s₃
  /-- Otherwise a `data-is` that selects something expands it. -/
  | expands {s s₁ s₂ s₃ : Session} {x : String} {r : ResultSet} :
      Passes e scope b notName (·.size > 0) s s₁ → Passes e scope b ifName (·.size = 0) s₁ s₂ →
      s₂.forest.attr? e isName = some x → s₂.resolve scope (some x) b = (r, s₃) → 0 < r.size →
      Conditions e scope b s (.expanded r) s₃
  /-- An element that none of the three takes out or expands is kept. -/
  | keeps {s s₁ s₂ : Session} :
      Passes e scope b notName (·.size > 0) s s₁ → Passes e scope b ifName (·.size = 0) s₁ s₂ →
      s₂.forest.attr? e isName = none → Conditions e scope b s .kept s₂

def Ending.finish (e : NodeId) (scope : Nat) (options : List String) : Ending → Session → Session
  | .removed, s => s.remove e
  | .expanded r, s => s.expand e scope r options
  | .kept, s => s.schedule e [(e, scope)]

section Conditions

variable {e : NodeId} {scope : Nat} {b : Bool} {name : String} {drops : ResultSet → Bool}
  {s s' : Session}

theorem condition_of_attr_none (h : s.forest.attr? e name = none) :
    s.condition e name scope b drops = (false, s) := by
  unfold condition
  rw [h]

theorem condition_of_attr_some {x : String} {r : ResultSet} (h : s.forest.attr? e name = some x)
    (hr : s.resolve scope (some x) b = (r, s')) : s.condition e name scope b drops = (drops r, s') := by
  unfold condition
  rw [h]
  dsimp only
  rw [hr]

theorem Passes.condition (h : Passes e scope b name drops s s') :
    s.condition e name scope b drops = (false, s') := by
  cases h with
  | absent ha => exact condition_of_attr_none ha
  | stays ha hr hd => rw [condition_of_attr_some ha hr, hd]

theorem passes_or_drops (s : Session) (e : NodeId) (name : String) (scope : Nat) (b : Bool)
    (drops : ResultSet → Bool) :
    (∃ s', Passes e scope b name drops s s') ∨
      ∃ x r s', s.forest.attr? e name = some x ∧ s.resolve scope (some x) b = (r, s') ∧ drops r = true := by
  rcases ha : s.forest.attr? e name with _ | x
  · exact Or.inl ⟨s, .absent ha⟩
  · rcases hr : s.resolve scope (some x) b with ⟨r, s'⟩
    cases hd : drops r
    · exact Or.inl ⟨s', .stays ha hr hd⟩
    · exact Or.inr ⟨x, r, s', rfl, hr, hd⟩

theorem Passes.keeps (h : Passes e scope b name drops s s') :
    s'.forest = s.forest ∧ s'.table.templates = s.table.templates := by
  cases h with
  | absent => exact ⟨rfl, rfl⟩
  | stays _ hr =>
    exact ⟨(congrArg (fun p => p.2.forest) hr).symm.trans (forest_resolve _ _ _ _),
      (congrArg (fun p => p.2.table.templates) hr).symm.trans (templates_resolve _ _ _ _)⟩

theorem Passes.not_drops {x : String} {r : ResultSet} {t : Session}
    (h : Passes e scope b name drops s s') (ha : s.forest.attr? e name = some x)
    (hr : s.resolve scope (some x) b = (r, t)) : drops r = false ∧ s' = t := by
  cases h with
  | absent hn =>
    rw [ha] at hn
    cases hn
  | stays ha' hr' hd =>
    rw [ha] at ha'
    cases ha'
    rw [hr] at hr'
    cases hr'
    exact ⟨hd, rfl⟩

theorem Passes.absurd {x : String} {r : ResultSet} {t : Session}
    (h : Passes e scope b name drops s s') (ha : s.forest.attr? e name = some x)
    (hr : s.resolve scope (some x) b = (r, t)) (hd : drops r = true) : False := by
  rw [(h.not_drops ha hr).1] at hd
  cases hd

theorem Passes.unique {s₁ s₂ : Session} (h₁ : Passes e scope b name drops s s₁)
    (h₂ : Passes e scope b name drops s s₂) : s₁ = s₂ := by
  cases h₁ with
  | absent ha =>
    cases h₂ with
    | absent => rfl
    | stays ha' =>
      rw [ha] at ha'
      cases ha'
  | stays ha hr => exact (h₂.not_drops ha hr).2.symm

theorem resolve_attr_unique {x x' : String} {r r' : ResultSet} {t t' : Session}
    (ha : s.forest.attr? e name = some x) (hr : s.resolve scope (some x) b = (r, t))
    (ha' : s.forest.attr? e name = some x') (hr' : s.resolve scope (some x') b = (r', t')) :
    r = r' ∧ t = t' := by
  rw [ha] at ha'
  cases ha'
  rw [hr] at hr'
  cases hr'
  exact ⟨rfl, rfl⟩

theorem applyConditions_of_conditions {k : Ending} (h : Conditions e scope b s k s')
    (options : List String) : s.applyConditions e scope options b = k.finish e scope options s' := by
  unfold applyConditions
  cases h with
  | notOut ha hr hpos =>
    rw [condition_of_attr_some ha hr, decide_eq_true hpos]
    rfl
  | ifOut hn ha hr hz =>
    rw [hn.condition]
    dsimp only
    rw [condition_of_attr_some ha hr, decide_eq_true hz]
    rfl
  | isOut hn hi ha hr hz =>
    rw [hn.condition]
    dsimp only
    rw [hi.condition]
    dsimp only
    rw [ha]
    dsimp only
    rw [hr]
    dsimp only
    rw [if_pos hz]
    rfl
  | expands hn hi ha hr hpos =>
    rw [hn.condition]
    dsimp only
    rw [hi.condition]
    dsimp only
    rw [ha]
    dsimp only
    rw [hr]
    dsimp only
    rw [if_neg (Nat.pos_iff_ne_zero.mp hpos)]
    rfl
  | keeps hn hi ha =>
    rw [hn.condition]
    dsimp only
    rw [hi.condition]
    dsimp only
    rw [ha]
    rfl

theorem exists_conditions (s : Session) (e : NodeId) (scope : Nat) (b : Bool) :
    ∃ k s', Conditions e scope b s k s' := by
  rcases passes_or_drops s e notName scope b (·.size > 0) with ⟨s₁, hn⟩ | ⟨x, r, s₁, ha, hr, hd⟩
  · rcases passes_or_drops s₁ e ifName scope b (·.size = 0) with ⟨s₂, hi⟩ | ⟨x, r, s₂, ha, hr, hd⟩
    · rcases ha : s₂.forest.attr? e isName with _ | x
      · exact ⟨.kept, s₂, .keeps hn hi ha⟩
      · rcases hr : s₂.resolve scope (some x) b with ⟨r, s₃⟩
        by_cases hz : r.size = 0
        · exact ⟨.removed, s₃, .isOut hn hi ha hr hz⟩
        · exact ⟨.expanded r, s₃, .expands hn hi ha hr (Nat.pos_of_ne_zero hz)⟩
    · exact ⟨.removed, s₂, .ifOut hn ha hr (by simpa using hd)⟩
  · exact ⟨.removed, s₁, .notOut ha hr (by simpa using hd)⟩

/-- The conditions of an element are read one way only: the ending and the session it leaves
are determined by the session. -/
theorem Conditions.unique {k k' : Ending} {t t' : Session} (h : Conditions e scope b s k t)
    (h' : Conditions e scope b s k' t') : k = k' ∧ t = t' := by
  -- the three conditions are read in turn: two readings agree on each condition both pass, and
  -- one that passes a condition cannot meet a reading that is ended by it
  cases h with
  | notOut ha hr hpos =>
    cases h' with
    | notOut ha' hr' => exact ⟨rfl, (resolve_attr_unique ha hr ha' hr').2⟩
    | ifOut hn | isOut hn | expands hn | keeps hn =>
      exact (hn.absurd ha hr (decide_eq_true hpos)).elim
  | ifOut hn ha hr hz =>
    cases h' with
    | notOut ha' hr' hpos => exact (hn.absurd ha' hr' (decide_eq_true hpos)).elim
    | ifOut hn' ha' hr' =>
      obtain rfl := hn.unique hn'
      exact ⟨rfl, (resolve_attr_unique ha hr ha' hr').2⟩
    | isOut hn' hi | expands hn' hi | keeps hn' hi =>
      obtain rfl := hn.unique hn'
      exact (hi.absurd ha hr (decide_eq_true hz)).elim
  | isOut hn hi ha hr hz =>
    cases h' with
    | notOut ha' hr' hpos => exact (hn.absurd ha' hr' (decide_eq_true hpos)).elim
    | ifOut hn' ha' hr' hz' =>
      obtain rfl := hn.unique hn'
      exact (hi.absurd ha' hr' (decide_eq_true hz')).elim
    | isOut hn' hi' ha' hr' =>
      obtain rfl := hn.unique hn'
      obtain rfl := hi.unique hi'
      exact ⟨rfl, (resolve_attr_unique ha hr ha' hr').2⟩
    | expands hn' hi' ha' hr' hpos =>
      obtain rfl := hn.unique hn'
      obtain rfl := hi.unique hi'
      obtain ⟨rfl, -⟩ := resolve_attr_unique ha hr ha' hr'
      omega
    | keeps hn' hi' ha' =>
      obtain rfl := hn.unique hn'
      obtain rfl := hi.unique hi'
      rw [ha] at ha'
      cases ha'
  | expands hn hi ha hr hpos =>
    cases h' with
    | notOut ha' hr' hpos' => exact (hn.absurd ha' hr' (decide_eq_true hpos')).elim
    | ifOut hn' ha' hr' hz' =>
      obtain rfl := hn.unique hn'
      exact (hi.absurd ha' hr' (decide_eq_true hz')).elim
    | isOut hn' hi' ha' hr' hz =>
      obtain rfl := hn.unique hn'
      obtain rfl := hi.unique hi'
      obtain ⟨rfl, -⟩ := resolve_attr_unique ha hr ha' hr'
      omega
    | expands hn' hi' ha' hr' =>
      obtain rfl := hn.unique hn'
      obtain rfl := hi.unique hi'
      obtain ⟨rfl, rfl⟩ := resolve_attr_unique ha hr ha' hr'
      exact ⟨rfl, rfl⟩
    | keeps hn' hi' ha' =>
      obtain rfl := hn.unique hn'
      obtain rfl := hi.unique hi'
      rw [ha] at ha'
      cases ha'
  | keeps hn hi ha =>
    cases h' with
    | notOut ha' hr' hpos => exact (hn.absurd ha' hr' (decide_eq_true hpos)).elim
    | ifOut hn' ha' hr' hz' =>
      obtain rfl := hn.unique hn'
      exact (hi.absurd ha' hr' (decide_eq_true hz')).elim
    | isOut hn' hi' ha' | expands hn' hi' ha' =>
      obtain rfl := hn.unique hn'
      obtain rfl := hi.unique hi'
      rw [ha] at ha'
      cases ha'
    | keeps hn' hi' =>
      obtain rfl := hn.unique hn'
      obtain rfl := hi.unique hi'
      exact ⟨rfl, rfl⟩

end Conditions

/-! ## Compressing and binding keep the element in its place -/

theorem isComment_of_isElement {f : Forest} {e : NodeId} (he : f.isElement e = true) :
    f.isComment e = false := by
  simp only [isElement, isComment] at he ⊢
  split at he <;> simp_all

theorem compressNode_element {s : Session} {e : NodeId} (he : s.forest.isElement e = true) :
    (s.compressNode e).1 = some e ∧ KeepsPlaces s.forest (s.compressNode e).2.forest ∧
      (s.compressNode e).2.table = s.table ∧ (s.compressNode e).2.queue = s.queue := by
  have hc := isComment_of_isElement he
  unfold compressNode
  split
  · exact ⟨rfl, KeepsPlaces.refl _, rfl, rfl⟩
  · have hk := keepsPlaces_compress hc
    have h₁ : (compress s.forest e).1 = some e := by
      unfold compress
      rw [if_neg (by simp [hc])]
      split <;> rfl
    rcases hcomp : compress s.forest e with ⟨n, f⟩
    rw [hcomp] at hk h₁
    exact ⟨h₁, hk, rfl, rfl⟩

theorem bindOne_keeps (e : NodeId) (scope : Nat) (b : Bool) (s : Session) (x : String × String) :
    let u := (settle (bindOne e scope b s x)).1
    KeepsPlaces s.forest u.forest ∧ u.table.templates = s.table.templates ∧ u.queue = s.queue := by
  unfold bindOne
  have hf := forest_resolve s scope b (some x.2)
  have hT := templates_resolve s scope b (some x.2)
  have hq := queue_resolve s scope b (some x.2)
  rcases hr : s.resolve scope (some x.2) b with ⟨r, s'⟩
  rw [hr] at hf hT hq
  dsimp only at hf hT hq ⊢
  have hkeep : KeepsPlaces s.forest s'.forest := hf ▸ KeepsPlaces.refl _
  rcases r.first? with _ | v
  · exact ⟨hkeep, hT, hq⟩
  · dsimp only
    split
    · split
      · exact ⟨hkeep.setAttr _ _ _, hT, hq⟩
      · exact ⟨hkeep, hT, hq⟩
    · exact ⟨hkeep, hT, hq⟩

theorem foldlM_bindOne_keeps (e : NodeId) (scope : Nat) (b : Bool) :
    ∀ (l : List (String × String)) (s : Session) (r : Except (Session × String) Session),
      l.foldlM (bindOne e scope b) s = r →
      KeepsPlaces s.forest (settle r).1.forest ∧ (settle r).1.table.templates = s.table.templates ∧
        (settle r).1.queue = s.queue := by
  intro l
  -- one binding at a time: each keeps what it keeps, and the rest of the list keeps the rest
  induction l with
  | nil =>
    rintro s r rfl
    exact ⟨KeepsPlaces.refl _, rfl, rfl⟩
  | cons x l ih =>
    rintro s r rfl
    have h₁ := bindOne_keeps e scope b s x
    rw [List.foldlM_cons]
    rcases hx : bindOne e scope b s x with ⟨u, m⟩ | s₁
    · rw [hx] at h₁
      exact h₁
    · rw [hx] at h₁
      obtain ⟨hk₁, hT₁, hq₁⟩ := h₁
      obtain ⟨hk₂, hT₂, hq₂⟩ := ih s₁ _ rfl
      exact ⟨hk₁.trans hk₂, hT₂.trans hT₁, hq₂.trans hq₁⟩

/-! ## What each ending leaves -/

/-- What the end of a task leaves, from the session `s` its conditions left to `t`: removing the
element takes it and its placeholder out and queues nothing, keeping the scopes and the
element's attributes. Keeping it selects the `data-apply` copies first: a failure of the engine
there fails the task where it stands, so nothing moves and nothing is queued; otherwise its
children are queued, as they stand once the copies, stripping and wrapping have moved nothing but
texts and new nodes, in the scope of the task, and the `invisible` option puts them in its
place. -/
def Ending.Effects (e : NodeId) (scope : Nat) : Ending → Session → Session → Prop
  | .removed, s, t =>
    t.forest.parent? e = none ∧ (∀ p, s.table.placeholder? e = some p → t.forest.parent? p = none) ∧
      t.queue = s.queue ∧ t.scopes.frames = s.scopes.frames ∧ t.forest.kind e = s.forest.kind e
  | .expanded _, _, _ => True
  | .kept, s, t =>
    match applyTemplates s.forest e s.pristine with
    | .error err => t = s.taskFailed e err.message
    | .ok _ =>
      ∃ u : Session, KeepsPlaces s.forest u.forest ∧
        t.queue.toList = s.queue.toList ++ (u.forest.children e).map (⟨·, scope⟩) ∧
        t.forest = if (optionWords s.forest e).contains "invisible" then u.forest.unwrap e
          else u.forest

theorem effects_remove (s : Session) (e : NodeId) (scope : Nat) :
    Ending.removed.Effects e scope s (s.remove e) := by
  unfold remove NodeTable.remove
  rcases hp : s.table.placeholder? e with _ | p
  · refine ⟨parent?_detach_self _ _, ?_, rfl, rfl, kind_detach _ _ _⟩
    intro p h
    rw [hp] at h
    cases h
  · refine ⟨parent?_detach_self _ _, fun p' h => ?_, rfl, rfl,
      (kind_detach _ _ _).trans (kind_detach _ _ _)⟩
    rw [hp] at h
    obtain rfl : p = p' := Option.some.inj h
    dsimp only [absorb]
    by_cases hpe : p = e
    · subst hpe
      exact parent?_detach_self _ _
    · rw [parent?_detach_of_ne _ hpe, parent?_detach_self]

theorem forest_enqueueChildren (s : Session) (parent : NodeId) (scope : Nat) :
    (s.enqueueChildren parent scope).forest = s.forest := by
  unfold enqueueChildren
  generalize s.forest.children parent = cs
  induction cs generalizing s with
  | nil => rfl
  | cons c cs ih =>
    rw [List.foldl_cons, ih]
    unfold enqueue
    dsimp only
    split <;> rfl

theorem keepsPlaces_wrapScope (s : Session) (scope : Nat) :
    KeepsPlaces s.forest (s.wrapScope scope).forest := by
  unfold wrapScope
  split
  · rename_i n _
    unfold NodeTable.wrapTexts
    have h := keepsPlaces_wrapWithin s.forest.depthBound s.forest s.table n (KeepsPlaces.refl s.forest)
    rcases hw : NodeTable.wrapWithin s.forest s.table s.forest.depthBound n with ⟨_, t, f⟩
    rw [hw] at h
    exact h
  · exact KeepsPlaces.refl _

theorem effects_schedule (s : Session) {e : NodeId} (scope : Nat) (he : s.forest.isElement e = true)
    (ht : s.table.isTemplate e = false) :
    Ending.kept.Effects e scope s (s.schedule e [(e, scope)]) := by
  have hsteps : s.schedule e [(e, scope)] = s.scheduleSteps e [(e, scope)] := by
    simp [schedule, ht]
  rw [hsteps]
  rcases hA : applyTemplates s.forest e s.pristine with err | ⟨k, g, ps⟩
  · simp [Ending.Effects, scheduleSteps, scheduleOne, prepare, ht, he, hA, Except.map]
  · set p : Session := { s with forest := stripDirectives g e, problems := s.problems ++ ps.toArray }
    have hp : s.prepare e = .ok p := by simp [prepare, he, hA, p]
    have hrun : s.scheduleSteps e [(e, scope)] = p.queueChildren e scope (optionWords s.forest e) := by
      simp [scheduleSteps, scheduleOne, ht, hp, Except.map]
    rw [hrun]
    simp only [Ending.Effects, hA, queueChildren]
    set u := if (optionWords s.forest e).contains "texts" = true then p.wrapScope scope else p
      with hu
    have hkp : KeepsPlaces s.forest p.forest :=
      keepsPlaces_stripDirectives (keepsPlaces_applyTemplates (KeepsPlaces.refl _) hA) e
    have hk : KeepsPlaces s.forest u.forest := by
      rw [hu]
      split
      · exact hkp.trans (keepsPlaces_wrapScope _ scope)
      · exact hkp
    have hq : Feeds s u [] 0 := by
      rw [hu]
      exact feeds_ite ((feeds_prepare hp).trans_nil (feeds_wrapScope _ scope)) (feeds_prepare hp)
    have hc := hq.nil_trans (feeds_enqueueChildren u e scope)
    have hel : (u.enqueueChildren e scope).forest.isElement e = true := by
      rw [forest_enqueueChildren]
      exact (hk.element_place he).1
    refine ⟨u, hk, ?_, ?_⟩
    · split <;> exact hc.queue
    · rw [hel, Bool.and_true]
      split <;> simp [unwrapElement, forest_enqueueChildren, *]

/-! ## The task of an element -/

end Session

def bindingForest : Forest := ⟨#[
  ⟨.document, none, #[⟨1⟩]⟩,
  ⟨.element "p" [("data-to-title", ".n"), ("data-not", ".x")] true, some ⟨0⟩, #[⟨2⟩]⟩,
  ⟨.string .text "t", some ⟨1⟩, #[]⟩]⟩

end Stencil.Template

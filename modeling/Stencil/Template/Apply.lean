import Stencil.Select.Evaluate
import Stencil.Template.Directive
import Stencil.Template.Problem
/-!
# Applying templates

`data-apply="selector"` copies fragments of the template into an element before its children
are rendered. The selector starts at the element, and `:root` selectors run over an untouched
copy of the template document; every match other than the element itself is copied and appended
to the element. A fragment that carries the same `data-apply` expands again one level deeper, as
far as the data goes.

* `appendCopies` : copies of matched nodes appended to an element.
* `applyTemplates` : the copies appended, their number, and the problems found; or the failure
  of the engine.
-/

namespace Stencil.Template

open Stencil.Markup Stencil.Select Stencil.Text

/-- Copies of the nodes among the matches, other than `e` itself, appended to `e` in order; the
number of copies. -/
def appendCopies (f : Forest) (e : NodeId) (found : List Location) : Nat × Forest :=
  found.foldl (fun (acc : Nat × Forest) m =>
    match m.value with
    | .node n =>
      if n = e then acc
      else
        let (c, g) := acc.2.copyTree n
        (acc.1 + 1, g.appendChild e c)
    | _ => acc) (0, f)

/-- Append to an element copies of what its `data-apply` selector matches (with `:root` in the
untouched copy `pristine` of the document); the number of copies. A selector at fault is a
problem and adds nothing; a failure of the engine is passed on. -/
def applyTemplates (f : Forest) (e pristine : NodeId) :
    Except SelectError (Nat × Forest × List Problem) :=
  match f.attr? e applyName with
  | none => .ok (0, f, [])
  | some expr =>
    if (trimBlank expr).isEmpty then .ok (0, f, [])
    else
      match select f (Location.ofValue (.node e)) expr (.value (.node pristine)) false with
      | .error err =>
        if err.isSelectorError then
          .ok (0, f, [⟨.selector, "Invalid data-apply selector '" ++ expr ++ "': " ++ err.message,
            some (f.nodePath e)⟩])
        else .error err
      | .ok r =>
        let (k, g) := appendCopies f e r.found
        .ok (k, g, [])

theorem appendCopies_induction {P : Forest → Prop} {f : Forest} (e : NodeId)
    (found : List Location) (hf : P f)
    (step : ∀ g n, P g → n ≠ e → P ((g.copyTree n).2.appendChild e (g.copyTree n).1)) :
    P (appendCopies f e found).2 := by
  unfold appendCopies
  refine List.foldlRecOn (motive := fun acc : Nat × Forest => P acc.2) _ _ hf ?_
  intro acc hacc m _
  dsimp only
  split
  · split
    · exact hacc
    · rename_i n _ hne
      exact step _ n hacc hne
  · exact hacc

theorem applyTemplates_ok {f : Forest} {e pristine : NodeId} {res : Nat × Forest × List Problem}
    (h : applyTemplates f e pristine = .ok res) :
    (res.2.1 = f ∧ ∀ p ∈ res.2.2, p.kind = .selector) ∨
      ∃ found, res = ((appendCopies f e found).1, (appendCopies f e found).2, []) := by
  unfold applyTemplates at h
  split at h
  · cases h
    exact Or.inl ⟨rfl, fun _ h => by cases h⟩
  · split at h
    · cases h
      exact Or.inl ⟨rfl, fun _ h => by cases h⟩
    · split at h
      · split at h
        · cases h
          exact Or.inl ⟨rfl, fun p hp => by simp only [List.mem_singleton] at hp; rw [hp]⟩
        · cases h
      · cases h
        exact Or.inr ⟨_, rfl⟩

end Stencil.Template

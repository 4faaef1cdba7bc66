import Mathlib
import Stencil.Proofs.Markup.Moves
import Stencil.Proofs.Template.Feeds
import Stencil.Proofs.Template.Placement
import Stencil.Proofs.Template.Places
import Stencil.Proofs.Template.Precedence
/-!
# Where an expansion puts its copies

A `data-is` with matches `m₁ … mₙ` puts a copy of its element before the element's placeholder for
each match, in order. Once every copy's renderer chain has run, finishing the expansion replaces
the copies, in the element's old place, by their blocks: a copy whose chain stopped stays as it
is; a copy whose value is an empty list is taken out; a copy whose value is a list of `k` items
becomes `k` copies, the first of them the copy itself; any other copy stays. The element and its
placeholder are taken out, and the children of every copy whose chain did not stop are queued in
order, each in the scope of its item, until the engine fails on the `data-apply` of one of them:
the task fails there, and that copy and those after it keep their directives, with nothing queued.
-/

namespace Stencil.Template

open Stencil.Markup Stencil.Select Forest

/-! ## Preparing one copy -/

section Preparing

variable {f : Forest}

theorem kind_modify_of_ne {n y : NodeId} {g : Node → Node} (hy : y ≠ n) :
    (f.modify n g).kind y = f.kind y := by
  simp only [Forest.kind, get_modify_of_ne _ hy]

theorem sameLinks_stripDirectives (f : Forest) (e : NodeId) : SameLinks f (stripDirectives f e) := by
  unfold stripDirectives
  split
  · exact SameLinks.refl f
  · dsimp only
    refine List.foldlRecOn (motive := fun g => SameLinks f g) _ _ ?_ ?_
    · refine List.foldlRecOn (motive := fun g => SameLinks f g) _ _ (SameLinks.refl f) ?_
      intro g hg _ _
      split
      · exact hg.trans (sameLinks_removeAttr e _)
      · exact hg
    · intro g hg _ _
      split
      · exact (hg.trans (sameLinks_removeAttr e _)).trans (sameLinks_setAttr e _ _)
      · exact hg

theorem kind_stripDirectives_of_ne {e y : NodeId} (hy : y ≠ e) :
    (stripDirectives f e).kind y = f.kind y := by
  unfold stripDirectives
  split
  · rfl
  · dsimp only
    refine List.foldlRecOn (motive := fun g : Forest => g.kind y = f.kind y) _ _ ?_ ?_
    · refine List.foldlRecOn (motive := fun g : Forest => g.kind y = f.kind y) _ _ rfl ?_
      intro g hg _ _
      split
      · rw [Forest.removeAttr, kind_modify_of_ne hy, hg]
      · exact hg
    · intro g hg _ _
      split
      · rw [Forest.setAttr, kind_modify_of_ne hy, Forest.removeAttr, kind_modify_of_ne hy, hg]
      · exact hg

theorem edited_applyTemplates (hf : f.WellFormed) {c : NodeId} (hc : c.index < f.nodes.size)
    {pristine : NodeId} {res : Nat × Forest × List Problem}
    (hres : applyTemplates f c pristine = .ok res) :
    res.2.1.WellFormed ∧ f.nodes.size ≤ res.2.1.nodes.size ∧
      ∃ L, (∀ y ∈ L, f.nodes.size ≤ y.index) ∧
        f.Edited res.2.1 f.parent? (Function.update f.children c (f.children c ++ L)) := by
  have hstart : f.WellFormed ∧ f.nodes.size ≤ f.nodes.size ∧
      ∃ L, (∀ y ∈ L, f.nodes.size ≤ y.index) ∧
        f.Edited f f.parent? (Function.update f.children c (f.children c ++ L)) :=
    ⟨hf, le_refl _, [], by simp, by rw [List.append_nil, Function.update_eq_self]; exact Edited.refl f⟩
  rcases applyTemplates_ok hres with ⟨hg, -⟩ | ⟨found, rfl⟩
  · rw [hg]
    exact hstart
  refine appendCopies_induction (P := fun g : Forest => g.WellFormed ∧ f.nodes.size ≤ g.nodes.size ∧
      ∃ L, (∀ y ∈ L, f.nodes.size ≤ y.index) ∧
        f.Edited g f.parent? (Function.update f.children c (f.children c ++ L))) c found hstart ?_
  rintro g n ⟨hg, hgs, L, hL, hed⟩ -
  rcases hcopy : g.copyTree n with ⟨cc, g'⟩
  have hcp := hg.copied_copyTree hcopy
  have hgg : f.nodes.size ≤ g'.nodes.size := hgs.trans hcp.ext.1
  have hccv : g.nodes.size ≤ cc.index := by rw [hcp.index]
  obtain ⟨hw, hws, hed'⟩ := edited_appendChild hcp.wf hcp.parent hcp.lt
    (lt_of_lt_of_le (lt_of_lt_of_le hc hgs) hccv)
  have hext := hcp.ext.edited
  refine ⟨hw, by rw [hws]; exact hgg, L ++ [cc], ?_,
    (hed.comp hgs hext (fun _ _ => rfl) (fun _ _ => rfl)).comp hgg hed'
      (fun x hx => ?_) (fun x hx => ?_)⟩
  · intro y hy
    rcases List.mem_append.mp hy with hy | hy
    · exact hL y hy
    · rw [List.mem_singleton.mp hy]
      exact hgs.trans hccv
  · have hxc : x ≠ cc := fun h => by rw [h] at hx; omega
    rw [Function.update_apply, if_neg hxc, hext.parent x (by omega), hed.parent x hx]
  · rw [Function.update_apply, Function.update_apply]
    split
    · rename_i hxe
      rw [hext.children c (by omega), hed.children c hc, Function.update_apply,
        if_pos rfl, List.append_assoc]
    · rw [hext.children x (by omega), hed.children x hx, Function.update_apply,
        if_neg ‹_›]

/-- From `f` to `g` the element `c` gets the new children `L` after its own and may change its
attributes; every node of `f` keeps its parent, and every other node its kind and its children. -/
structure Prepared (f g : Forest) (c : NodeId) (L : List NodeId) : Prop where
  wf : g.WellFormed
  grows : f.nodes.size ≤ g.nodes.size
  fresh : ∀ y ∈ L, f.nodes.size ≤ y.index
  parent : ∀ y : NodeId, y.index < f.nodes.size → g.parent? y = f.parent? y
  children : ∀ y : NodeId, y.index < f.nodes.size →
    g.children y = if y = c then f.children c ++ L else f.children y
  kind : ∀ y : NodeId, y.index < f.nodes.size → y ≠ c → g.kind y = f.kind y
  element : g.isElement c = true

theorem prepared_prepare (s : Session) (hf : s.forest.WellFormed) {c : NodeId}
    (hc : s.forest.isElement c = true) {t : Session} (hp : s.prepare c = .ok t) :
    ∃ L, Prepared s.forest t.forest c L := by
  have hcv := index_lt_of_isElement hc
  unfold Session.prepare at hp
  rw [if_pos hc] at hp
  rcases ha : applyTemplates s.forest c s.pristine with err | ⟨k, g, ps⟩
  · rw [ha] at hp
    cases hp
  rw [ha] at hp
  cases hp
  obtain ⟨hw, hgs, L, hL, hed⟩ := edited_applyTemplates hf hcv ha
  dsimp only at hw hgs hed
  have hl := sameLinks_stripDirectives g c
  have hkeep := keepsPlaces_stripDirectives (KeepsPlaces.refl g) c
  refine ⟨L, hl.wellFormed hw, by rw [hl.size]; exact hgs, hL, fun y hy => ?_, fun y hy => ?_,
    fun y hy hyc => ?_, ?_⟩
  · rw [hl.parent, hed.parent y hy]
  · rw [hl.children, hed.children y hy, Function.update_apply]
  · rw [kind_stripDirectives_of_ne hyc, hed.kind y hy]
  · have hkc : g.kind c = s.forest.kind c := hed.kind c hcv
    rw [hkeep.element c (lt_of_lt_of_le hcv hgs)]
    simp only [isElement, hkc] at hc ⊢
    exact hc

end Preparing

/-! ## Copies after a reference -/

section Copies

theorem cloneAfter_places (s : Session) (hf : s.forest.WellFormed) {P r : NodeId}
    {A B : List NodeId} (hP : s.forest.children P = A ++ r :: B) (hrA : r ∉ A) (e : NodeId) :
    ∃ c, (s.cloneAfter e r).1 = some c ∧ (s.cloneAfter e r).2.forest.WellFormed ∧
      s.forest.nodes.size ≤ c.index ∧
      s.forest.Edited (s.cloneAfter e r).2.forest s.forest.parent?
        (Function.update s.forest.children P (A ++ r :: c :: B)) ∧
      (s.cloneAfter e r).2.forest.kind c = s.forest.kind e ∧
      (s.cloneAfter e r).2.forest.parent? c = some P ∧
      (∀ y, (s.cloneAfter e r).2.table.isTemplate y = true ↔ s.table.isTemplate y = true ∨ y = e) ∧
      (s.cloneAfter e r).2.table.placeholders = s.table.placeholders ∧
      (s.cloneAfter e r).2.scopes.frames = s.scopes.frames ∧
      (s.cloneAfter e r).2.queue = s.queue := by
  have hr : s.forest.parent? r = some P := hf.linked P r (by rw [hP]; simp)
  have hrB : r ∉ B := (List.nodup_cons.mp (List.nodup_append.mp (hP ▸ hf.nodup P)).2.1).1
  obtain ⟨ha, hw⟩ := NodeTable.answers_cloneAfter hf s.table e r
  unfold Session.cloneAfter
  rcases hcl : s.table.cloneAfter s.forest e r with ⟨o, t', f'⟩
  rw [hcl] at ha hw
  cases ha with
  | cloneAfter hr' hl hcopy hed hcq hm =>
    obtain rfl : _ = P := Option.some.inj (hr'.symm.trans hr)
    obtain ⟨rfl, -, rfl⟩ := (List.append_cons_inj_of_notMem hrA hrB).mp (hP.symm.trans hl)
    exact ⟨_, rfl, hw, hcopy.fresh, hed, hcopy.kind_eq, hcq, hm.templates, hm.placeholders, rfl, rfl⟩
  | cloneAfterDetached hr' =>
    rw [hr] at hr'
    cases hr'

/-- The scopes the items of a copy are queued in: the copy's own scope with the `pass` option,
and otherwise new scopes, numbered on from `base`. -/
def itemScopes (pass : Bool) (scope base n : Nat) : List Nat :=
  if pass then List.replicate n scope else List.range' base n

def itemFrame (scope : Nat) (context : Location) : Frame := ⟨context, some scope, [], []⟩

@[simp] theorem length_itemScopes (pass : Bool) (scope base n : Nat) :
    (itemScopes pass scope base n).length = n := by
  unfold itemScopes
  split <;> simp

theorem itemScopes_succ (pass : Bool) (scope base n : Nat) :
    itemScopes pass scope base (n + 1) =
      (if pass then scope else base) :: itemScopes pass scope (if pass then base else base + 1) n := by
  unfold itemScopes
  cases pass <;> simp [List.replicate_succ, List.range'_succ]

theorem go_places (e : NodeId) (scope : Nat) (options : List String) (m : Location)
    (same isList : Bool) {P : NodeId} {B : List NodeId} :
    ∀ (items : List Value) (index : Nat) (target : NodeId) (s : Session)
      (acc : List (NodeId × Nat)) (A : List NodeId),
      s.forest.WellFormed → s.forest.children P = A ++ target :: B → target ∉ A → index ≠ 0 →
      s.table.isTemplate e = true → e.index < s.forest.nodes.size →
      let r := Session.continueClone.go e scope options m same isList items index target s acc
      ∃ fresh : List NodeId, fresh.length = items.length ∧
        (∀ y ∈ fresh, s.forest.nodes.size ≤ y.index) ∧
        r.2.forest.WellFormed ∧ s.forest.nodes.size ≤ r.2.forest.nodes.size ∧
        s.forest.Edited r.2.forest s.forest.parent?
          (Function.update s.forest.children P (A ++ target :: fresh ++ B)) ∧
        (∀ y ∈ fresh, r.2.forest.kind y = s.forest.kind e) ∧
        r.1 = acc.reverse ++ fresh.zip
          (itemScopes (options.contains "pass") scope s.scopes.frames.size items.length) ∧
        r.2.scopes.frames.toList = s.scopes.frames.toList ++
          (if options.contains "pass" then [] else
            items.map fun item => itemFrame scope (if !isList && same then m else m.withValue item)) ∧
        (∀ y, r.2.table.isTemplate y = s.table.isTemplate y) ∧
        r.2.table.placeholders = s.table.placeholders ∧ r.2.queue = s.queue
  | [], _, target, s, acc, A, hf, hP, _, _, _, _ => by
    refine ⟨[], rfl, by simp, hf, le_refl _, ?_, by simp, by simp [Session.continueClone.go], by
      simp [Session.continueClone.go], fun _ => rfl, rfl, rfl⟩
    simp only [Session.continueClone.go, List.append_assoc, List.singleton_append]
    rw [← hP, Function.update_eq_self]
    exact Edited.refl _
  | item :: rest, index, target, s, acc, A, hf, hP, htA, hidx, he, hev => by
    obtain ⟨c, hc, hw, hcv, hed, hkc, hcP, htmp, hpl, hfr, hq⟩ := cloneAfter_places s hf hP htA e
    have hAv : ∀ y ∈ A ++ [target], y.index < s.forest.nodes.size := fun y hy =>
      hf.index_lt_of_mem_children (by
        rw [hP]
        simp only [List.mem_append, List.mem_cons] at hy ⊢
        tauto)
    have hPv : P.index < s.forest.nodes.size := hf.parent_lt (hf.linked P target (by rw [hP]; simp))
    have hP' : (s.cloneAfter e target).2.forest.children P = (A ++ [target]) ++ c :: B := by
      rw [hed.children P hPv, Function.update_apply, if_pos rfl]
      simp
    have hcA : c ∉ A ++ [target] := fun h => by have := hAv c h; omega
    have htmp' : ∀ y, (s.cloneAfter e target).2.table.isTemplate y = s.table.isTemplate y := by
      intro y
      apply Bool.eq_iff_iff.mpr
      rw [htmp y]
      constructor
      · rintro (h | rfl)
        · exact h
        · exact he
      · exact Or.inl
    rw [Session.continueClone.go.eq_2, if_neg hidx]
    rcases hcl : s.cloneAfter e target with ⟨o, s'⟩
    rw [hcl] at hc hw hed hkc hP' htmp' hpl hfr hq hcP
    obtain rfl : o = some c := hc
    dsimp only at hw hed hkc hP' htmp' hpl hfr hq hcP
    have hsize : s.forest.nodes.size ≤ s'.forest.nodes.size :=
      le_of_lt (lt_of_le_of_lt hcv (index_lt_of_parent? hcP))
    -- the rest of the items go after the new copy `c`, whichever scope the item gets
    dsimp only
    generalize hp : options.contains "pass" = pass
    have hcont : ∀ (s₂ : Session) (k : Nat), s₂.forest = s'.forest → s₂.table = s'.table →
        s₂.queue = s'.queue → k = (if pass then scope else s.scopes.frames.size) →
        s₂.scopes.frames.toList = s.scopes.frames.toList ++
          (if pass then [] else [itemFrame scope (if !isList && same then m else m.withValue item)]) →
        let r₂ := Session.continueClone.go e scope options m same isList rest (index + 1) c s₂
          ((c, k) :: acc)
        ∃ fresh : List NodeId, fresh.length = (item :: rest).length ∧
          (∀ y ∈ fresh, s.forest.nodes.size ≤ y.index) ∧
          r₂.2.forest.WellFormed ∧ s.forest.nodes.size ≤ r₂.2.forest.nodes.size ∧
          s.forest.Edited r₂.2.forest s.forest.parent?
            (Function.update s.forest.children P (A ++ target :: fresh ++ B)) ∧
          (∀ y ∈ fresh, r₂.2.forest.kind y = s.forest.kind e) ∧
          r₂.1 = acc.reverse ++ fresh.zip
            (itemScopes pass scope s.scopes.frames.size (item :: rest).length) ∧
          r₂.2.scopes.frames.toList = s.scopes.frames.toList ++
            (if pass then [] else
              (item :: rest).map fun item =>
                itemFrame scope (if !isList && same then m else m.withValue item)) ∧
          (∀ y, r₂.2.table.isTemplate y = s.table.isTemplate y) ∧
          r₂.2.table.placeholders = s.table.placeholders ∧ r₂.2.queue = s.queue := by
      intro s₂ k hf₂ ht₂ hq₂ hk hfr₂ r₂
      have he₂ : s₂.table.isTemplate e = true := by rw [ht₂, htmp']; exact he
      have hev₂ : e.index < s₂.forest.nodes.size := by rw [hf₂]; omega
      obtain ⟨fresh, hlen, hfresh, hw', hs', hed', hk', hr', hfr', ht', hpl', hq'⟩ :=
        go_places e scope options m same isList rest (index + 1) c s₂ ((c, k) :: acc) (A ++ [target])
          (hf₂ ▸ hw) (by rw [hf₂, hP']) hcA (Nat.succ_ne_zero _) he₂ hev₂
      rw [hf₂] at hfresh hs' hed' hk'
      rw [hp] at hr' hfr'
      have hframes : s₂.scopes.frames.size =
          (if pass then s.scopes.frames.size else s.scopes.frames.size + 1) := by
        rw [← Array.length_toList, hfr₂]
        split <;> simp
      refine ⟨c :: fresh, by simp [hlen], ?_, hw', le_trans hsize hs', hed.comp hsize hed'
        (fun x hx => ?_) (fun x hx => ?_), ?_, ?_, ?_, fun y => by rw [ht' y, ht₂, htmp' y],
        by rw [hpl', ht₂, hpl], by rw [hq', hq₂, hq]⟩
      · intro y hy
        rcases List.mem_cons.mp hy with rfl | hy
        · exact hcv
        · exact le_trans hsize (hfresh y hy)
      · rw [hed.parent x hx]
      · simp only [Function.update_apply]
        split
        · simp
        · rw [hed.children x hx, Function.update_apply, if_neg ‹_›]
      · intro y hy
        rcases List.mem_cons.mp hy with rfl | hy
        · rw [hed'.kind y (index_lt_of_parent? hcP), hkc]
        · rw [hk' y hy, hed.kind e hev]
      · rw [hr', List.length_cons, itemScopes_succ, hframes, hk]
        cases pass <;> simp
      · rw [hfr', hfr₂]
        cases pass <;> simp
    cases pass
    · exact hcont { s' with scopes := (s'.scopes.child scope
          (if (!isList && same) = true then m else m.withValue item)).2 } s'.scopes.frames.size
        rfl rfl rfl (by rw [if_neg (by decide), hfr]) (by
          simp only [Bool.false_eq_true, if_false, Scopes.child, Array.toList_push, hfr, itemFrame])
    · exact hcont s' scope rfl rfl rfl (by rw [if_pos rfl]) (by simp [hfr])

theorem go_zero (e : NodeId) (scope : Nat) (options : List String) (m : Location)
    (same isList : Bool) (item : Value) (rest : List Value) (c : NodeId) (s : Session) :
    Session.continueClone.go e scope options m same isList (item :: rest) 0 c s [] =
      Session.continueClone.go e scope options m same isList rest 1 c
        (if options.contains "pass" then s else
          { s with scopes := (s.scopes.child scope
            (if !isList && same then m else m.withValue item)).2 })
        [(c, if options.contains "pass" then scope else s.scopes.frames.size)] := by
  rw [Session.continueClone.go.eq_2, if_pos rfl]
  dsimp only
  split <;> rfl

end Copies

/-! ## The copies of a match set -/

section Cloning

theorem cloneElement_first (s : Session) (hf : s.forest.WellFormed) {e P : NodeId}
    {A B : List NodeId} (hpl : s.table.placeholder? e = none)
    (hP : s.forest.children P = A ++ e :: B) (heA : e ∉ A) :
    ∃ c ph, (s.cloneElement e).1 = some c ∧ (s.cloneElement e).2.forest.WellFormed ∧
      s.forest.nodes.size ≤ c.index ∧ s.forest.nodes.size ≤ ph.index ∧
      s.forest.Edited (s.cloneElement e).2.forest (Function.update s.forest.parent? e none)
        (Function.update s.forest.children P (A ++ c :: ph :: B)) ∧
      (s.cloneElement e).2.forest.kind c = s.forest.kind e ∧
      (∀ y, (s.cloneElement e).2.table.isTemplate y = true ↔
        s.table.isTemplate y = true ∨ y = e) ∧
      (s.cloneElement e).2.table.placeholders = s.table.placeholders ++ [(e, ph)] ∧
      (s.cloneElement e).2.expansions = s.expansions := by
  have heP : s.forest.parent? e = some P := hf.linked P e (by rw [hP]; simp)
  have heB : e ∉ B := (List.nodup_cons.mp (List.nodup_append.mp (hP ▸ hf.nodup P)).2.1).1
  obtain ⟨ha, hw⟩ := NodeTable.answers_clone hf s.table e
  unfold Session.cloneElement
  rcases hcl : s.table.clone s.forest e with ⟨o, t', f'⟩
  rw [hcl] at ha hw
  cases ha with
  | cloneFirst _ hq hl hph hcopy hed _ _ hm =>
    obtain rfl : _ = P := Option.some.inj (hq.symm.trans heP)
    obtain ⟨rfl, -, rfl⟩ := (List.append_cons_inj_of_notMem heA heB).mp (hP.symm.trans hl)
    exact ⟨_, _, rfl, hw, hcopy.fresh, hph.fresh, hed, hcopy.kind_eq, hm.templates,
      hm.placeholders, rfl⟩
  | cloneAgain hpl' =>
    rw [hpl] at hpl'
    cases hpl'
  | cloneDetached _ hq =>
    rw [heP] at hq
    cases hq
  | clonePlaceholderDetached hpl' =>
    rw [hpl] at hpl'
    cases hpl'

theorem cloneElement_again (s : Session) (hf : s.forest.WellFormed) {e ph P : NodeId}
    {A B : List NodeId} (hph : s.table.placeholder? e = some ph)
    (hP : s.forest.children P = A ++ ph :: B) (hphA : ph ∉ A) :
    ∃ c, (s.cloneElement e).1 = some c ∧ (s.cloneElement e).2.forest.WellFormed ∧
      s.forest.nodes.size ≤ c.index ∧
      s.forest.Edited (s.cloneElement e).2.forest s.forest.parent?
        (Function.update s.forest.children P (A ++ c :: ph :: B)) ∧
      (s.cloneElement e).2.forest.kind c = s.forest.kind e ∧
      (∀ y, (s.cloneElement e).2.table.isTemplate y = true ↔
        s.table.isTemplate y = true ∨ y = e) ∧
      (s.cloneElement e).2.table.placeholders = s.table.placeholders ∧
      (s.cloneElement e).2.expansions = s.expansions := by
  have hphP : s.forest.parent? ph = some P := hf.linked P ph (by rw [hP]; simp)
  have hphB : ph ∉ B := (List.nodup_cons.mp (List.nodup_append.mp (hP ▸ hf.nodup P)).2.1).1
  obtain ⟨ha, hw⟩ := NodeTable.answers_clone hf s.table e
  unfold Session.cloneElement
  rcases hcl : s.table.clone s.forest e with ⟨o, t', f'⟩
  rw [hcl] at ha hw
  cases ha with
  | cloneFirst hpl' =>
    rw [hph] at hpl'
    cases hpl'
  | cloneAgain hpl' hq hl hcopy hed _ hm =>
    obtain rfl : _ = ph := Option.some.inj (hpl'.symm.trans hph)
    obtain rfl : _ = P := Option.some.inj (hq.symm.trans hphP)
    obtain ⟨rfl, -, rfl⟩ := (List.append_cons_inj_of_notMem hphA hphB).mp (hP.symm.trans hl)
    exact ⟨_, rfl, hw, hcopy.fresh, hed, hcopy.kind_eq, hm.templates, hm.placeholders, rfl⟩
  | cloneDetached hpl' =>
    rw [hph] at hpl'
    cases hpl'
  | clonePlaceholderDetached hpl' hq =>
    obtain rfl : _ = ph := Option.some.inj (hpl'.symm.trans hph)
    rw [hphP] at hq
    cases hq

def cloneStep (e : NodeId) (acc : List (NodeId × Location) × Session) (m : Location) :
    List (NodeId × Location) × Session :=
  match acc.2.cloneElement e with
  | (some c, s) => (acc.1 ++ [(c, m)], s)
  | (none, s) => (acc.1, s)

theorem cloneAll_eq (s : Session) (e : NodeId) (r : ResultSet) :
    s.cloneAll e r = r.found.foldl (cloneStep e) ([], s) := rfl

theorem foldl_cloneStep_again (e : NodeId) {P ph : NodeId} {B : List NodeId} :
    ∀ (ms : List Location) (acc : List (NodeId × Location)) (s : Session) (A : List NodeId),
      s.forest.WellFormed → s.table.placeholder? e = some ph → s.table.isTemplate e = true →
      e.index < s.forest.nodes.size → s.forest.children P = A ++ ph :: B → ph ∉ A →
      let r := ms.foldl (cloneStep e) (acc, s)
      ∃ cs : List NodeId, r.1 = acc ++ cs.zip ms ∧ cs.length = ms.length ∧
        (∀ c ∈ cs, s.forest.nodes.size ≤ c.index ∧ r.2.forest.kind c = s.forest.kind e) ∧
        r.2.forest.WellFormed ∧ s.forest.nodes.size ≤ r.2.forest.nodes.size ∧
        r.2.forest.children P = A ++ cs ++ ph :: B ∧
        (∀ y : NodeId, y.index < s.forest.nodes.size →
          r.2.forest.kind y = s.forest.kind y ∧ r.2.forest.parent? y = s.forest.parent? y) ∧
        (∀ y, r.2.table.isTemplate y = s.table.isTemplate y) ∧
        r.2.table.placeholders = s.table.placeholders ∧ r.2.expansions = s.expansions
  | [], acc, s, A, hf, _, _, _, hP, _ => by
    refine ⟨[], by simp, rfl, by simp, hf, le_refl _, by simpa using hP, fun _ _ => ⟨rfl, rfl⟩,
      fun _ => rfl, rfl, rfl⟩
  | m :: ms, acc, s, A, hf, hph, he, hev, hP, hphA => by
    obtain ⟨c, hc, hw, hcv, hed, hkc, htmp, hpls, hex⟩ := cloneElement_again s hf hph hP hphA
    have hPv : P.index < s.forest.nodes.size :=
      hf.parent_lt (hf.linked P ph (by rw [hP]; simp))
    have hcs : s.forest.nodes.size ≤ (s.cloneElement e).2.forest.nodes.size :=
      le_of_lt (lt_of_le_of_lt hcv (hw.index_lt_of_mem_children (show c ∈ _ by
        rw [hed.children P hPv, Function.update_apply, if_pos rfl]; simp)))
    have htmp' : ∀ y, (s.cloneElement e).2.table.isTemplate y = s.table.isTemplate y := by
      intro y
      apply Bool.eq_iff_iff.mpr
      rw [htmp y]
      exact ⟨fun h => h.elim id fun h => h ▸ he, Or.inl⟩
    have hr : (m :: ms).foldl (cloneStep e) (acc, s) =
        ms.foldl (cloneStep e) (acc ++ [(c, m)], (s.cloneElement e).2) := by
      rw [List.foldl_cons]
      unfold cloneStep
      rw [show s.cloneElement e = (some c, (s.cloneElement e).2) from Prod.ext hc rfl]
    have hcA : ph ∉ A ++ [c] := fun h => by
      rcases List.mem_append.mp h with h | h
      · exact hphA h
      · have := hf.index_lt_of_mem_children (show ph ∈ s.forest.children P by rw [hP]; simp)
        rw [List.mem_singleton.mp h] at this
        omega
    obtain ⟨cs, hr1, hlen, hcs', hw', hgrow', hP', hold', htmp'', hpls', hex'⟩ :=
      @foldl_cloneStep_again e P ph B ms (acc ++ [(c, m)]) (s.cloneElement e).2 (A ++ [c]) hw
        (by simp only [NodeTable.placeholder?, hpls]; exact hph) (by rw [htmp']; exact he)
        (lt_of_lt_of_le hev hcs)
        (by rw [hed.children P hPv, Function.update_apply, if_pos rfl]; simp) hcA
    intro r
    rw [show r = _ from hr]
    refine ⟨c :: cs, by rw [hr1]; simp, by simp [hlen], fun y hy => ?_, hw', le_trans hcs hgrow',
      by rw [hP']; simp, fun y hy => ?_, fun y => by rw [htmp'' y, htmp' y],
      by rw [hpls', hpls], by rw [hex', hex]⟩
    · rcases List.mem_cons.mp hy with rfl | hy
      · refine ⟨hcv, ?_⟩
        rw [(hold' y (hw.index_lt_of_mem_children (show y ∈ _ by
          rw [hed.children P hPv, Function.update_apply, if_pos rfl]; simp))).1, hkc]
      · obtain ⟨h1, h2⟩ := hcs' y hy
        exact ⟨le_trans hcs h1, by rw [h2, hed.kind e hev]⟩
    · obtain ⟨h1, h2⟩ := hold' y (lt_of_lt_of_le hy hcs)
      exact ⟨by rw [h1, hed.kind y hy], by rw [h2, hed.parent y hy]⟩

end Cloning

/-! ## One rendered copy -/

section Rendered

/-- The value a rendered copy stands for, and whether it is the match's own value: the chain's
value when it gave one, else the match's. -/
def valueFor (step : RenderStep) (m : Location) : Value × Bool :=
  match step.value with
  | some v => (v, step.sameAsInput)
  | none => (m.value, true)

def itemsOf : Value → List Value
  | .list xs => xs
  | v => [v]

def isListValue : Value → Bool
  | .list _ => true
  | _ => false

theorem itemsOf_of_ne {v : Value} (h : ∀ xs, v = .list xs → False) : itemsOf v = [v] := by
  cases v <;> first | rfl | exact absurd rfl (h _)

theorem isListValue_of_ne {v : Value} (h : ∀ xs, v = .list xs → False) :
    isListValue v = false := by
  cases v <;> first | rfl | exact absurd rfl (h _)

theorem continueClone_eq (e : NodeId) (scope : Nat) (options : List String) (s : Session)
    (c : NodeId) (m : Location) (step : RenderStep) (hs : step.outcome ≠ .stop) :
    Session.continueClone e scope options s c m step =
      if (itemsOf (valueFor step m).1).isEmpty then ([], s.remove c)
      else Session.continueClone.go e scope options m (valueFor step m).2
        (isListValue (valueFor step m).1) (itemsOf (valueFor step m).1) 0 c s [] := by
  unfold Session.continueClone
  rw [if_neg hs]
  rcases hsv : step.value with _ | w <;> dsimp only <;> simp only [valueFor, hsv] <;> split
  · rename_i xs h
    rw [h]
    rfl
  · rename_i h
    rw [itemsOf_of_ne h, isListValue_of_ne h]
  · rfl
  · rename_i h
    rw [itemsOf_of_ne h, isListValue_of_ne h]

/-- The context of the scope made for one item of a copy rendered for `m`: the match itself when
the copy stands for the match's own single value, else the match with the item as its value. -/
def itemContext (m : Location) (value : Value) (same : Bool) (item : Value) : Location :=
  if !isListValue value && same then m else m.withValue item

def blockSize (m : Location) (step : RenderStep) : Nat :=
  if step.outcome = .stop then 1 else (itemsOf (valueFor step m).1).length

/-- The nodes a copy `c` rendered for `m` turns into, each with the scope its children are queued
in (`none` when its chain stopped), and the scopes made for its items, numbered on from `base`;
`fresh` are the copies made for the items after the first. -/
def block (scope : Nat) (options : List String) (base : Nat) (c : NodeId) (m : Location)
    (step : RenderStep) (fresh : List NodeId) : List (NodeId × Option Nat) × List Frame :=
  if step.outcome = .stop then ([(c, none)], [])
  else
    let (value, same) := valueFor step m
    let items := itemsOf value
    ((c :: fresh).zip ((itemScopes (options.contains "pass") scope base items.length).map some),
      if options.contains "pass" then [] else
        items.map fun item => itemFrame scope (itemContext m value same item))

def scheduled (b : List (NodeId × Option Nat)) : List (NodeId × Nat) :=
  b.filterMap fun (n, k) => k.map (n, ·)

@[simp] theorem scheduled_zip_some : ∀ (l : List NodeId) (ks : List Nat),
    scheduled (l.zip (ks.map some)) = l.zip ks
  | [], _ => rfl
  | _ :: _, [] => rfl
  | _ :: l, _ :: ks => by
    simp only [List.map_cons, List.zip_cons_cons, scheduled, List.filterMap_cons, Option.map_some]
    exact congrArg _ (scheduled_zip_some l ks)

@[simp] theorem scheduled_nil : scheduled [] = [] := rfl

@[simp] theorem scheduled_cons_none (n : NodeId) (b : List (NodeId × Option Nat)) :
    scheduled ((n, none) :: b) = scheduled b := rfl

@[simp] theorem scheduled_cons_some (n : NodeId) (k : Nat) (b : List (NodeId × Option Nat)) :
    scheduled ((n, some k) :: b) = (n, k) :: scheduled b := rfl

@[simp] theorem scheduled_append (b b' : List (NodeId × Option Nat)) :
    scheduled (b ++ b') = scheduled b ++ scheduled b' :=
  List.filterMap_append

theorem block_nodes {scope : Nat} {options : List String} {base : Nat} {c : NodeId}
    {m : Location} {step : RenderStep} {fresh : List NodeId}
    (hlen : fresh.length = blockSize m step - 1) :
    (block scope options base c m step fresh).1.map Prod.fst =
      if blockSize m step = 0 then [] else c :: fresh := by
  unfold block
  unfold blockSize at hlen ⊢
  by_cases hs : step.outcome = .stop
  · rw [if_pos hs] at hlen
    rw [if_pos hs, if_pos hs, List.eq_nil_of_length_eq_zero hlen]
    rfl
  · rw [if_neg hs] at hlen
    rw [if_neg hs, if_neg hs]
    generalize valueFor step m = vs at hlen ⊢
    obtain ⟨value, same⟩ := vs
    dsimp only at hlen ⊢
    split
    · rename_i h0
      rw [h0] at hlen
      rw [List.eq_nil_of_length_eq_zero hlen, h0]
      simp [itemScopes]
    · exact List.map_fst_zip (by simp; omega)

theorem mem_block_of_mem_fresh {scope : Nat} {options : List String} {base : Nat} {c y : NodeId}
    {m : Location} {step : RenderStep} {fresh : List NodeId}
    (hlen : fresh.length = blockSize m step - 1) (hy : y ∈ fresh) :
    y ∈ (block scope options base c m step fresh).1.map Prod.fst := by
  rw [block_nodes hlen]
  split
  · rename_i h0
    rw [h0] at hlen
    rw [List.eq_nil_of_length_eq_zero hlen] at hy
    simp at hy
  · exact List.mem_cons_of_mem _ hy

theorem mem_block {scope : Nat} {options : List String} {base : Nat} {c n : NodeId}
    {m : Location} {step : RenderStep} {fresh : List NodeId} {o : Option Nat}
    (h : (n, o) ∈ (block scope options base c m step fresh).1) :
    (n = c ∧ (o.isSome → step.outcome ≠ .stop)) ∨ n ∈ fresh := by
  unfold block at h
  split at h
  · simp only [List.mem_singleton, Prod.mk.injEq] at h
    obtain ⟨rfl, rfl⟩ := h
    exact Or.inl ⟨rfl, by simp⟩
  · rename_i hs
    have hn := List.of_mem_zip h
    rcases List.mem_cons.mp hn.1 with rfl | hn
    · exact Or.inl ⟨rfl, fun _ => hs⟩
    · exact Or.inr hn

theorem continueClone_places (e : NodeId) (scope : Nat) (options : List String) (s : Session)
    (hf : s.forest.WellFormed) {P c : NodeId} {A B : List NodeId}
    (hP : s.forest.children P = A ++ c :: B) (hcA : c ∉ A) (hpc : s.table.placeholder? c = none)
    (he : s.table.isTemplate e = true) (hev : e.index < s.forest.nodes.size)
    (m : Location) (step : RenderStep) :
    let r := Session.continueClone e scope options s c m step
    ∃ fresh : List NodeId, fresh.length = blockSize m step - 1 ∧
      (∀ y ∈ fresh, s.forest.nodes.size ≤ y.index ∧ r.2.forest.kind y = s.forest.kind e) ∧
      let b := block scope options s.scopes.frames.size c m step fresh
      r.1 = scheduled b.1 ∧ r.2.forest.WellFormed ∧
      s.forest.nodes.size ≤ r.2.forest.nodes.size ∧
      r.2.forest.children P = A ++ b.1.map Prod.fst ++ B ∧
      r.2.scopes.frames.toList = s.scopes.frames.toList ++ b.2 ∧
      (∀ y : NodeId, y.index < s.forest.nodes.size → (y ≠ c ∨ step.outcome ≠ .stop) →
        r.2.forest.kind y = s.forest.kind y) ∧
      (∀ y : NodeId, y.index < s.forest.nodes.size → y ≠ c →
        r.2.forest.parent? y = s.forest.parent? y) ∧
      (∀ y : NodeId, y.index < s.forest.nodes.size → y ≠ P →
        r.2.forest.children y = s.forest.children y) ∧
      (∀ y, r.2.table.isTemplate y = s.table.isTemplate y) ∧
      r.2.table.placeholders = s.table.placeholders ∧ r.2.queue = s.queue := by
  intro r
  have hcB : c ∉ B := (List.nodup_cons.mp (List.nodup_append.mp (hP ▸ hf.nodup P)).2.1).1
  by_cases hs : step.outcome = .stop
  · -- a stopped copy stays, without its directives
    have hr : r = ([], { s with forest := stripDirectives s.forest c }) := by
      simp only [r, Session.continueClone, if_pos hs]
    have hl := sameLinks_stripDirectives s.forest c
    refine ⟨[], by simp [blockSize, hs], by simp, ?_⟩
    rw [hr]
    unfold block
    rw [if_pos hs]
    refine ⟨rfl, hl.wellFormed hf, hl.size.ge, by rw [hl.children, hP]; simp, by simp,
      fun y _ hy => ?_, fun y _ _ => hl.parent y, fun y _ _ => hl.children y, fun _ => rfl, rfl,
      rfl⟩
    exact kind_stripDirectives_of_ne (hy.resolve_right (not_not.mpr hs))
  have hr := continueClone_eq e scope options s c m step hs
  have hsize : blockSize m step = (itemsOf (valueFor step m).1).length := if_neg hs
  have hb : ∀ fresh, block scope options s.scopes.frames.size c m step fresh =
      ((c :: fresh).zip ((itemScopes (options.contains "pass") scope s.scopes.frames.size
        (itemsOf (valueFor step m).1).length).map some),
      if options.contains "pass" then [] else (itemsOf (valueFor step m).1).map fun item =>
        itemFrame scope (itemContext m (valueFor step m).1 (valueFor step m).2 item)) :=
    fun _ => if_neg hs
  change r = _ at hr
  clear_value r
  generalize valueFor step m = vs at hr hsize hb
  obtain ⟨value, same⟩ := vs
  dsimp only at hr hsize hb
  have hcP : s.forest.parent? c = some P := hf.linked P c (by rw [hP]; simp)
  rcases hitems : itemsOf value with _ | ⟨item, rest⟩
  · -- no items: the copy is taken out
    rw [hitems] at hr hsize hb
    obtain ⟨ha, hw⟩ := NodeTable.answers_remove hf s.table c
    rcases hrm : s.table.remove s.forest c with ⟨t', f'⟩
    rw [hrm] at ha hw
    cases ha with
    | removeWithPlaceholder hpl =>
      rw [hpc] at hpl
      cases hpl
    | removeAlone _ hed hsz =>
      have hr' : r = ([], Session.absorb { s with table := s.table, forest := f' }) := by
        rw [hr]
        simp only [List.isEmpty_nil, if_true, Session.remove, hrm]
      refine ⟨[], by rw [hsize]; rfl, by simp, ?_⟩
      rw [hb, hr']
      refine ⟨by simp [itemScopes, scheduled], hw, hsz.ge, ?_, by simp [Session.absorb],
        fun y hy _ => hed.kind y hy, fun y hy hyc => ?_,
        fun y hy hyP => ?_, fun _ => rfl, rfl, rfl⟩
      · -- the copy leaves its place; it stood nowhere else
        have hcA' : A.filter (fun y => decide (y ≠ c)) = A :=
          List.filter_eq_self.mpr fun y hy => decide_eq_true fun h => hcA (h ▸ hy)
        have hcB' : B.filter (fun y => decide (y ≠ c)) = B :=
          List.filter_eq_self.mpr fun y hy => decide_eq_true fun h => hcB (h ▸ hy)
        simp only [Session.absorb]
        rw [hed.children P (hf.parent_lt hcP), hP, List.filter_append, List.filter_cons, hcA', hcB']
        simp [itemScopes]
      · simp only [Session.absorb]
        rw [hed.parent y hy, Function.update_apply, if_neg hyc]
      · have hcy : c ∉ s.forest.children y := fun hm =>
          hyP (Option.some.inj ((hf.linked y c hm).symm.trans hcP))
        simp only [Session.absorb]
        rw [hed.children y hy]
        exact List.filter_eq_self.mpr fun z hz => decide_eq_true fun h => hcy (h ▸ hz)
  · -- the copy is the first of its run, the other items get fresh copies after it
    rw [hitems] at hr hsize hb
    rw [List.isEmpty_cons, if_neg Bool.false_ne_true, go_zero] at hr
    generalize hp : options.contains "pass" = pass at hr hb
    set ctx := if (!isListValue value && same) = true then m else m.withValue item
    set s' : Session := if pass then s else { s with scopes := (s.scopes.child scope ctx).2 }
    have hs' : s'.forest = s.forest ∧ s'.table = s.table ∧ s'.queue = s.queue ∧
        s'.scopes.frames.toList =
          s.scopes.frames.toList ++ (if pass then [] else [itemFrame scope ctx]) := by
      cases pass <;> simp [s', Scopes.child, itemFrame]
    obtain ⟨hf', ht', hq', hfr'⟩ := hs'
    have hsize' : s'.scopes.frames.size =
        if pass then s.scopes.frames.size else s.scopes.frames.size + 1 := by
      rw [← Array.length_toList, hfr']
      split <;> simp
    obtain ⟨fresh, hlen, hfresh, hw, hgrow, hed, hkind, hr1, hfr, htmp, hpl, hq⟩ :=
      go_places e scope options m same (isListValue value) rest 1 c s'
        [(c, if pass then scope else s.scopes.frames.size)] A (hf' ▸ hf) (hf' ▸ hP) hcA
        one_ne_zero (ht' ▸ he) (hf' ▸ hev)
    rw [← hr] at hr1 hfr hw hgrow hed hkind htmp hpl hq
    rw [hp] at hr1 hfr
    rw [hf'] at hfresh hgrow hed hkind
    refine ⟨fresh, by rw [hsize, hlen]; rfl, fun y hy => ⟨hfresh y hy, hkind y hy⟩, ?_⟩
    rw [hb]
    have hnodes : ((c :: fresh).zip ((itemScopes pass scope s.scopes.frames.size
        (item :: rest).length).map some)).map Prod.fst = c :: fresh :=
      List.map_fst_zip (by simp [hlen])
    refine ⟨?_, hw, hgrow, ?_, ?_, fun y hy _ => hed.kind y hy, fun y hy _ => hed.parent y hy,
      fun y hy hyP => ?_, fun y => by rw [htmp y, ht'], by rw [hpl, ht'], by rw [hq, hq']⟩
    · rw [scheduled_zip_some, List.length_cons, itemScopes_succ, hr1, hsize']
      cases pass <;> simp
    · rw [hnodes, hed.children P (hf.parent_lt hcP), Function.update_apply, if_pos rfl]
    · rw [hfr, hfr']
      cases pass <;> simp [ctx, itemContext]
    · rw [hed.children y hy, Function.update_apply, if_neg hyP]

/-- The blocks of an expansion's rendered copies, in order, and the scopes made for their items,
numbered on from `base`; `fresh` gives each copy its further copies. -/
def layout (scope : Nat) (options : List String) :
    Nat → List ((NodeId × Location) × RenderStep) → List (List NodeId) →
      List (NodeId × Option Nat) × List Frame
  | base, ((c, m), step) :: rest, fresh :: more =>
    let b := block scope options base c m step fresh
    let l := layout scope options (base + b.2.length) rest more
    (b.1 ++ l.1, b.2 ++ l.2)
  | _, _, _ => ([], [])

theorem mem_layout {scope : Nat} {options : List String} {n : NodeId} {o : Option Nat} :
    ∀ {base : Nat} {l : List ((NodeId × Location) × RenderStep)} {F : List (List NodeId)},
      (n, o) ∈ (layout scope options base l F).1 →
      (∃ x ∈ l, x.1.1 = n ∧ (o.isSome → x.2.outcome ≠ .stop)) ∨ ∃ ys ∈ F, n ∈ ys
  | _, [], _, h => by simp [layout] at h
  | _, _ :: _, [], h => by simp [layout] at h
  | base, ((c, m), step) :: l, fresh :: F, h => by
    rcases List.mem_append.mp h with h | h
    · rcases mem_block h with ⟨rfl, hs⟩ | h
      · exact Or.inl ⟨_, List.mem_cons_self .., rfl, hs⟩
      · exact Or.inr ⟨fresh, List.mem_cons_self .., h⟩
    · rcases mem_layout h with ⟨x, hx, h⟩ | ⟨ys, hys, h⟩
      · exact Or.inl ⟨x, List.mem_cons_of_mem _ hx, h⟩
      · exact Or.inr ⟨ys, List.mem_cons_of_mem _ hys, h⟩

def continueStep (e : NodeId) (scope : Nat) (options : List String)
    (acc : List (NodeId × Nat) × Session) (x : (NodeId × Location) × RenderStep) :
    List (NodeId × Nat) × Session :=
  let r := Session.continueClone e scope options acc.2 x.1.1 x.1.2 x.2
  (acc.1 ++ r.1, r.2)

theorem finishExpansion_eq (s : Session) (x : Expansion) :
    s.finishExpansion x =
      let r := (x.clones.zip x.steps.toList).foldl
        (continueStep x.element x.scope x.options) ([], s)
      r.2.schedule x.element r.1 := rfl

theorem foldl_continueStep_places (e : NodeId) (scope : Nat) (options : List String)
    {P : NodeId} {B : List NodeId} :
    ∀ (l : List ((NodeId × Location) × RenderStep)) (acc : List (NodeId × Nat)) (s : Session)
      (A : List NodeId),
      s.forest.WellFormed → s.forest.children P = A ++ l.map (·.1.1) ++ B →
      (∀ x ∈ l, s.table.placeholder? x.1.1 = none) →
      s.table.isTemplate e = true → e.index < s.forest.nodes.size → s.forest.parent? e = none →
      let r := l.foldl (continueStep e scope options) (acc, s)
      ∃ F : List (List NodeId),
        List.Forall₂ (fun x fresh => fresh.length = blockSize x.1.2 x.2 - 1) l F ∧
        (∀ ys ∈ F, ∀ y ∈ ys,
          s.forest.nodes.size ≤ y.index ∧ r.2.forest.kind y = s.forest.kind e) ∧
        let b := layout scope options s.scopes.frames.size l F
        r.1 = acc ++ scheduled b.1 ∧ r.2.forest.WellFormed ∧
        s.forest.nodes.size ≤ r.2.forest.nodes.size ∧
        r.2.forest.children P = A ++ b.1.map Prod.fst ++ B ∧
        r.2.scopes.frames.toList = s.scopes.frames.toList ++ b.2 ∧
        (∀ y : NodeId, y.index < s.forest.nodes.size →
          (∀ x ∈ l, x.1.1 = y → x.2.outcome ≠ .stop) → r.2.forest.kind y = s.forest.kind y) ∧
        (∀ y : NodeId, y.index < s.forest.nodes.size → y ∉ l.map (·.1.1) →
          r.2.forest.parent? y = s.forest.parent? y) ∧
        (∀ y : NodeId, y.index < s.forest.nodes.size → y ≠ P →
          r.2.forest.children y = s.forest.children y) ∧
        (∀ y, r.2.table.isTemplate y = s.table.isTemplate y) ∧
        r.2.table.placeholders = s.table.placeholders ∧ r.2.queue = s.queue
  | [], acc, s, A, hf, hP, _, _, _, _ => by
    refine ⟨[], List.Forall₂.nil, by simp, ?_⟩
    exact ⟨by simp [scheduled, layout], hf, le_refl _, by simpa [layout] using hP, by simp [layout],
      fun _ _ _ => rfl, fun _ _ _ => rfl, fun _ _ _ => rfl, fun _ => rfl, rfl, rfl⟩
  | ((c, m), step) :: l, acc, s, A, hf, hP, hpl, he, hev, hed => by
    intro r
    have hP' : s.forest.children P = A ++ c :: (l.map (·.1.1) ++ B) := by rw [hP]; simp
    have hnd := List.nodup_append.mp (hP' ▸ hf.nodup P)
    have hcA : c ∉ A := fun h => hnd.2.2 c h c (List.mem_cons_self ..) rfl
    have hcP : s.forest.parent? c = some P := hf.linked P c (by rw [hP']; simp)
    have hce : c ≠ e := fun h => by rw [h, hed] at hcP; cases hcP
    have hlv : ∀ x ∈ l, x.1.1.index < s.forest.nodes.size := fun x hx =>
      hf.index_lt_of_mem_children (show x.1.1 ∈ s.forest.children P by
        rw [hP']
        exact List.mem_append_right _ (List.mem_cons_of_mem _
          (List.mem_append_left _ (List.mem_map_of_mem hx))))
    obtain ⟨fresh, hlen, hfresh, hr1, hw, hgrow, hP₁, hfr, hkind, hpar, hch, htmp, hpls, hq⟩ :=
      continueClone_places e scope options s hf hP' hcA (hpl _ (List.mem_cons_self ..)) he hev m step
    set r₁ := Session.continueClone e scope options s c m step
    set b := block scope options s.scopes.frames.size c m step fresh
    have he₁ : r₁.2.forest.parent? e = none := by rw [hpar e hev (Ne.symm hce), hed]
    obtain ⟨F, hF, hFk, hr1', hw', hgrow', hP₂, hfr', hkind', hpar', hch', htmp', hpls', hq'⟩ :=
      @foldl_continueStep_places e scope options P B l (acc ++ r₁.1) r₁.2 (A ++ b.1.map Prod.fst) hw
        (by rw [hP₁]; simp)
        (fun x hx => by simp only [NodeTable.placeholder?, hpls]; exact hpl x (List.mem_cons_of_mem _ hx))
        (by rw [htmp]; exact he) (by omega) he₁
    have hbase : r₁.2.scopes.frames.size = s.scopes.frames.size + b.2.length := by
      rw [← Array.length_toList, hfr, List.length_append, Array.length_toList]
    rw [hbase] at hr1' hP₂ hfr'
    -- the fresh copies of `c` are nodes of the forest after it, and no copy of `l`
    have hfv : ∀ y ∈ fresh, y.index < r₁.2.forest.nodes.size := fun y hy =>
      hw.index_lt_of_mem_children (show y ∈ r₁.2.forest.children P by
        rw [hP₁]
        exact List.mem_append_left _ (List.mem_append_right _ (mem_block_of_mem_fresh hlen hy)))
    have hr : r = l.foldl (continueStep e scope options) (acc ++ r₁.1, r₁.2) := rfl
    refine ⟨fresh :: F, List.Forall₂.cons hlen hF, ?_, ?_⟩
    · intro ys hys y hy
      rcases List.mem_cons.mp hys with rfl | hys
      · have hyl : ∀ x ∈ l, x.1.1 = y → x.2.outcome ≠ .stop := fun x hx hxy => by
          have := (hfresh y hy).1
          have := hlv x hx
          rw [hxy] at this
          omega
        exact ⟨(hfresh y hy).1, by rw [hr, hkind' y (hfv y hy) hyl, (hfresh y hy).2]⟩
      · obtain ⟨h1, h2⟩ := hFk ys hys y hy
        exact ⟨le_trans hgrow h1, by rw [hr, h2, hkind e hev (Or.inl (Ne.symm hce))]⟩
    rw [layout, hr]
    dsimp only
    refine ⟨by rw [hr1', hr1, scheduled_append, List.append_assoc], hw', le_trans hgrow hgrow',
      by rw [hP₂]; simp [b], by rw [hfr', hfr, List.append_assoc], fun y hy hyl => ?_,
      fun y hy hyl => ?_, fun y hy hyP => by rw [hch' y (lt_of_lt_of_le hy hgrow) hyP, hch y hy hyP],
      fun y => by rw [htmp' y, htmp y], by rw [hpls', hpls], by rw [hq', hq]⟩
    · have hc : y ≠ c ∨ step.outcome ≠ .stop := by
        by_cases hyc : y = c
        · exact Or.inr (hyl _ (List.mem_cons_self ..) hyc.symm)
        · exact Or.inl hyc
      rw [hkind' y (lt_of_lt_of_le hy hgrow) (fun x hx => hyl x (List.mem_cons_of_mem _ hx)),
        hkind y hy hc]
    · simp only [List.map_cons, List.mem_cons, not_or] at hyl
      rw [hpar' y (lt_of_lt_of_le hy hgrow) hyl.2, hpar y hy hyl.1]

end Rendered

/-! ## Scheduling one copy -/

section Scheduling

theorem table_scopes_prepare {s t : Session} {c : NodeId} (h : s.prepare c = .ok t) :
    t.table = s.table ∧ t.scopes = s.scopes := by
  unfold Session.prepare at h
  split at h
  · split at h
    · cases h
      exact ⟨rfl, rfl⟩
    · cases h
  · cases h
    exact ⟨rfl, rfl⟩

theorem scheduleOne_error {v : Session} {c : NodeId} {k : Nat} {err : SelectError}
    (hc : v.forest.isElement c = true) (ht : v.table.isTemplate c = false)
    (h : v.scheduleOne c k = .error err) : applyTemplates v.forest c v.pristine = .error err := by
  simp only [Session.scheduleOne, ht, Bool.false_eq_true, if_false, Session.prepare, hc,
    if_true] at h
  rcases ha : applyTemplates v.forest c v.pristine with err' | ⟨_, _, _⟩ <;>
    simp [ha, Except.map] at h
  rw [h]

theorem table_scopes_enqueueChildren (s : Session) (c : NodeId) (k : Nat) :
    (s.enqueueChildren c k).table = s.table ∧ (s.enqueueChildren c k).scopes = s.scopes := by
  unfold Session.enqueueChildren
  generalize s.forest.children c = cs
  induction cs generalizing s with
  | nil => exact ⟨rfl, rfl⟩
  | cons d cs ih =>
    rw [List.foldl_cons]
    obtain ⟨ht, hs⟩ := ih (s.enqueue ⟨d, k⟩)
    rw [ht, hs]
    unfold Session.enqueue
    dsimp only
    split <;> exact ⟨rfl, rfl⟩

theorem scheduleOne_places (v : Session) (hf : v.forest.WellFormed) {P c : NodeId}
    {A B : List NodeId} (hP : v.forest.children P = A ++ c :: B) (hcA : c ∉ A)
    (hc : v.forest.isElement c = true) (ht : v.table.isTemplate c = false)
    (htexts : (optionWords v.forest c).contains "texts" = false) {k : Nat} {w : Session}
    (hsch : v.scheduleOne c k = .ok w) :
    let inv := (optionWords v.forest c).contains "invisible"
    ∃ L : List NodeId, (∀ y ∈ L, v.forest.nodes.size ≤ y.index) ∧
      let K := v.forest.children c ++ L
      w.forest.WellFormed ∧ v.forest.nodes.size ≤ w.forest.nodes.size ∧
      w.forest.children P = A ++ (if inv then K else [c]) ++ B ∧
      w.queue.toList = v.queue.toList ++ K.map (⟨·, k⟩) ∧
      (if inv then w.forest.parent? c = none else w.forest.children c = K) ∧
      (∀ y : NodeId, y.index < v.forest.nodes.size → y ≠ c →
        w.forest.kind y = v.forest.kind y ∧
        (v.forest.parent? y ≠ some c → w.forest.parent? y = v.forest.parent? y) ∧
        (y ≠ P → w.forest.children y = v.forest.children y)) ∧
      w.table = v.table ∧ w.scopes = v.scopes := by
  intro inv
  have hcv := index_lt_of_isElement hc
  have hcP : v.forest.parent? c = some P := hf.linked P c (by rw [hP]; simp)
  have hPc : P ≠ c := fun h => by have := hf.ordered c P hcP; rw [h] at this; omega
  have hPv : P.index < v.forest.nodes.size := hf.parent_lt hcP
  obtain ⟨v₁, hv₁, rfl⟩ : ∃ v₁, v.prepare c = .ok v₁ ∧
      w = v₁.queueChildren c k (optionWords v.forest c) := by
    simp only [Session.scheduleOne, ht, Bool.false_eq_true, if_false] at hsch
    rcases hp : v.prepare c with err | v₁ <;> simp [hp, Except.map] at hsch
    exact ⟨v₁, rfl, hsch.symm⟩
  obtain ⟨L, hprep⟩ := prepared_prepare v hf hc hv₁
  set v₂ := v₁.enqueueChildren c k
  have hf₂ : v₂.forest = v₁.forest := Session.forest_enqueueChildren v₁ c k
  have hq₁ : v₁.queue = v.queue := Array.toList_inj.mp ((Session.feeds_prepare hv₁).queue.trans (by simp))
  have hL : v₁.forest.children c = v.forest.children c ++ L := by
    rw [hprep.children c hcv, if_pos rfl]
  have hq₂ : v₂.queue.toList = v.queue.toList ++ (v.forest.children c ++ L).map (⟨·, k⟩) := by
    rw [(Session.feeds_enqueueChildren v₁ c k).queue, hq₁, hL]
  have hw : v₁.queueChildren c k (optionWords v.forest c) =
      if inv && v₂.forest.isElement c then v₂.unwrapElement c else v₂ := by
    simp only [Session.queueChildren, htexts, Bool.false_eq_true, if_false]
    rfl
  have hP₁ : v₁.forest.children P = A ++ c :: B := by
    rw [hprep.children P hPv, if_neg hPc, hP]
  have htab : v₂.table = v.table := by
    rw [(table_scopes_enqueueChildren v₁ c k).1, (table_scopes_prepare hv₁).1]
  have hsc : v₂.scopes = v.scopes := by
    rw [(table_scopes_enqueueChildren v₁ c k).2, (table_scopes_prepare hv₁).2]
  refine ⟨L, hprep.fresh, ?_⟩
  intro K
  cases hinv : inv
  · -- the element stays, with its children
    have hw' : v₁.queueChildren c k (optionWords v.forest c) = v₂ := by
      rw [hw, hinv, Bool.false_and, if_neg Bool.false_ne_true]
    rw [hw', hf₂]
    refine ⟨hprep.wf, hprep.grows, by rw [hP₁]; simp, hq₂, hL,
      fun y hy hyc => ⟨hprep.kind y hy hyc, fun _ => hprep.parent y hy, fun _ => ?_⟩, htab, hsc⟩
    rw [hprep.children y hy, if_neg hyc]
  · -- the element is replaced by its children
    have hel : v₂.forest.isElement c = true := by rw [hf₂]; exact hprep.element
    have hw' : v₁.queueChildren c k (optionWords v.forest c) = v₂.unwrapElement c := by
      rw [hw, hinv, hel]; rfl
    have hc₁ : v₁.forest.parent? c = some P := by
      rw [hprep.parent c hcv, hcP]
    obtain ⟨hwf, hws, hed⟩ := edited_unwrap hprep.wf hc₁ hP₁ hcA
    rw [hw']
    simp only [Session.unwrapElement, hf₂]
    refine ⟨hwf, by rw [hws]; exact hprep.grows, ?_, hq₂, ?_,
      fun y hy hyc => ⟨?_, fun hyK => ?_, fun hyP => ?_⟩, htab, hsc⟩
    · rw [hed.children P (lt_of_lt_of_le hPv hprep.grows), Function.update_apply, if_neg hPc,
        Function.update_apply, if_pos rfl, hL]
      simp [K]
    · rw [hed.parent c (lt_of_lt_of_le hcv hprep.grows), if_pos rfl]
      simp
    · rw [hed.kind y (lt_of_lt_of_le hy hprep.grows), hprep.kind y hy hyc]
    · -- an old node that was not a child of `c` is no child of it after `data-apply` either
      have hyK' : y ∉ v₁.forest.children c := by
        rw [hL]
        intro hm
        rcases List.mem_append.mp hm with hm | hm
        · exact hyK (hf.linked c y hm)
        · have := hprep.fresh y hm
          omega
      rw [hed.parent y (lt_of_lt_of_le hy hprep.grows), if_neg hyc, if_neg hyK',
        hprep.parent y hy]
    · rw [hed.children y (lt_of_lt_of_le hy hprep.grows), Function.update_apply, if_neg hyc,
        Function.update_apply, if_neg hyP, hprep.children y hy, if_neg hyc]

theorem optionWords_of_kind {f g : Forest} {n n' : NodeId} (h : g.kind n' = f.kind n) :
    optionWords g n' = optionWords f n := by
  simp only [optionWords, Forest.attr?, Forest.attrs, h]

theorem isElement_of_kind {f g : Forest} {n n' : NodeId} (h : g.kind n' = f.kind n) :
    g.isElement n' = f.isElement n := by
  simp only [Forest.isElement, h]

theorem schedule_eq (s : Session) (e : NodeId) (steps : List (NodeId × Nat)) :
    s.schedule e steps = (if s.table.isTemplate e then s.remove e else s).scheduleSteps e steps :=
  rfl

/-- The children a node of the blocks leaves in its parent: its children `kids` when it is
scheduled and invisible, else itself. -/
def placedAs (inv : NodeId → Bool) (kids : NodeId → List NodeId) (x : NodeId × Option Nat) :
    List NodeId :=
  if x.2.isSome && inv x.1 then kids x.1 else [x.1]

def tasksOf (kids : NodeId → List NodeId) (x : NodeId × Option Nat) : List Task :=
  match x.2 with
  | some k => (kids x.1).map (⟨·, k⟩)
  | none => []

theorem scheduleSteps_places {e P : NodeId} {post : List NodeId} :
    ∀ (bl : List (NodeId × Option Nat)) (v : Session) (A : List NodeId),
      v.forest.WellFormed → v.forest.children P = A ++ bl.map Prod.fst ++ post →
      (∀ n k, (n, some k) ∈ bl → v.forest.isElement n = true ∧ v.table.isTemplate n = false ∧
        (optionWords v.forest n).contains "texts" = false) →
      let inv := fun n => (optionWords v.forest n).contains "invisible"
      ∃ (kids : NodeId → List NodeId) (done rest : List (NodeId × Option Nat)) (t : Session),
        bl = done ++ rest ∧
        t.forest.WellFormed ∧ v.forest.nodes.size ≤ t.forest.nodes.size ∧
        t.forest.children P = A ++ done.flatMap (placedAs inv kids) ++ rest.map Prod.fst ++ post ∧
        t.queue.toList = v.queue.toList ++ done.flatMap (tasksOf kids) ∧
        (∀ n k, (n, some k) ∈ done →
          (∃ L, kids n = v.forest.children n ++ L ∧ ∀ y ∈ L, v.forest.nodes.size ≤ y.index) ∧
          (if inv n then t.forest.parent? n = none else t.forest.children n = kids n)) ∧
        (∀ y : NodeId, y.index < v.forest.nodes.size → y ∉ done.map Prod.fst → y ≠ P →
          t.forest.children y = v.forest.children y) ∧
        (∀ y : NodeId, y.index < v.forest.nodes.size → v.forest.parent? y = none →
          t.forest.parent? y = none) ∧
        t.table = v.table ∧ t.scopes = v.scopes ∧
        (v.scheduleSteps e (scheduled bl) = t ∧ rest = [] ∨
          ∃ n k err, rest.head? = some (n, some k) ∧
            applyTemplates t.forest n t.pristine = .error err ∧
            v.scheduleSteps e (scheduled bl) = t.taskFailed e err.message)
  | [], v, A, hf, hP, _ => by
    refine ⟨fun _ => [], [], [], v, rfl, hf, le_refl _, by simpa using hP, by simp, by simp,
      fun _ _ _ _ => rfl, fun _ _ h => h, rfl, rfl, Or.inl ⟨rfl, rfl⟩⟩
  | (n, none) :: bl, v, A, hf, hP, hsch => by
    obtain ⟨kids, done, rest, t, rfl, hw, hgrow, hP', hq, hkids, hch, hpar, ht, hsc, hend⟩ :=
      @scheduleSteps_places e P post bl v (A ++ [n]) hf (by rw [hP]; simp)
        (fun n' k' h => hsch n' k' (List.mem_cons_of_mem _ h))
    refine ⟨kids, (n, none) :: done, rest, t, rfl, hw, hgrow, by rw [hP']; simp [placedAs],
      by rw [hq]; simp [tasksOf], fun n' k' h => ?_,
      fun y hy hyb hyP => hch y hy (fun h => hyb (List.mem_cons_of_mem _ h)) hyP, hpar, ht, hsc,
      by simpa only [scheduled_cons_none] using hend⟩
    rcases List.mem_cons.mp h with h | h
    · cases h
    · exact hkids n' k' h
  | (n, some k) :: bl, v, A, hf, hP, hsch => by
    intro inv
    obtain ⟨hn, hnt, hnx⟩ := hsch n k (List.mem_cons_self ..)
    have hP' : v.forest.children P = A ++ n :: (bl.map Prod.fst ++ post) := by rw [hP]; simp
    rcases hone : v.scheduleOne n k with err | v₁
    · -- the engine fails on the first scheduled node: nothing is scheduled
      refine ⟨fun _ => [], [], (n, some k) :: bl, v, rfl, hf, le_refl _, by simpa using hP,
        by simp, by simp, fun _ _ _ _ => rfl, fun _ _ h => h, rfl, rfl,
        Or.inr ⟨n, k, err, rfl, scheduleOne_error hn hnt hone, ?_⟩⟩
      simp [scheduled_cons_some, Session.scheduleSteps, hone]
    have hnd := List.nodup_append.mp (hP' ▸ hf.nodup P)
    have hnA : n ∉ A := fun h => hnd.2.2 n h n (List.mem_cons_self ..) rfl
    have hnbl : n ∉ bl.map Prod.fst := fun h =>
      (List.nodup_cons.mp hnd.2.1).1 (List.mem_append_left _ h)
    have hnP : v.forest.parent? n = some P := hf.linked P n (by rw [hP']; simp)
    have hPn : P ≠ n := fun h => by have := hf.ordered n P hnP; rw [h] at this; omega
    have hnv : n.index < v.forest.nodes.size := index_lt_of_parent? hnP
    obtain ⟨L, hL, hw, hgrow, hP₁, hq, hself, hframe, ht, hsc⟩ :=
      scheduleOne_places v hf hP' hnA hn hnt hnx hone
    set K := v.forest.children n ++ L
    have hbl : ∀ x ∈ bl, x.1.index < v.forest.nodes.size ∧ x.1 ≠ n ∧ P ≠ x.1 := fun x hx => by
      have hm : x.1 ∈ v.forest.children P := by
        rw [hP']
        exact List.mem_append_right _ (List.mem_cons_of_mem _
          (List.mem_append_left _ (List.mem_map_of_mem hx)))
      refine ⟨hf.index_lt_of_mem_children hm, fun h => hnbl (h ▸ List.mem_map_of_mem hx),
        fun h => ?_⟩
      have := hf.ordered _ P (hf.linked P x.1 hm)
      rw [h] at this
      omega
    have hkind : ∀ x ∈ bl, v₁.forest.kind x.1 = v.forest.kind x.1 := fun x hx =>
      (hframe x.1 (hbl x hx).1 (hbl x hx).2.1).1
    obtain ⟨kids, done, rest, t, rfl, hw', hgrow', hP₂, hq', hkids, hch', hpar', ht', hsc', hend⟩ :=
      @scheduleSteps_places e P post bl v₁ (A ++ if inv n then K else [n]) hw
        (by rw [hP₁]; simp only [List.append_assoc]; rfl)
        (fun n' k' h => by
          have hk := hkind _ h
          obtain ⟨h₁, h₂, h₃⟩ := hsch n' k' (List.mem_cons_of_mem _ h)
          exact ⟨by rw [isElement_of_kind hk]; exact h₁, by rw [ht]; exact h₂,
            by rw [optionWords_of_kind hk]; exact h₃⟩)
    have hbl' : ∀ x ∈ done, x.1.index < v.forest.nodes.size ∧ x.1 ≠ n ∧ P ≠ x.1 :=
      fun x hx => hbl x (List.mem_append_left _ hx)
    have hinv : ∀ x ∈ done, (optionWords v₁.forest x.1).contains "invisible" = inv x.1 :=
      fun x hx => by rw [optionWords_of_kind (hkind x (List.mem_append_left _ hx))]
    set kids' : NodeId → List NodeId := fun y => if y = n then K else kids y
    have hplaced : done.flatMap (placedAs (fun n => (optionWords v₁.forest n).contains "invisible")
        kids) = done.flatMap (placedAs inv kids') :=
      List.flatMap_congr fun x hx => by simp only [placedAs, kids', hinv x hx, if_neg (hbl' x hx).2.1]
    have htasks : done.flatMap (tasksOf kids) = done.flatMap (tasksOf kids') :=
      List.flatMap_congr fun x hx => by simp only [tasksOf, kids', if_neg (hbl' x hx).2.1]
    have hsteps : v.scheduleSteps e (scheduled ((n, some k) :: (done ++ rest))) =
        v₁.scheduleSteps e (scheduled (done ++ rest)) := by
      simp [scheduled_cons_some, Session.scheduleSteps, hone]
    refine ⟨kids', (n, some k) :: done, rest, t, rfl, hw', le_trans hgrow hgrow', ?_, ?_,
      fun n' k' h => ?_, fun y hy hyb hyP => ?_, fun y hy hy0 => ?_, by rw [ht', ht],
      by rw [hsc', hsc], by rw [hsteps]; exact hend⟩
    · rw [hP₂, List.flatMap_cons, hplaced]
      simp only [placedAs, kids', if_pos, Option.isSome_some, Bool.true_and, List.append_assoc]
    · rw [hq', hq, List.flatMap_cons, htasks]
      simp only [tasksOf, kids', if_pos, List.append_assoc]
    · rcases List.mem_cons.mp h with h | h
      · obtain ⟨rfl, -⟩ := Prod.mk.inj h
        have hk' : kids' n' = K := if_pos rfl
        refine ⟨⟨L, hk', hL⟩, ?_⟩
        rw [hk']
        have hself' : if inv n' then v₁.forest.parent? n' = none
            else v₁.forest.children n' = K := hself
        cases hi : inv n' <;> rw [hi] at hself' <;>
          simp only [if_true, Bool.false_eq_true, if_false] at hself' ⊢
        · rw [hch' n' (lt_of_lt_of_le hnv hgrow) (fun h => hnbl (List.map_append ▸
            List.mem_append_left _ h)) hPn.symm]
          exact hself'
        · exact hpar' n' (lt_of_lt_of_le hnv hgrow) hself'
      · have hx := hbl' _ h
        obtain ⟨⟨L', hL', hL'v⟩, hk⟩ := hkids n' k' h
        have hk' : kids' n' = kids n' := if_neg hx.2.1
        refine ⟨⟨L', ?_, fun y hy => le_trans hgrow (hL'v y hy)⟩, ?_⟩
        · rw [hk', hL', (hframe n' hx.1 hx.2.1).2.2 (Ne.symm hx.2.2)]
        · rw [hk', ← hinv _ h]
          exact hk
    · simp only [List.map_cons, List.mem_cons, not_or] at hyb
      rw [hch' y (lt_of_lt_of_le hy hgrow) hyb.2 hyP, (hframe y hy hyb.1).2.2 hyP]
    · have hyn : y ≠ n := fun h => by rw [h, hnP] at hy0; cases hy0
      have hy₁ : v₁.forest.parent? y = none := by
        rw [(hframe y hy hyn).2.1 (by rw [hy0]; simp), hy0]
      exact hpar' y (lt_of_lt_of_le hy hgrow) hy₁
theorem remove_template_places (s : Session) (hf : s.forest.WellFormed) {e ph P : NodeId}
    {A B : List NodeId} (hph : s.table.placeholder? e = some ph)
    (hP : s.forest.children P = A ++ ph :: B) (hev : e.index < s.forest.nodes.size)
    (hdet : s.forest.parent? e = none) :
    let v := s.remove e
    v.forest.WellFormed ∧ v.forest.nodes.size = s.forest.nodes.size ∧
      v.forest.children P = A ++ B ∧ v.forest.parent? e = none ∧ v.forest.parent? ph = none ∧
      (∀ y : NodeId, y.index < s.forest.nodes.size → v.forest.kind y = s.forest.kind y) ∧
      (∀ y : NodeId, y.index < s.forest.nodes.size → y ≠ P →
        v.forest.children y = s.forest.children y) ∧
      (∀ y : NodeId, y.index < s.forest.nodes.size → y ≠ e → y ≠ ph →
        v.forest.parent? y = s.forest.parent? y) ∧
      (∀ y, v.table.isTemplate y = s.table.isTemplate y) ∧ v.queue = s.queue ∧
      v.scopes.frames = s.scopes.frames := by
  intro v
  have hphP : s.forest.parent? ph = some P := hf.linked P ph (by rw [hP]; simp)
  have hPv : P.index < s.forest.nodes.size := hf.parent_lt hphP
  -- a child of any node is neither `e`, which has no parent, nor `ph` unless the node is `P`
  have hkeep : ∀ y z, z ∈ s.forest.children y → (y ≠ P ∨ z ≠ ph) → z ≠ e ∧ z ≠ ph := by
    intro y z hz hy
    have hzy := hf.linked y z hz
    refine ⟨fun h => ?_, fun h => ?_⟩
    · rw [h, hdet] at hzy
      cases hzy
    rcases hy with hy | hy
    · rw [h, hphP] at hzy
      exact hy (Option.some.inj hzy).symm
    · exact hy h
  obtain ⟨ha, hw⟩ := NodeTable.answers_remove hf s.table e
  rcases hrm : s.table.remove s.forest e with ⟨t', f'⟩
  rw [hrm] at ha hw
  cases ha with
  | removeAlone hpl =>
    rw [hph] at hpl
    cases hpl
  | removeWithPlaceholder hpl hed hsz =>
    rw [hph] at hpl
    obtain rfl := Option.some.inj hpl
    have hv : v.forest = f' ∧ ∀ y, v.table.isTemplate y = s.table.isTemplate y := by
      simp only [v, Session.remove, hrm]
      exact ⟨rfl, fun _ => rfl⟩
    rw [hv.1]
    have hnd := List.nodup_append.mp (hP ▸ hf.nodup P)
    refine ⟨hw, hsz, ?_, ?_, ?_, fun y hy => hed.kind y hy, fun y hy hyP => ?_,
      fun y hy hye hyp => ?_, hv.2, rfl, rfl⟩
    · rw [hed.children P hPv, hP, List.filter_append, List.filter_cons, if_neg (by simp)]
      congr 1
      · refine List.filter_eq_self.mpr fun z hz => ?_
        have := hkeep P z (by rw [hP]; exact List.mem_append_left _ hz)
          (Or.inr fun h => hnd.2.2 z hz ph (List.mem_cons_self ..) h)
        simpa using this
      · refine List.filter_eq_self.mpr fun z hz => ?_
        have := hkeep P z (by rw [hP]; simp [hz])
          (Or.inr fun h => (List.nodup_cons.mp hnd.2.1).1 (h ▸ hz))
        simpa using this
    · rw [hed.parent e hev]
      simp [Function.update_apply]
    · rw [hed.parent ph (index_lt_of_parent? hphP), Function.update_apply, if_pos rfl]
    · rw [hed.children y hy]
      exact List.filter_eq_self.mpr fun z hz => by simpa using hkeep y z hz (Or.inl hyP)
    · rw [hed.parent y hy, Function.update_apply, if_neg hyp, Function.update_apply, if_neg hye]

end Scheduling

/-! ## Finishing an expansion -/

section Finishing

/-- Whether a node of an expansion's blocks is replaced by its children: a node of the forest by
its own options, a further copy by those of the template `e` it copies. -/
def blockInvisible (f : Forest) (e n : NodeId) : Bool :=
  (optionWords f (if n.index < f.nodes.size then n else e)).contains "invisible"

/-- A session waiting on the expansion `x`: the copies stand in order right before the
placeholder `ph` of the template among the children of `P`, the template is an element out of the
forest, and the copies are elements, neither templates nor with placeholders of their own. -/
structure Awaits (u : Session) (x : Expansion) (P ph : NodeId) (pre post : List NodeId) :
    Prop where
  wf : u.forest.WellFormed
  children : u.forest.children P = pre ++ x.clones.map Prod.fst ++ ph :: post
  placeholder : u.table.placeholder? x.element = some ph
  template : u.table.isTemplate x.element = true
  detached : u.forest.parent? x.element = none
  element : u.forest.isElement x.element = true
  templates_old : ∀ y, u.table.isTemplate y = true → y.index < u.forest.nodes.size
  copies : ∀ c ∈ x.clones.map Prod.fst, u.forest.isElement c = true ∧
    u.table.isTemplate c = false ∧ u.table.placeholder? c = none
  steps : x.steps.size = x.clones.length

def NoTexts (u : Session) (x : Expansion) : Prop :=
  ∀ c ∈ x.element :: x.clones.map Prod.fst, (optionWords u.forest c).contains "texts" = false

/-- What finishing the expansion `x`, waiting in `u` between `pre` and `post` among the children
of `P`, leaves in `w`: each rendered copy has its further copies `F`, and the blocks of the copies,
in order, stand in the place of the copies. The template and its placeholder `ph` are out of the
forest and the scopes of the items are made. The scheduled nodes of the blocks are taken in order
(`done`): each queues its children `kids` (its children before, then its `data-apply` copies) in
the scope of its item, and an invisible one gives way to them; when the engine fails on the
`data-apply` of the next one, the task fails there and the nodes after it (`rest`) stay as they
are. -/
def Finished (u : Session) (x : Expansion) (P ph : NodeId) (pre post : List NodeId) (w : Session) :
    Prop :=
  let l := x.clones.zip x.steps.toList
  ∃ (F : List (List NodeId)) (kids : NodeId → List NodeId) (done rest : List (NodeId × Option Nat)),
    List.Forall₂ (fun c fresh => fresh.length = blockSize c.1.2 c.2 - 1) l F ∧
    (∀ ys ∈ F, ∀ y ∈ ys, u.forest.nodes.size ≤ y.index) ∧
    let b := layout x.scope x.options u.scopes.frames.size l F
    b.1 = done ++ rest ∧
    w.forest.WellFormed ∧ w.forest.parent? x.element = none ∧ w.forest.parent? ph = none ∧
    w.forest.children P = pre ++ done.flatMap (placedAs (blockInvisible u.forest x.element) kids) ++
      rest.map Prod.fst ++ post ∧
    w.queue.toList = u.queue.toList ++ done.flatMap (tasksOf kids) ∧
    w.scopes.frames.toList = u.scopes.frames.toList ++ b.2 ∧
    (∀ n k, (n, some k) ∈ done →
      (n.index < u.forest.nodes.size → ∃ L, kids n = u.forest.children n ++ L ∧
        ∀ y ∈ L, u.forest.nodes.size ≤ y.index) ∧
      (if blockInvisible u.forest x.element n then w.forest.parent? n = none
        else w.forest.children n = kids n)) ∧
    (rest = [] ∨ ∃ n k err, rest.head? = some (n, some k) ∧
      applyTemplates w.forest n w.pristine = .error err ∧
      ∃ t : Session, w = t.taskFailed x.element err.message)

theorem finishExpansion_places (u : Session) (x : Expansion) {P ph : NodeId}
    {pre post : List NodeId} (hu : Awaits u x P ph pre post) (htexts : NoTexts u x) :
    Finished u x P ph pre post (u.finishExpansion x) := by
  obtain ⟨hf, hP, hph, he, hdet, hel, hold, hcopies, hsteps⟩ := hu
  set w := u.finishExpansion x
  set l := x.clones.zip x.steps.toList
  have hl : l.map (·.1.1) = x.clones.map Prod.fst := by
    have h : (x.clones.zip x.steps.toList).map Prod.fst = x.clones :=
      List.map_fst_zip (by simp [hsteps])
    rw [← h, List.map_map]
    rfl
  have hev : x.element.index < u.forest.nodes.size := index_lt_of_isElement hel
  have hP₀ : u.forest.children P = pre ++ l.map (·.1.1) ++ ph :: post := by rw [hl, hP]
  have hw' : w = (l.foldl (continueStep x.element x.scope x.options) ([], u)).2.schedule
      x.element (l.foldl (continueStep x.element x.scope x.options) ([], u)).1 :=
    finishExpansion_eq u x
  obtain ⟨F, hF, hFk, hr1, hw, hgrow, hP₁, hfr, hkind, hpar, hch, htmp, hpls, hq⟩ :=
    @foldl_continueStep_places x.element x.scope x.options P (ph :: post) l [] u pre hf hP₀
      (fun c hc => (hcopies c.1.1 (hl ▸ List.mem_map_of_mem hc)).2.2) he hev hdet
  generalize l.foldl (continueStep x.element x.scope x.options) ([], u) = r
    at hw' hFk hr1 hw hgrow hP₁ hfr hkind hpar hch htmp hpls hq
  set b := layout x.scope x.options u.scopes.frames.size l F
  have hndl : (l.map (·.1.1)).Nodup := by
    have h := hf.nodup P
    rw [hP₀] at h
    exact (List.nodup_append.mp (List.nodup_append.mp h).1).2.1
  have hphv : ph.index < u.forest.nodes.size :=
    hf.index_lt_of_mem_children (show ph ∈ u.forest.children P by rw [hP]; simp)
  have he₁ : r.2.forest.parent? x.element = none := by
    refine (hpar x.element hev fun h => ?_).trans hdet
    have h' := hf.linked P x.element (by rw [hP₀]; exact List.mem_append_left _ (List.mem_append_right _ h))
    rw [hdet] at h'
    cases h'
  obtain ⟨hwv, hsv, hPv, hev', hphv', hkv, hchv, -, htv, hqv, hfrv⟩ :=
    remove_template_places r.2 hw (by simp only [NodeTable.placeholder?, hpls]; exact hph) hP₁
      (lt_of_lt_of_le hev hgrow) he₁
  rw [schedule_eq, if_pos (by rw [htmp]; exact he), hr1, List.nil_append] at hw'
  set v := r.2.remove x.element
  have hbP : ∀ n o, (n, o) ∈ b.1 → r.2.forest.parent? n = some P := fun n o h =>
    hw.linked P n (by rw [hP₁]; exact List.mem_append_left _ (List.mem_append_right _
      (List.mem_map.mpr ⟨_, h, rfl⟩)))
  -- each scheduled node is a copy whose chain did not stop, or a further copy of the template
  have hsrc : ∀ n k, (n, some k) ∈ b.1 →
      v.forest.kind n = u.forest.kind (if n.index < u.forest.nodes.size then n else x.element) ∧
      v.table.isTemplate n = false ∧
      (if n.index < u.forest.nodes.size then n else x.element) ∈
        x.element :: x.clones.map Prod.fst := by
    intro n k h
    have hnr : n.index < r.2.forest.nodes.size := index_lt_of_parent? (hbP n _ h)
    rcases mem_layout h with ⟨c, hc, rfl, hs⟩ | ⟨ys, hys, hy⟩
    · have hcm : c.1.1 ∈ x.clones.map Prod.fst := hl ▸ List.mem_map_of_mem hc
      have hcv : c.1.1.index < u.forest.nodes.size := hf.index_lt_of_mem_children
        (show c.1.1 ∈ u.forest.children P by
          rw [hP]; exact List.mem_append_left _ (List.mem_append_right _ hcm))
      -- the copy occurs once among the copies, and its chain did not stop
      have hone : ∀ c' ∈ l, c'.1.1 = c.1.1 → c'.2.outcome ≠ .stop := fun c' hc' h => by
        rw [List.inj_on_of_nodup_map hndl hc' hc h]
        exact hs rfl
      rw [if_pos hcv]
      exact ⟨by rw [hkv _ hnr, hkind _ hcv hone], by rw [htv, htmp]; exact (hcopies _ hcm).2.1,
        List.mem_cons_of_mem _ hcm⟩
    · obtain ⟨hyu, hyk⟩ := hFk ys hys n hy
      rw [if_neg (by omega)]
      refine ⟨by rw [hkv _ hnr, hyk], ?_, List.mem_cons_self ..⟩
      rw [htv, htmp]
      cases h' : u.table.isTemplate n
      · rfl
      · have := hold n h'
        omega
  have hinv : ∀ n k, (n, some k) ∈ b.1 → (optionWords v.forest n).contains "invisible" =
      blockInvisible u.forest x.element n := fun n k h => by
    rw [blockInvisible, optionWords_of_kind (hsrc n k h).1]
  obtain ⟨kids, done, rest, t, hsplit, hw₂, hgrow₂, hP₂, hq₂, hkids, -, hpar₂, -, hsc₂, hend⟩ :=
    @scheduleSteps_places x.element P post b.1 v pre hwv hPv fun n k h => by
      obtain ⟨hk, ht, hm⟩ := hsrc n k h
      refine ⟨?_, ht, by rw [optionWords_of_kind hk]; exact htexts _ hm⟩
      rw [isElement_of_kind hk]
      rcases List.mem_cons.mp hm with hm | hm
      · rw [hm]; exact hel
      · exact (hcopies _ hm).1
  have hwt : w.forest = t.forest ∧ w.queue = t.queue ∧ w.scopes.frames = t.scopes.frames := by
    rcases hend with ⟨h, -⟩ | ⟨_, _, _, -, -, h⟩ <;> rw [hw', h] <;> exact ⟨rfl, rfl, rfl⟩
  have hdone : ∀ y ∈ done, y ∈ b.1 := fun y hy => hsplit ▸ List.mem_append_left _ hy
  have hplaced : done.flatMap (placedAs (fun n => (optionWords v.forest n).contains "invisible")
      kids) = done.flatMap (placedAs (blockInvisible u.forest x.element) kids) :=
    List.flatMap_congr fun y hy => by
      rcases y with ⟨n, _ | k⟩
      · rfl
      · simp only [placedAs, hinv n k (hdone _ hy)]
  refine ⟨F, kids, done, rest, hF, fun ys hys y hy => (hFk ys hys y hy).1, hsplit,
    by rw [hwt.1]; exact hw₂,
    by rw [hwt.1]; exact hpar₂ _ (by rw [hsv]; exact lt_of_lt_of_le hev hgrow) hev',
    by rw [hwt.1]; exact hpar₂ _ (by rw [hsv]; exact lt_of_lt_of_le hphv hgrow) hphv',
    by rw [hwt.1, hP₂, hplaced], by rw [hwt.2.1, hq₂, hqv, hq], by rw [hwt.2.2, hsc₂, hfrv, hfr],
    fun n k h => ?_, ?_⟩
  · have hb := hdone _ h
    have hnr : n.index < r.2.forest.nodes.size := index_lt_of_parent? (hbP n _ hb)
    have hPn : n ≠ P := fun h' => by
      have := hw.ordered n P (hbP n _ hb)
      rw [h'] at this
      omega
    obtain ⟨⟨L, hL, hLv⟩, hk⟩ := hkids n k h
    refine ⟨fun hnu => ⟨L, by rw [hL, hchv n hnr hPn, hch n hnu hPn], fun y hy => ?_⟩, ?_⟩
    · have := hLv y hy
      rw [hsv] at this
      omega
    · rw [← hinv n k hb, hwt.1]
      exact hk
  · rcases hend with ⟨-, hr⟩ | ⟨n, k, err, hh, ha, h⟩
    · exact Or.inl hr
    · refine Or.inr ⟨n, k, err, hh, ?_, t, by rw [hw', h]⟩
      rw [hw', h]
      exact ha

theorem expand_awaits (s : Session) (hf : s.forest.WellFormed) (ht : s.table.Sound s.forest)
    {P e : NodeId} {A B : List NodeId} (hP : s.forest.children P = A ++ e :: B)
    (he : s.forest.isElement e = true) (scope : Nat) (r : ResultSet) (options : List String)
    (hr : r.found ≠ []) :
    let s₁ := s.expand e scope r options
    ∃ x ph, s₁.expansions = s.expansions.push x ∧ x.element = e ∧ x.scope = scope ∧
      x.options = options ∧ x.clones.map Prod.snd = r.found ∧
      (∀ c ∈ x.clones.map Prod.fst, s₁.forest.kind c = s.forest.kind e) ∧
      Awaits s₁ x P ph A B := by
  intro s₁
  have hev := index_lt_of_isElement he
  have heP : s.forest.parent? e = some P := hf.linked P e (by rw [hP]; simp)
  have heA : e ∉ A := fun h =>
    (List.nodup_append.mp (hP ▸ hf.nodup P)).2.2 e h e (List.mem_cons_self ..) rfl
  -- the templates are detached nodes of the forest, and the elements with placeholders are
  -- templates: `e` is none of them
  have htold : ∀ y, s.table.isTemplate y = true → y.index < s.forest.nodes.size := fun y hy =>
    ht.template_lt y (List.contains_iff_mem.mp hy)
  have hkeys : ∀ y p, (y, p) ∈ s.table.placeholders → y.index < s.forest.nodes.size :=
    fun y p h => ht.template_lt y (ht.cloned_template y p h)
  have hpl : s.table.placeholder? e = none := by
    rcases h : s.table.placeholder? e with _ | p
    · rfl
    · have := ht.template_detached e (ht.cloned_template e p (NodeTable.mem_of_placeholder? h))
      rw [heP] at this
      cases this
  obtain ⟨m, ms, hms⟩ := List.exists_cons_of_ne_nil hr
  obtain ⟨c, ph, hc, hw, hcv, hphv, hed, hkc, htmp, hpls, hex⟩ :=
    cloneElement_first s hf hpl hP heA
  set s' := (s.cloneElement e).2
  have hPv : P.index < s.forest.nodes.size := hf.parent_lt heP
  have hP' : s'.forest.children P = (A ++ [c]) ++ ph :: B := by
    rw [hed.children P hPv, Function.update_apply, if_pos rfl]
    simp
  have hnd := List.nodup_append.mp (hP' ▸ hw.nodup P)
  have hph' : s'.table.placeholder? e = some ph := by
    simp only [NodeTable.placeholder?, hpls]
    exact List.lookup_append.trans (by rw [show s.table.placeholders.lookup e = none from hpl]; simp)
  have he' : s'.table.isTemplate e = true := (htmp e).mpr (Or.inr rfl)
  have hgrow : s.forest.nodes.size ≤ s'.forest.nodes.size :=
    le_of_lt (lt_of_le_of_lt hcv (hw.index_lt_of_mem_children (show c ∈ s'.forest.children P by
      rw [hP']; simp)))
  obtain ⟨cs, hr1, hlen, hcs, hw', hgrow', hP'', hold, htmp', hpls', hex'⟩ :=
    @foldl_cloneStep_again e P ph B ms [(c, m)] s' (A ++ [c]) hw hph' he'
      (lt_of_lt_of_le hev hgrow) hP' (fun h => hnd.2.2 ph h ph (List.mem_cons_self ..) rfl)
  have hall : s.cloneAll e r = ms.foldl (cloneStep e) ([(c, m)], s') := by
    rw [cloneAll_eq, hms, List.foldl_cons]
    unfold cloneStep
    rw [show s.cloneElement e = (some c, s') from Prod.ext hc rfl]
    rfl
  rcases hres : ms.foldl (cloneStep e) ([(c, m)], s') with ⟨clones, s₂⟩
  rw [hres] at hr1 hw' hgrow' hP'' hold htmp' hpls' hex' hcs
  dsimp only at hr1 hw' hgrow' hP'' hold htmp' hpls' hex' hcs
  set x : Expansion :=
    ⟨e, scope, options, clones, Array.replicate clones.length ⟨.proceed, none, false⟩, 0⟩
  have hs₁ : s₁ =
      { s₂ with
        expansions := s₂.expansions.push x, running := false,
        ready := s₂.ready ++
          ((List.range clones.length).map (Wakeup.render s₂.expansions.size)).toArray } := by
    have hne : clones.isEmpty = false := by rw [hr1]; rfl
    show s.expand e scope r options = _
    unfold Session.expand
    rw [hall, hres]
    simp only [hne, Bool.false_eq_true, if_false]
    rfl
  have hnodes : clones.map Prod.fst = c :: cs := by
    rw [hr1]
    simp [List.map_fst_zip, hlen]
  have hsize : s.forest.nodes.size ≤ s₂.forest.nodes.size := le_trans hgrow hgrow'
  have htmp₂ : ∀ y, s₂.table.isTemplate y = true ↔ s.table.isTemplate y = true ∨ y = e :=
    fun y => by rw [htmp' y, htmp y]
  have hpl₂ : ∀ y : NodeId, s.forest.nodes.size ≤ y.index → s₂.table.placeholder? y = none := by
    intro y hy
    simp only [NodeTable.placeholder?, hpls', hpls]
    refine List.lookup_eq_none_iff.mpr fun p hp => bne_iff_ne.mpr fun h => ?_
    rcases List.mem_append.mp hp with hp | hp
    · have := hkeys p.1 p.2 hp
      rw [← h] at this
      omega
    · rw [List.mem_singleton.mp hp] at h
      have hye : y = e := h
      rw [hye] at hy
      omega
  have hkinds : ∀ y ∈ clones.map Prod.fst,
      s₂.forest.kind y = s.forest.kind e ∧ s.forest.nodes.size ≤ y.index := by
    rw [hnodes]
    intro y hy
    rcases List.mem_cons.mp hy with rfl | hy
    · refine ⟨?_, hcv⟩
      rw [(hold y (hw.index_lt_of_mem_children (show y ∈ s'.forest.children P by
        rw [hP']; simp))).1, hkc]
    · obtain ⟨h1, h2⟩ := hcs y hy
      exact ⟨by rw [h2, hed.kind e hev], le_trans hgrow h1⟩
  rw [hs₁]
  refine ⟨x, ph, by rw [hex', hex], rfl, rfl, rfl, ?_, fun y hy => (hkinds y hy).1, ?_⟩
  · show clones.map Prod.snd = r.found
    rw [hr1, hms]
    simp [List.map_snd_zip, hlen]
  refine ⟨hw', by rw [hP'', hnodes]; simp, by simp only [NodeTable.placeholder?, hpls']; exact hph',
    by rw [htmp']; exact he', ?_, ?_, fun y hy => ?_, fun y hy => ?_, Array.size_replicate⟩
  · rw [(hold e (lt_of_lt_of_le hev hgrow)).2, hed.parent e hev, Function.update_apply, if_pos rfl]
  · rw [isElement_of_kind ((hold e (lt_of_lt_of_le hev hgrow)).1.trans (hed.kind e hev))]
    exact he
  · rcases (htmp₂ y).mp hy with hy | rfl
    · exact lt_of_lt_of_le (htold y hy) hsize
    · exact lt_of_lt_of_le hev hsize
  · obtain ⟨hk, hyv⟩ := hkinds y hy
    refine ⟨by rw [isElement_of_kind hk]; exact he, ?_, hpl₂ y hyv⟩
    cases h : s₂.table.isTemplate y
    · rfl
    · rcases (htmp₂ y).mp h with h | rfl
      · have := htold y h
        omega
      · omega

theorem expand_places_blocks (s : Session) (hf : s.forest.WellFormed)
    (ht : s.table.Sound s.forest) {P e : NodeId} {A B : List NodeId}
    (hP : s.forest.children P = A ++ e :: B) (he : s.forest.isElement e = true) (scope : Nat)
    (r : ResultSet) (options : List String) (hr : r.found ≠ []) :
    let s₁ := s.expand e scope r options
    ∃ x ph, s₁.expansions = s.expansions.push x ∧ x.element = e ∧ x.scope = scope ∧
      x.options = options ∧ x.clones.map Prod.snd = r.found ∧ Awaits s₁ x P ph A B ∧
      ∀ (u : Session) (pre post : List NodeId), Awaits u x P ph pre post → NoTexts u x →
        Finished u x P ph pre post (u.finishExpansion x) := by
  obtain ⟨x, ph, hex, hxe, hxs, hxo, hxm, -, hwait⟩ := expand_awaits s hf ht hP he scope r options hr
  exact ⟨x, ph, hex, hxe, hxs, hxo, hxm, hwait, fun u _ _ hu htexts =>
    finishExpansion_places u x hu htexts⟩

end Finishing

end Stencil.Template

import Mathlib
import Stencil.Proofs.Template.Compaction
import Stencil.Proofs.Template.Places
import Stencil.Template.Renderer
/-!
# Merging the texts of a source by position

`mergeTexts` puts the texts of a source node into an element by position: the `j`-th text of the
source takes the place of the `j`-th text of the element, the element's texts left over are taken
out, and the source's texts left over follow the last one placed, or go at the end when the
element had no text (`placeTexts`). The copies are new plain texts, made in the order of the
source, holding its texts with their white space collapsed unless debugging (`copiedText`).

The first pass over the element's children swaps texts (`swapTexts`), the second appends what is
left over; halfway through either, the forest is the old one with some texts copied under the
element, some of its texts taken out and its children changed (`Merging`).

* `mergeTexts_places_texts` : the children of the element afterwards, the new texts, and every
  other node left as it was.
-/

namespace Stencil.Template

open Stencil.Markup Stencil.Text Forest

/-! ## Texts in place of texts -/

section Lists

variable (isText : NodeId → Bool)

/-- The children of an element once new texts take the places of its texts: each text gives way
to the next new text while there is one, and the new texts left over go right after the one that
took the place of the last text, or at the end when there was no text; other children stay. -/
def placeTexts : List NodeId → List NodeId → List NodeId
  | [], ns => ns
  | c :: cs, ns =>
    if isText c then
      if cs.any isText then ns.take 1 ++ placeTexts cs (ns.drop 1) else ns ++ cs
    else c :: placeTexts cs ns

/-- The first pass alone: each text gives way to the next new text while there is one, and is
taken out after that. -/
def swapTexts : List NodeId → List NodeId → List NodeId
  | [], _ => []
  | c :: cs, ns => if isText c then ns.take 1 ++ swapTexts cs (ns.drop 1) else c :: swapTexts cs ns

theorem swapTexts_append :
    ∀ (P Q ns : List NodeId),
      swapTexts isText (P ++ Q) ns = swapTexts isText P ns ++ swapTexts isText Q (ns.drop (P.countP isText))
  | [], Q, ns => by simp [swapTexts]
  | c :: P, Q, ns => by
    by_cases hc : isText c = true
    · rw [List.cons_append, swapTexts, if_pos hc, swapTexts, if_pos hc, swapTexts_append P Q (ns.drop 1),
        List.drop_drop, List.countP_cons_of_pos hc, Nat.add_comm 1, List.append_assoc]
    · rw [List.cons_append, swapTexts, if_neg hc, swapTexts, if_neg hc, swapTexts_append P Q ns,
        List.countP_cons_of_neg hc, List.cons_append]

theorem swapTexts_of_forall :
    ∀ {Q : List NodeId}, (∀ c ∈ Q, isText c = false) → ∀ ns, swapTexts isText Q ns = Q
  | [], _, _ => rfl
  | c :: Q, h, ns => by
    simp only [swapTexts, h c List.mem_cons_self, Bool.false_eq_true, if_false,
      swapTexts_of_forall (fun d hd => h d (List.mem_cons_of_mem c hd))]

theorem mem_swapTexts :
    ∀ {P ns : List NodeId} {y : NodeId}, y ∈ swapTexts isText P ns → y ∈ P ∨ y ∈ ns
  | [], _, _, h => by simp [swapTexts] at h
  | c :: P, ns, y, h => by
    unfold swapTexts at h
    split at h
    · rcases List.mem_append.mp h with h | h
      · exact Or.inr (List.mem_of_mem_take h)
      · rcases mem_swapTexts h with h | h
        · exact Or.inl (List.mem_cons_of_mem c h)
        · exact Or.inr (List.mem_of_mem_drop h)
    · rcases List.mem_cons.mp h with rfl | h
      · exact Or.inl List.mem_cons_self
      · rcases mem_swapTexts h with h | h
        · exact Or.inl (List.mem_cons_of_mem c h)
        · exact Or.inr h

theorem placeTexts_of_forall :
    ∀ {C : List NodeId}, (∀ c ∈ C, isText c = false) → ∀ ns, placeTexts isText C ns = C ++ ns
  | [], _, _ => rfl
  | c :: C, h, ns => by
    simp only [placeTexts, h c List.mem_cons_self, Bool.false_eq_true, if_false, List.cons_append,
      placeTexts_of_forall (fun d hd => h d (List.mem_cons_of_mem c hd))]

theorem placeTexts_last {u : NodeId} (hu : isText u = true) {Q : List NodeId}
    (hQ : ∀ c ∈ Q, isText c = false) :
    ∀ (P ns : List NodeId),
      placeTexts isText (P ++ u :: Q) ns = swapTexts isText P ns ++ ns.drop (P.countP isText) ++ Q
  | [], ns => by
    have hany : Q.any isText = false := by simpa using hQ
    simp [placeTexts, hu, hany, swapTexts]
  | c :: P, ns => by
    by_cases hc : isText c = true
    · have hany : (P ++ u :: Q).any isText = true := by simp [hu]
      rw [List.cons_append, placeTexts, if_pos hc, if_pos hany, placeTexts_last hu hQ P (ns.drop 1),
        swapTexts, if_pos hc, List.drop_drop, List.countP_cons_of_pos hc, Nat.add_comm 1]
      simp only [List.append_assoc]
    · rw [List.cons_append, placeTexts, if_neg hc, placeTexts_last hu hQ P ns, swapTexts, if_neg hc,
        List.countP_cons_of_neg hc]
      rfl

theorem filter_placeTexts (q : NodeId → Bool) {ns : List NodeId} (hns : ∀ n ∈ ns, q n = true) :
    ∀ {C : List NodeId}, (∀ c ∈ C, isText c = false → q c = false) →
      (placeTexts isText C ns).filter q = ns
  | [], _ => List.filter_eq_self.mpr hns
  | c :: C, hC => by
    have hC' : ∀ d ∈ C, isText d = false → q d = false := fun d hd => hC d (List.mem_cons_of_mem c hd)
    unfold placeTexts
    by_cases hc : isText c = true
    · rw [if_pos hc]
      split
      · rw [List.filter_append, List.filter_eq_self.mpr (fun n hn => hns n (List.mem_of_mem_take hn)),
          filter_placeTexts q (fun n hn => hns n (List.mem_of_mem_drop hn)) hC', List.take_append_drop]
      · rename_i hany
        have hnone : ∀ d ∈ C, q d = false := fun d hd =>
          hC' d hd (by simpa using fun h => hany (List.any_eq_true.mpr ⟨d, hd, h⟩))
        rw [List.filter_append, List.filter_eq_self.mpr hns, List.filter_eq_nil_iff.mpr
          (fun d hd => by simp [hnone d hd]), List.append_nil]
    · rw [if_neg hc, List.filter_cons, if_neg (by simp [hC c List.mem_cons_self (by simpa using hc)]),
        filter_placeTexts q hns hC']

theorem filter_placeTexts_of_text (q : NodeId → Bool) {ns : List NodeId}
    (hns : ∀ n ∈ ns, q n = false) :
    ∀ {C : List NodeId}, (∀ c ∈ C, isText c = true → q c = false) →
      (placeTexts isText C ns).filter q = C.filter q
  | [], _ => by simpa [placeTexts] using hns
  | c :: C, hC => by
    have hC' : ∀ d ∈ C, isText d = true → q d = false := fun d hd => hC d (List.mem_cons_of_mem c hd)
    have hnil : ∀ l : List NodeId, (∀ n ∈ l, n ∈ ns) → l.filter q = [] := fun l hl =>
      List.filter_eq_nil_iff.mpr (fun n hn => by simp [hns n (hl n hn)])
    unfold placeTexts
    by_cases hc : isText c = true
    · rw [if_pos hc, List.filter_cons_of_neg (by simp [hC c List.mem_cons_self hc])]
      split
      · rw [List.filter_append, hnil _ (fun n => List.mem_of_mem_take), List.nil_append,
          filter_placeTexts_of_text q (fun n hn => hns n (List.mem_of_mem_drop hn)) hC']
      · rw [List.filter_append, hnil ns (fun _ => id), List.nil_append]
    · rw [if_neg hc, List.filter_cons, List.filter_cons, filter_placeTexts_of_text q hns hC']

theorem exists_last_text :
    ∀ {C : List NodeId}, (∃ c ∈ C, isText c = true) →
      ∃ P u Q, C = P ++ u :: Q ∧ isText u = true ∧ ∀ c ∈ Q, isText c = false
  | [], h => by simp at h
  | c :: C, h => by
    by_cases hC : ∃ d ∈ C, isText d = true
    · obtain ⟨P, u, Q, rfl, hu, hQ⟩ := exists_last_text hC
      exact ⟨c :: P, u, Q, rfl, hu, hQ⟩
    · have hc : isText c = true := by
        obtain ⟨d, hd, hdt⟩ := h
        rcases List.mem_cons.mp hd with rfl | hd
        · exact hdt
        · exact absurd ⟨d, hd, hdt⟩ hC
      exact ⟨[], c, C, rfl, hc, fun d hd => by simpa using fun h => hC ⟨d, hd, h⟩⟩

end Lists

/-! ## Halfway through a merge -/

/-- The text a copy of the text node `n` holds: its text, with the white space collapsed unless
debugging. -/
def copiedText (f : Forest) (debug : Bool) (n : NodeId) : String :=
  let s := (f.stringContent? n).getD ""
  if debug then s else collapseLayout s

def newText (f : Forest) (j : Nat) : NodeId := ⟨f.nodes.size + j⟩

theorem copyText_eq (f : Forest) (debug : Bool) (n : NodeId) :
    copyText f debug n = (⟨f.nodes.size⟩, (f.add ⟨.string .text (copiedText f debug n), none, #[]⟩).2) :=
  rfl

theorem kind_add_eq (g : Forest) (node : Node) (y : NodeId) :
    (g.add node).2.kind y = if y = ⟨g.nodes.size⟩ then node.kind else g.kind y := by
  split
  · rename_i hy
    rw [hy, kind_add_self]
  · rename_i hy
    rcases Nat.lt_or_ge y.index g.nodes.size with hlt | hge
    · exact kind_add_of_lt g node hlt
    · have hne : y.index ≠ g.nodes.size := fun h => hy (by cases y; simp_all)
      rw [Forest.kind, Forest.kind, get_of_size_le hge, get_of_size_le (by rw [size_add]; omega)]

theorem children_add_eq (g : Forest) {node : Node} (hn : node.children = #[]) (y : NodeId) :
    (g.add node).2.children y = g.children y := by
  rw [children_add g hn]
  split
  · rfl
  · exact (children_of_size_le (by omega)).symm

theorem parent?_add_eq (g : Forest) {node : Node} (hn : node.parent = none) (y : NodeId) :
    (g.add node).2.parent? y = g.parent? y := by
  rcases Nat.lt_or_ge y.index g.nodes.size with hlt | hge
  · exact parent?_add_of_lt g node hlt
  · rw [parent?_of_size_le hge]
    by_cases hy : y = ⟨g.nodes.size⟩
    · rw [hy, parent?_add_self, hn]
    · have hne : y.index ≠ g.nodes.size := fun h => hy (by cases y; simp_all)
      exact parent?_of_size_le (by rw [size_add]; omega)

/-- Halfway through merging the texts `sources` into `e`: `g` is `f` with the first `k` of them
copied to new texts under `e`, the texts among `P` taken out, and `L` as the children of `e`. -/
structure Merging (f : Forest) (e : NodeId) (sources : List NodeId) (debug : Bool)
    (P : List NodeId) (k : Nat) (L : List NodeId) (g : Forest) : Prop where
  wf : g.WellFormed
  size : g.nodes.size = f.nodes.size + k
  kind : ∀ y : NodeId, g.kind y =
    if f.nodes.size ≤ y.index ∧ y.index < f.nodes.size + k then
      .string .text (copiedText f debug (sources.getD (y.index - f.nodes.size) default))
    else f.kind y
  parent : ∀ y : NodeId, g.parent? y =
    if f.nodes.size ≤ y.index ∧ y.index < f.nodes.size + k then some e
    else if y ∈ P ∧ f.isText y = true then none else f.parent? y
  children : ∀ y : NodeId, g.children y = if y = e then L else f.children y

section Merge

variable {f g : Forest} {e : NodeId} {sources : List NodeId} {debug : Bool} {P : List NodeId}
  {k : Nat} {L : List NodeId}

theorem merging_start (hf : f.WellFormed) : Merging f e sources debug [] 0 (f.children e) f where
  wf := hf
  size := rfl
  kind y := by rw [if_neg (by omega)]
  parent y := by simp
  children y := by split <;> simp_all

theorem Merging.kind_old (hm : Merging f e sources debug P k L g) {y : NodeId}
    (hy : y.index < f.nodes.size) : g.kind y = f.kind y := by
  rw [hm.kind, if_neg (by omega)]

theorem Merging.parent_old (hm : Merging f e sources debug P k L g) {y : NodeId}
    (hy : y.index < f.nodes.size) (hP : y ∉ P) : g.parent? y = f.parent? y := by
  rw [hm.parent, if_neg (by omega), if_neg (by simp [hP])]

theorem Merging.keep (hm : Merging f e sources debug P k L g) {c : NodeId}
    (hc : f.isText c = false) : Merging f e sources debug (P ++ [c]) k L g :=
  { hm with
    parent := fun y => by
      rw [hm.parent]
      by_cases hyc : y = c
      · subst hyc
        simp [hc]
      · simp [hyc] }

theorem Merging.detach {A B : List NodeId} {c : NodeId}
    (hm : Merging f e sources debug P k (A ++ c :: B) g) (hc : f.isText c = true) (hce : f.parent? c = some e) (hcP : c ∉ P) :
    Merging f e sources debug (P ++ [c]) k (A ++ B) (g.detach c) := by
  have hcv : c.index < f.nodes.size := index_lt_of_parent? hce
  have hge : g.parent? c = some e := by rw [hm.parent_old hcv hcP, hce]
  have hl : g.children e = A ++ c :: B := by rw [hm.children, if_pos rfl]
  have hnd := hm.wf.nodup e
  rw [hl, List.nodup_append] at hnd
  have hcA : c ∉ A := fun h => hnd.2.2 c h c List.mem_cons_self rfl
  have hcB : c ∉ B := (List.nodup_cons.mp hnd.2.1).1
  have hch := children_detach_split hge hl hcA hcB
  refine ⟨hm.wf.detach c, by rw [size_detach, hm.size], fun y => ?_, fun y => ?_, fun y => ?_⟩
  · rw [kind_detach, hm.kind]
  · by_cases hyc : y = c
    · subst hyc
      rw [parent?_detach_self, if_neg (by omega)]
      simp [hc]
    · rw [parent?_detach_of_ne _ hyc, hm.parent]
      simp [hyc]
  · rw [hch, hm.children]
    split <;> rfl

theorem Merging.place (hm : Merging f e sources debug P k L g) {g' : Forest} {L' : List NodeId}
    (hwf : g'.WellFormed) (hsize : g'.nodes.size = g.nodes.size + 1)
    (hkind : ∀ y, g'.kind y = if y = ⟨g.nodes.size⟩ then
      .string .text (copiedText f debug (sources.getD k default)) else g.kind y)
    (hpar : ∀ y, g'.parent? y = if y = ⟨g.nodes.size⟩ then some e else g.parent? y)
    (hch : ∀ y, g'.children y = if y = e then L' else g.children y) :
    Merging f e sources debug P (k + 1) L' g' := by
  have hs := hm.size
  refine ⟨hwf, by omega, fun y => ?_, fun y => ?_, fun y => ?_⟩
  · rw [hkind]
    by_cases hy : y = ⟨g.nodes.size⟩
    · subst hy
      rw [if_pos rfl, if_pos (by simp only; omega)]
      simp only [hs, Nat.add_sub_cancel_left]
    · have hne : y.index ≠ g.nodes.size := fun h => hy (by cases y; simp_all)
      have hiff : (f.nodes.size ≤ y.index ∧ y.index < f.nodes.size + (k + 1)) ↔
          (f.nodes.size ≤ y.index ∧ y.index < f.nodes.size + k) := by omega
      rw [if_neg hy, hm.kind]
      simp only [hiff]
  · rw [hpar]
    by_cases hy : y = ⟨g.nodes.size⟩
    · subst hy
      rw [if_pos rfl, if_pos (by simp only; omega)]
    · have hne : y.index ≠ g.nodes.size := fun h => hy (by cases y; simp_all)
      have hiff : (f.nodes.size ≤ y.index ∧ y.index < f.nodes.size + (k + 1)) ↔
          (f.nodes.size ≤ y.index ∧ y.index < f.nodes.size + k) := by omega
      rw [if_neg hy, hm.parent]
      simp only [hiff]
  · rw [hch, hm.children]
    split <;> rfl

def textNode (f : Forest) (sources : List NodeId) (debug : Bool) (k : Nat) : Node :=
  ⟨.string .text (copiedText f debug (sources.getD k default)), none, #[]⟩

theorem Merging.insertBefore {A B : List NodeId} {c : NodeId}
    (hm : Merging f e sources debug P k (A ++ c :: B) g) (he : e.index < f.nodes.size)
    (hc : g.parent? c = some e) (hcA : c ∉ A) :
    Merging f e sources debug P (k + 1) (A ++ ⟨g.nodes.size⟩ :: c :: B)
      ((g.add (textNode f sources debug k)).2.insertBefore c ⟨g.nodes.size⟩) := by
  set g₁ := (g.add (textNode f sources debug k)).2
  have hf₁ : g₁.WellFormed := hm.wf.add rfl rfl
  have hrv : (⟨g.nodes.size⟩ : NodeId).index < g₁.nodes.size := by simp [g₁, size_add]
  have hr₁ : g₁.parent? ⟨g.nodes.size⟩ = none := parent?_add_self g _
  have heg : e.index < g.nodes.size := by have := hm.size; omega
  have hre : (⟨g.nodes.size⟩ : NodeId) ≠ e := fun h => by rw [← h] at heg; simp at heg
  have hc₁ : g₁.parent? c = some e := by rw [parent?_add_eq g rfl, hc]
  have hl₁ : g₁.children e = A ++ c :: B := by
    rw [children_add_eq g rfl, hm.children, if_pos rfl]
  refine hm.place (hf₁.insertBefore hc₁ hr₁ hrv heg) (by rw [size_insertBefore, size_add])
    (fun y => by rw [kind_insertBefore, kind_add_eq]; rfl)
    (fun y => by rw [parent?_insertBefore hc₁ hr₁ hrv, parent?_add_eq g rfl]) (fun y => ?_)
  rw [children_insertBefore hf₁ hc₁ hl₁ hcA hr₁ hre, children_add_eq g rfl]

theorem Merging.insertAfter {A B : List NodeId} {l : NodeId}
    (hm : Merging f e sources debug P k (A ++ l :: B) g) (he : e.index < f.nodes.size)
    (hl : g.parent? l = some e) (hlA : l ∉ A) :
    Merging f e sources debug P (k + 1) (A ++ l :: ⟨g.nodes.size⟩ :: B)
      ((g.add (textNode f sources debug k)).2.insertAfter l ⟨g.nodes.size⟩) := by
  set g₁ := (g.add (textNode f sources debug k)).2
  have hf₁ : g₁.WellFormed := hm.wf.add rfl rfl
  have hrv : (⟨g.nodes.size⟩ : NodeId).index < g₁.nodes.size := by simp [g₁, size_add]
  have hr₁ : g₁.parent? ⟨g.nodes.size⟩ = none := parent?_add_self g _
  have heg : e.index < g.nodes.size := by have := hm.size; omega
  have hre : (⟨g.nodes.size⟩ : NodeId) ≠ e := fun h => by rw [← h] at heg; simp at heg
  have hl₁ : g₁.parent? l = some e := by rw [parent?_add_eq g rfl, hl]
  have hL₁ : g₁.children e = A ++ l :: B := by
    rw [children_add_eq g rfl, hm.children, if_pos rfl]
  refine hm.place (hf₁.insertAfter hl₁ hr₁ hrv heg) (by rw [size_insertAfter, size_add])
    (fun y => by rw [kind_insertAfter, kind_add_eq]; rfl)
    (fun y => by rw [parent?_insertAfter hl₁ hr₁ hrv, parent?_add_eq g rfl]) (fun y => ?_)
  rw [children_insertAfter hf₁ hl₁ hL₁ hlA hr₁ hre, children_add_eq g rfl]

theorem Merging.appendChild (hm : Merging f e sources debug P k L g) (he : e.index < f.nodes.size) :
    Merging f e sources debug P (k + 1) (L ++ [⟨g.nodes.size⟩])
      ((g.add (textNode f sources debug k)).2.appendChild e ⟨g.nodes.size⟩) := by
  set g₁ := (g.add (textNode f sources debug k)).2
  have hf₁ : g₁.WellFormed := hm.wf.add rfl rfl
  have hrv : (⟨g.nodes.size⟩ : NodeId).index < g₁.nodes.size := by simp [g₁, size_add]
  have hr₁ : g₁.parent? ⟨g.nodes.size⟩ = none := parent?_add_self g _
  have heg : e.index < g.nodes.size := by have := hm.size; omega
  have he₁ : e.index < g₁.nodes.size := by simp only [g₁, size_add]; omega
  have hre : (⟨g.nodes.size⟩ : NodeId) ≠ e := fun h => by rw [← h] at heg; simp at heg
  have hL₁ : g₁.children e = L := by rw [children_add_eq g rfl, hm.children, if_pos rfl]
  have hpos : (g₁.get e).children.size = (g₁.children e).length := by simp [Forest.children]
  refine hm.place (hf₁.insertChild _ hr₁ hrv he₁ heg) (by rw [Forest.appendChild, size_insertChild, size_add])
    (fun y => by rw [Forest.appendChild, kind_insertChild, kind_add_eq]; rfl)
    (fun y => by rw [Forest.appendChild, parent?_insertChild_of_parent?_eq_none _ hrv,
      parent?_add_eq g rfl]) (fun y => ?_)
  rw [Forest.appendChild, children_insertChild_of_parent?_eq_none _ hr₁ hre he₁, hpos, hL₁,
    List.take_length, List.drop_length, children_add_eq g rfl]

end Merge

/-! ## The two passes -/

def newTexts (f : Forest) (sources : List NodeId) : List NodeId :=
  (List.range sources.length).map (newText f)

/-- Where the first pass stands after the children `P` of `e`, with `Q` still to come: the copies
made so far are those of the first `P.countP isText` sources that exist, the sources left are the
rest, and the last copy placed is the last one made. -/
def Swapping (f : Forest) (e : NodeId) (sources : List NodeId) (debug : Bool) (P Q : List NodeId)
    (acc : Forest × List NodeId × Option NodeId) : Prop :=
  Merging f e sources debug P (min (P.countP f.isText) sources.length)
      (swapTexts f.isText P (newTexts f sources) ++ Q) acc.1 ∧
    acc.2.1 = sources.drop (P.countP f.isText) ∧
    acc.2.2 = if min (P.countP f.isText) sources.length = 0 then none
      else some (newText f (min (P.countP f.isText) sources.length - 1))

section Passes

variable {f : Forest} {e : NodeId} {sources : List NodeId} {debug : Bool}

theorem getElem_newTexts {j : Nat} (hj : j < (newTexts f sources).length) :
    (newTexts f sources)[j] = newText f j := by
  simp [newTexts]

theorem length_newTexts : (newTexts f sources).length = sources.length := by simp [newTexts]

theorem newText_not_old {j : Nat} {y : NodeId} (hy : y.index < f.nodes.size) : newText f j ≠ y := by
  intro h
  rw [← h, newText] at hy
  simp at hy

theorem not_mem_newTexts {y : NodeId} (hy : y.index < f.nodes.size) : y ∉ newTexts f sources := by
  simp only [newTexts, List.mem_map, List.mem_range, not_exists, not_and]
  exact fun j _ => newText_not_old hy

theorem Merging.textNode_eq {g : Forest} {P : List NodeId} {k : Nat} {L : List NodeId}
    (hm : Merging f e sources debug P k L g) {s : NodeId} (hs : s.index < f.nodes.size)
    (hk : sources.getD k default = s) :
    ((⟨.string .text (copiedText g debug s), none, #[]⟩ : Node)) = textNode f sources debug k := by
  have hc : copiedText g debug s = copiedText f debug s := by
    simp only [copiedText, stringContent?, hm.kind_old hs]
  rw [hc, textNode, hk]

theorem swapping_start (hf : f.WellFormed) :
    Swapping f e sources debug [] (f.children e) (f, sources, none) :=
  ⟨by simpa [swapTexts] using merging_start hf, by simp, by simp⟩

theorem Swapping.step (hf : f.WellFormed) (he : e.index < f.nodes.size)
    (hsrc : ∀ s ∈ sources, s.index < f.nodes.size) {P Q : List NodeId} {c : NodeId}
    (hPQ : P ++ c :: Q = f.children e) {acc : Forest × List NodeId × Option NodeId}
    (h : Swapping f e sources debug P (c :: Q) acc) :
    Swapping f e sources debug (P ++ [c]) Q (replaceTextStep debug acc c) := by
  obtain ⟨g, rest, last⟩ := acc
  obtain ⟨hm, hrest, hlast⟩ := h
  dsimp only at hm hrest hlast
  have hcmem : c ∈ f.children e := by rw [← hPQ]; simp
  have hce : f.parent? c = some e := hf.linked e c hcmem
  have hcv : c.index < f.nodes.size := index_lt_of_parent? hce
  have hcP : c ∉ P := by
    have hnd := hf.nodup e
    rw [← hPQ, List.nodup_append] at hnd
    exact fun h => hnd.2.2 c h c List.mem_cons_self rfl
  have hgt : g.isText c = f.isText c := by simp only [isText, hm.kind_old hcv]
  set ns := newTexts f sources
  set A := swapTexts f.isText P ns
  have hcA : c ∉ A := fun h => by
    rcases mem_swapTexts f.isText h with h | h
    · exact hcP h
    · exact not_mem_newTexts hcv h
  have hswap : swapTexts f.isText (P ++ [c]) ns =
      A ++ (if f.isText c then (ns.drop (P.countP f.isText)).take 1 else [c]) := by
    rw [swapTexts_append]
    simp only [swapTexts]
    split <;> simp [A]
  cases htc : f.isText c with
  | false =>
    have hstep : replaceTextStep debug (g, rest, last) c = (g, rest, last) := by
      simp [replaceTextStep, hgt, htc]
    rw [hstep]
    have hcount : (P ++ [c]).countP f.isText = P.countP f.isText := by simp [htc]
    refine ⟨?_, by rw [hcount]; exact hrest, by rw [hcount]; exact hlast⟩
    rw [hcount, hswap, if_neg (by simp [htc]), List.append_assoc, List.singleton_append]
    exact hm.keep htc
  | true =>
    have hcount : (P ++ [c]).countP f.isText = P.countP f.isText + 1 := by simp [htc]
    rcases rest with _ | ⟨s, rest'⟩
    · -- no source text is left: the text is taken out
      have hstep : replaceTextStep debug (g, [], last) c = (g.detach c, [], last) := by
        simp [replaceTextStep, hgt, htc]
      rw [hstep]
      have hle : sources.length ≤ P.countP f.isText := by
        have := congrArg List.length hrest
        simp at this
        omega
      have hk : min (P.countP f.isText + 1) sources.length = min (P.countP f.isText) sources.length := by
        omega
      have hnil : (ns.drop (P.countP f.isText)).take 1 = [] := by
        simp [ns, length_newTexts, hle]
      refine ⟨?_, ?_, by rw [hcount, hk]; exact hlast⟩
      · rw [hcount, hk, hswap, if_pos htc, hnil, List.append_nil]
        exact hm.detach htc hce hcP
      · rw [hcount]
        simp [← List.drop_drop, ← hrest]
    · -- the next source text takes the place of the text
      have hlt : P.countP f.isText < sources.length := by
        have := congrArg List.length hrest
        simp at this
        omega
      set k := P.countP f.isText
      have hmin : min k sources.length = k := by omega
      have hs : sources.getD k default = s := by
        have := congrArg List.head? hrest
        simp only [List.head?_cons, List.head?_drop] at this
        rw [List.getD_eq_getElem?_getD, ← this]
        rfl
      have hsv : s.index < f.nodes.size := hsrc s (by rw [← hs]; simp [List.getD_eq_getElem?_getD, hlt])
      have hg : g.nodes.size = f.nodes.size + k := by rw [hm.size, hmin]
      rw [hmin] at hm
      have hstep : replaceTextStep debug (g, s :: rest', last) c =
          (((g.add (textNode f sources debug k)).2.insertBefore c ⟨g.nodes.size⟩).detach c, rest',
            some ⟨g.nodes.size⟩) := by
        simp only [replaceTextStep, hgt, htc, Bool.not_true, Bool.false_eq_true, if_false,
          copyText_eq, ← hm.textNode_eq hsv hs]
      rw [hstep]
      have hgc : g.parent? c = some e := by rw [hm.parent_old hcv hcP, hce]
      have h₁ := hm.insertBefore he hgc hcA
      rw [List.append_cons A ⟨g.nodes.size⟩ (c :: Q)] at h₁
      have h₂ := h₁.detach htc hce hcP
      have hnew : (ns.drop k).take 1 = [⟨g.nodes.size⟩] := by
        rw [List.take_one_drop_eq_of_lt_length (by simpa [ns, length_newTexts] using hlt),
          List.get_eq_getElem, getElem_newTexts, newText, hg]
      refine ⟨?_, ?_, ?_⟩
      · rw [hcount, show min (k + 1) sources.length = k + 1 by omega, hswap, if_pos htc, hnew]
        simpa using h₂
      · rw [hcount]
        have := congrArg List.tail hrest
        simpa [List.tail_drop] using this
      · rw [hcount, show min (k + 1) sources.length = k + 1 by omega, if_neg (by omega),
          Nat.add_sub_cancel, newText, hg]

theorem Swapping.foldl (hf : f.WellFormed) (he : e.index < f.nodes.size)
    (hsrc : ∀ s ∈ sources, s.index < f.nodes.size) :
    ∀ (Q P : List NodeId) (acc : Forest × List NodeId × Option NodeId), P ++ Q = f.children e →
      Swapping f e sources debug P Q acc →
      Swapping f e sources debug (f.children e) [] (Q.foldl (replaceTextStep debug) acc)
  | [], P, acc, hPQ, h => by
    rw [List.append_nil] at hPQ
    rw [List.foldl_nil, ← hPQ]
    exact h
  | c :: Q, P, acc, hPQ, h =>
    Swapping.foldl hf he hsrc Q (P ++ [c]) _ (by rw [← hPQ]; simp) (h.step hf he hsrc hPQ)

theorem appending_foldl {C : List NodeId} (he : e.index < f.nodes.size)
    (hsrc : ∀ s ∈ sources, s.index < f.nodes.size) :
    ∀ (rest : List NodeId) (k : Nat) (A B : List NodeId) (l : NodeId) (g : Forest),
      Merging f e sources debug C k (A ++ l :: B) g → rest = sources.drop k → k ≤ sources.length →
      Merging f e sources debug C sources.length (A ++ l :: (newTexts f sources).drop k ++ B)
        (rest.foldl (appendTextStep e debug) (g, some l)).1
  | [], k, A, B, l, g, hm, hrest, hk => by
    have hle : sources.length ≤ k := by
      have := congrArg List.length hrest
      simp at this
      omega
    have hkm : k = sources.length := by omega
    subst hkm
    have hnil : (newTexts f sources).drop sources.length = [] :=
      List.drop_eq_nil_of_le (by rw [length_newTexts])
    rw [List.foldl_nil, hnil]
    simpa using hm
  | s :: rest, k, A, B, l, g, hm, hrest, hk => by
    have hlt : k < sources.length := by
      have := congrArg List.length hrest
      simp at this
      omega
    have hs : sources.getD k default = s := by
      have := congrArg List.head? hrest
      simp only [List.head?_cons, List.head?_drop] at this
      rw [List.getD_eq_getElem?_getD, ← this]
      rfl
    have hsv : s.index < f.nodes.size := hsrc s (by rw [← hs]; simp [List.getD_eq_getElem?_getD, hlt])
    have hmem : l ∈ g.children e := by rw [hm.children, if_pos rfl]; simp
    have hl : g.parent? l = some e := hm.wf.linked e l hmem
    have hlA : l ∉ A := by
      have hnd := hm.wf.nodup e
      rw [hm.children, if_pos rfl, List.nodup_append] at hnd
      exact fun h => hnd.2.2 l h l List.mem_cons_self rfl
    have hstep : appendTextStep e debug (g, some l) s =
        ((g.add (textNode f sources debug k)).2.insertAfter l ⟨g.nodes.size⟩, some ⟨g.nodes.size⟩) := by
      simp only [appendTextStep, copyText_eq, ← hm.textNode_eq hsv hs]
    have h₁ := hm.insertAfter he hl hlA
    rw [← List.singleton_append, ← List.append_assoc] at h₁
    have hrest' : rest = sources.drop (k + 1) := by
      have := congrArg List.tail hrest
      simpa [List.tail_drop] using this
    have h₂ := appending_foldl he hsrc rest (k + 1) (A ++ [l]) B ⟨g.nodes.size⟩ _ h₁ hrest' hlt
    rw [List.foldl_cons, hstep]
    have hdrop : (newTexts f sources).drop k = ⟨g.nodes.size⟩ :: (newTexts f sources).drop (k + 1) := by
      rw [List.drop_eq_getElem_cons (by simpa [length_newTexts] using hlt), getElem_newTexts, newText,
        hm.size]
    rw [hdrop]
    simpa using h₂

theorem merging_mergeTexts (hf : f.WellFormed) (he : e.index < f.nodes.size) (x : NodeId)
    (debug : Bool) :
    Merging f e ((f.children x).filter f.isText) debug (f.children e)
      ((f.children x).filter f.isText).length
      (placeTexts f.isText (f.children e) (newTexts f ((f.children x).filter f.isText)))
      (mergeTexts f e x debug) := by
  unfold mergeTexts
  dsimp only
  set sources := (f.children x).filter f.isText
  have hsrc : ∀ s ∈ sources, s.index < f.nodes.size :=
    fun s hs => hf.index_lt_of_mem_children (List.mem_of_mem_filter hs)
  set C := f.children e with hCdef
  set ns := newTexts f sources
  have hns : ns.length = sources.length := length_newTexts
  have h₁ : Swapping f e sources debug C [] (C.foldl (replaceTextStep debug) (f, sources, none)) :=
    Swapping.foldl hf he hsrc C [] (f, sources, none) rfl (swapping_start hf)
  generalize C.foldl (replaceTextStep debug) (f, sources, none) = acc at h₁ ⊢
  obtain ⟨g, rest, last⟩ := acc
  obtain ⟨hm, hrest, hlast⟩ := h₁
  dsimp only at hm hrest hlast ⊢
  rw [List.append_nil] at hm
  by_cases hT : C.countP f.isText = 0
  · -- no text in `e`: every copy goes at the end
    have hno : ∀ c ∈ C, f.isText c = false := by simpa [List.countP_eq_zero] using hT
    rw [hT, Nat.zero_min, swapTexts_of_forall _ hno] at hm
    rw [hT, Nat.zero_min, if_pos rfl] at hlast
    rw [hT, List.drop_zero] at hrest
    rw [placeTexts_of_forall _ hno, hlast]
    rcases rest with _ | ⟨s, rest'⟩
    · have hnil : sources = [] := hrest.symm
      simpa [hnil, ns, newTexts] using hm
    · have hs : sources.getD 0 default = s := by simp [← hrest]
      have hsv : s.index < f.nodes.size := hsrc s (by simp [← hrest])
      have hstep : appendTextStep e debug (g, none) s =
          ((g.add (textNode f sources debug 0)).2.appendChild e ⟨g.nodes.size⟩, some ⟨g.nodes.size⟩) := by
        simp only [appendTextStep, copyText_eq, ← hm.textNode_eq hsv hs]
      have h₂ := hm.appendChild he
      rw [← List.append_nil (C ++ _), List.append_assoc] at h₂
      have h₃ := appending_foldl he hsrc rest' 1 C [] ⟨g.nodes.size⟩ _ h₂
        (by rw [← hrest]; rfl) (by rw [← hrest]; simp)
      rw [List.foldl_cons, hstep]
      have h0 : 0 < ns.length := by rw [hns, ← hrest]; simp
      have hdrop : ns = ⟨g.nodes.size⟩ :: ns.drop 1 := by
        calc ns = ns.drop 0 := rfl
          _ = ns[0] :: ns.drop 1 := List.drop_eq_getElem_cons h0
          _ = _ := by rw [getElem_newTexts, newText, hm.size]
      rw [hdrop]
      simpa using h₃
  · -- the copies left over follow the one in the place of the last text
    obtain ⟨P, u, Q, hC, hu, hQ⟩ := exists_last_text f.isText
      (by simpa [List.countP_eq_zero] using hT)
    have hQ0 : Q.countP f.isText = 0 := List.countP_eq_zero.mpr (by simpa using hQ)
    have hcP : C.countP f.isText = P.countP f.isText + 1 := by
      rw [hC, List.countP_append, List.countP_cons_of_pos hu, hQ0]
    have hsw : swapTexts f.isText C ns =
        swapTexts f.isText P ns ++ (ns.drop (P.countP f.isText)).take 1 ++ Q := by
      rw [hC, swapTexts_append]
      simp [swapTexts, hu, swapTexts_of_forall _ hQ]
    rw [hsw] at hm
    rw [hC, placeTexts_last _ hu hQ, ← hC]
    rcases rest with _ | ⟨s, rest'⟩
    · -- no copy is left over
      have hle : sources.length ≤ C.countP f.isText := by
        have := congrArg List.length hrest
        simp at this
        omega
      rw [show min (C.countP f.isText) sources.length = sources.length by omega] at hm
      have htake : (ns.drop (P.countP f.isText)).take 1 = ns.drop (P.countP f.isText) :=
        List.take_of_length_le (by simp [hns]; omega)
      rw [htake] at hm
      exact hm
    · have hlt : C.countP f.isText < sources.length := by
        have := congrArg List.length hrest
        simp at this
        omega
      rw [show min (C.countP f.isText) sources.length = C.countP f.isText by omega] at hm hlast
      rw [if_neg hT, hcP, Nat.add_sub_cancel] at hlast
      have hl : ns.drop (P.countP f.isText) =
          newText f (P.countP f.isText) :: ns.drop (C.countP f.isText) := by
        rw [List.drop_eq_getElem_cons (by omega), getElem_newTexts, hcP]
      rw [hl, List.take_succ_cons, List.take_zero, List.append_assoc, List.singleton_append] at hm
      rw [hlast, hl, List.append_assoc, List.cons_append]
      have h₂ := appending_foldl he hsrc _ _ _ Q _ g hm hrest (by omega)
      rwa [List.append_assoc, List.cons_append] at h₂

end Passes

/-! ## The merge -/

/-- Merging the texts of `x` into the element `e` replaces the texts of `e` by position: the
children of `e` become those `placeTexts` gives, so that its texts are exactly the new ones, in
order, and its other children are the old ones, in order; the `j`-th new node is a plain text holding the `j`-th text of `x` (collapsed unless
debugging) under `e`; and every other node keeps its kind, its children and, unless it is a text
of `e` (which is taken out), its parent. So `x`, unless it is `e` or one of its texts, is left as
it was. -/
theorem mergeTexts_places_texts {f : Forest} (hf : f.WellFormed) {e : NodeId}
    (he : f.isElement e = true) (x : NodeId) (debug : Bool) :
    let sources := (f.children x).filter f.isText
    let g := mergeTexts f e x debug
    g.children e = placeTexts f.isText (f.children e) (newTexts f sources) ∧
    (g.children e).filter g.isText = newTexts f sources ∧
    (g.children e).filter (fun c => !g.isText c) = (f.children e).filter (fun c => !f.isText c) ∧
    (∀ j (hj : j < sources.length), g.kind (newText f j) = .string .text (copiedText f debug sources[j]) ∧
      g.parent? (newText f j) = some e ∧ g.children (newText f j) = []) ∧
    g.nodes.size = f.nodes.size + sources.length ∧
    (∀ y : NodeId, y.index < f.nodes.size → g.kind y = f.kind y ∧
      g.parent? y = (if y ∈ f.children e ∧ f.isText y = true then none else f.parent? y) ∧
      (y ≠ e → g.children y = f.children y)) ∧
    (x ≠ e → f.isText x = false →
      g.kind x = f.kind x ∧ g.parent? x = f.parent? x ∧ g.children x = f.children x) := by
  intro sources g
  have hev := index_lt_of_isElement he
  have hm : Merging f e sources debug (f.children e) sources.length
      (placeTexts f.isText (f.children e) (newTexts f sources)) g := merging_mergeTexts hf hev x debug
  have hnew : ∀ j, j < sources.length → f.nodes.size ≤ (newText f j).index ∧
      (newText f j).index < f.nodes.size + sources.length := fun j hj => by simp [newText]; omega
  have hold : ∀ y : NodeId, ¬(f.nodes.size ≤ y.index ∧ y.index < f.nodes.size + sources.length) →
      g.kind y = f.kind y ∧
        g.parent? y = (if y ∈ f.children e ∧ f.isText y = true then none else f.parent? y) := by
    intro y hy
    exact ⟨by rw [hm.kind, if_neg hy], by rw [hm.parent, if_neg hy]⟩
  have htext : ∀ c ∈ f.children e, g.isText c = f.isText c := fun c hc => by
    have hcv := hf.index_lt_of_mem_children hc
    simp [isText, (hold c (by omega)).1]
  have hnewText : ∀ n ∈ newTexts f sources, g.isText n = true := fun n hn => by
    obtain ⟨j, hj, rfl⟩ := List.mem_map.mp hn
    rw [List.mem_range] at hj
    simp only [isText, hm.kind, if_pos (hnew j hj)]
    rfl
  refine ⟨by rw [hm.children, if_pos rfl], ?_, ?_, fun j hj => ?_, hm.size, fun y hy => ?_, ?_⟩
  · rw [hm.children, if_pos rfl]
    exact filter_placeTexts _ _ hnewText (fun c hc hct => by rwa [htext c hc])
  · rw [hm.children, if_pos rfl, filter_placeTexts_of_text _ _ (fun n hn => by simp [hnewText n hn])
      (fun c hc hct => by simp [htext c hc, hct])]
    exact List.filter_congr (fun c hc => by rw [htext c hc])
  · refine ⟨?_, ?_, ?_⟩
    · rw [hm.kind, if_pos (hnew j hj)]
      simp [newText, List.getD_eq_getElem?_getD, hj]
    · rw [hm.parent, if_pos (hnew j hj)]
    · rw [hm.children, if_neg (fun h => by rw [← h] at hev; simp [newText] at hev),
        children_of_size_le (by simp [newText])]
  · obtain ⟨hk, hp⟩ := hold y (by omega)
    exact ⟨hk, hp, fun hye => by rw [hm.children, if_neg hye]⟩
  · intro hxe hxt
    -- a node with texts under it is a node of `f`, so it is not new
    have hx : ¬(f.nodes.size ≤ x.index ∧ x.index < f.nodes.size + sources.length) := by
      rintro ⟨hle, hlt⟩
      have hnil : sources = [] := by simp [sources, children_of_size_le hle]
      rw [hnil] at hlt
      simp at hlt
      omega
    obtain ⟨hk, hp⟩ := hold x hx
    refine ⟨hk, by rw [hp, if_neg (by simp [hxt])], by rw [hm.children, if_neg hxe]⟩

def textForest : Forest := ⟨#[
  ⟨.document, none, #[⟨1⟩, ⟨5⟩]⟩,
  ⟨.element "p" [] true, some ⟨0⟩, #[⟨2⟩, ⟨3⟩, ⟨4⟩]⟩,
  ⟨.string .text "a", some ⟨1⟩, #[]⟩,
  ⟨.element "b" [] true, some ⟨1⟩, #[]⟩,
  ⟨.string .text "c", some ⟨1⟩, #[]⟩,
  ⟨.element "i" [] true, some ⟨0⟩, #[⟨6⟩]⟩,
  ⟨.string .text "x  y", some ⟨5⟩, #[]⟩]⟩

/-- The text of `<i>` takes the place of the first text of `<p>`, and the second one is taken out. -/
theorem mergeTexts_paragraph :
    textForest.WellFormed ∧ textForest.isElement ⟨1⟩ = true ∧
      (mergeTexts textForest ⟨1⟩ ⟨5⟩ false).children ⟨1⟩ =
        placeTexts textForest.isText (textForest.children ⟨1⟩)
          (newTexts textForest ((textForest.children ⟨5⟩).filter textForest.isText)) := by
  have hwf : textForest.WellFormed := wellFormed_of_lt (by decide)
  have he : textForest.isElement ⟨1⟩ = true := by decide
  exact ⟨hwf, he, (mergeTexts_places_texts hwf he ⟨5⟩ false).1⟩

example : placeTexts textForest.isText (textForest.children ⟨1⟩)
    (newTexts textForest ((textForest.children ⟨5⟩).filter textForest.isText)) = [⟨7⟩, ⟨3⟩] := by
  decide

end Stencil.Template

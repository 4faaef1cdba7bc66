import Mathlib
import Stencil.Proofs.Markup.Shapes
import Stencil.Proofs.Text.Collapse
import Stencil.Template.Compress
/-!
# Compacting a template

Unless debugging, a rendering compresses each template node it reaches (`compress`): a comment
is taken out, and under an element or document whose white space does not matter (`tidies`)
each text that collapsing changes is replaced by a new plain text (`collapsedChild?`). Once every
node of a subtree has been compressed, the subtree has its compact shape (`compactWithin`): no
comments, and the texts under tidy nodes collapsed. The order does not matter, and neither does
compressing a node twice, since collapsing twice is collapsing once (`collapseLayout_idem`).

* `compactWithin`, `compactedWithin` : a subtree compacted, and a tree with one subtree compacted.
* `Collapsed`, `collapsed_compress` : compressing a tidy node replaces the texts that collapsing
  changes, and nothing else.
* `Compacted`, `Compacted.compress` : a template with some of its nodes compressed, and with one
  more.
* `Compacted.shapeWithin_eq_compactedWithin` : the shape of a tree once the nodes of one of its
  subtrees are all compressed.
-/

namespace Stencil.Template

open Stencil.Markup Stencil.Text Forest

/-! ## The compact shape -/

/-- The nodes whose texts compressing collapses: elements and documents whose white space does
not matter. -/
def tidies (f : Forest) (n : NodeId) : Bool :=
  (f.isElement n || f.isDocument n) && !sensitiveTags.contains (lowerText (f.tagName n))

/-- The text that compressing `n` puts in place of its child `c`: the collapsed text, when `n`
tidies and collapsing changes the text `c`. -/
def collapsedChild? (f : Forest) (n c : NodeId) : Option String :=
  if tidies f n && f.isText c then
    if collapseLayout ((f.stringContent? c).getD "") = (f.stringContent? c).getD "" then none
    else some (collapseLayout ((f.stringContent? c).getD ""))
  else none

/-- The shape of the subtree under `n` compacted, cut off below `fuel` levels: no comments, and
under a tidy node each text that collapsing changes is a plain text, collapsed. -/
def compactWithin (f : Forest) : Nat → NodeId → Shape
  | 0, n => .node (f.kind n) []
  | fuel + 1, n => .node (f.kind n) (((f.children n).filter fun c => !f.isComment c).map fun c =>
      match collapsedChild? f n c with
      | some t => .node (.string .text t) []
      | none => compactWithin f fuel c)

/-- The shape under `n` with the subtree of `target` compacted, cut off below `fuel` levels. -/
def compactedWithin (f : Forest) (target : NodeId) : Nat → NodeId → Shape
  | 0, n => .node (f.kind n) []
  | fuel + 1, n =>
    if n = target then compactWithin f (fuel + 1) n
    else .node (f.kind n) ((f.children n).map (compactedWithin f target fuel))

def compactedShape (f : Forest) (target n : NodeId) : Shape :=
  compactedWithin f target f.depthBound n

section Kinds

variable {f g : Forest}

theorem isText_of_size_le {y : NodeId} (hy : f.nodes.size ≤ y.index) : f.isText y = true := by
  simp [isText, kind, Forest.get, hy]
  rfl

theorem isText_congr {c : NodeId} (h : g.kind c = f.kind c) : g.isText c = f.isText c := by
  simp only [isText, h]

theorem isComment_congr {c : NodeId} (h : g.kind c = f.kind c) : g.isComment c = f.isComment c := by
  simp only [isComment, h]

theorem tidies_congr {n : NodeId} (h : g.kind n = f.kind n) : tidies g n = tidies f n := by
  simp only [tidies, isElement, isDocument, tagName, name?, h]

theorem collapsedChild?_congr {n c : NodeId} (hn : g.kind n = f.kind n) (hc : g.kind c = f.kind c) :
    collapsedChild? g n c = collapsedChild? f n c := by
  unfold collapsedChild? stringContent?
  rw [tidies_congr hn, isText_congr hc, hc]

theorem kind_add_of_lt (f : Forest) (node : Node) {m : NodeId} (hm : m.index < f.nodes.size) :
    (f.add node).2.kind m = f.kind m := by
  simp only [Forest.kind, get_add_of_lt f node hm]

theorem kind_add_self (f : Forest) (node : Node) : (f.add node).2.kind ⟨f.nodes.size⟩ = node.kind :=
  congrArg Node.kind (get_add_self f node)

theorem parent?_add_self (f : Forest) (node : Node) :
    (f.add node).2.parent? ⟨f.nodes.size⟩ = node.parent :=
  congrArg Node.parent (get_add_self f node)

theorem index_lt_of_tidies {n : NodeId} (h : tidies f n = true) : n.index < f.nodes.size := by
  by_contra hn
  have hk : f.kind n = .string .text "" := by simp [kind, Forest.get, Nat.le_of_not_lt hn]; rfl
  simp [tidies, isElement, isDocument, hk] at h

theorem not_tidies_of_isText {n : NodeId} (h : f.isText n = true) : tidies f n = false := by
  unfold tidies isText at *
  unfold isElement isDocument
  split at h <;> simp_all

theorem not_isComment_of_isText {n : NodeId} (h : f.isText n = true) : f.isComment n = false := by
  unfold isText isComment at *
  split at h
  · rename_i k s hk
    rw [hk]
    cases k <;> simp_all [StringKind.isText]
  · cases h

theorem collapsedChild?_of_not_tidies {n c : NodeId} (h : tidies f n = false) :
    collapsedChild? f n c = none := by
  simp [collapsedChild?, h]

theorem isText_of_collapsedChild? {n c : NodeId} {t : String} (h : collapsedChild? f n c = some t) :
    f.isText c = true := by
  unfold collapsedChild? at h
  split at h
  · rename_i hc
    exact (Bool.and_eq_true _ _ ▸ hc).2
  · cases h

theorem collapsedChild?_of_collapsed {n z : NodeId} {s : String}
    (hz : f.kind z = .string .text (collapseLayout s)) : collapsedChild? f n z = none := by
  simp [collapsedChild?, stringContent?, hz, collapseLayout_idem]

end Kinds

/-! ## Compressing a tidy node -/

/-- `z` stands in `g` for the child `c` of a node: a fresh plain text (a node from `N` on)
holding `t` where `c` was replaced by its collapsed text `t`, else `c` itself. -/
def Stands (g : Forest) (N : Nat) : Option String → NodeId → NodeId → Prop
  | some t, _, z => N ≤ z.index ∧ g.kind z = .string .text t ∧ g.children z = []
  | none, c, z => z = c

theorem Stands.mono {g g' : Forest} {N : Nat} {o : Option String} {c z : NodeId}
    (h : Stands g N o c z)
    (hz : N ≤ z.index → g'.kind z = g.kind z ∧ g'.children z = g.children z) :
    Stands g' N o c z := by
  cases o with
  | none => exact h
  | some t =>
    obtain ⟨hN, hk, hc⟩ := h
    obtain ⟨hk', hc'⟩ := hz hN
    exact ⟨hN, hk'.trans hk, hc'.trans hc⟩

/-- `g'` is `g` with the texts among the children of `n` collapsed: each child stands for itself
or, where collapsing changes it, for a fresh plain text; kinds stay, no other list of children
changes, and the nodes added are texts without children. -/
structure Collapsed (g : Forest) (n : NodeId) (g' : Forest) : Prop where
  wf : g'.WellFormed
  grows : g.nodes.size ≤ g'.nodes.size
  kind : ∀ x : NodeId, x.index < g.nodes.size → g'.kind x = g.kind x
  others : ∀ x : NodeId, x ≠ n → x.index < g.nodes.size → g'.children x = g.children x
  children : List.Forall₂ (fun c z => Stands g' g.nodes.size (collapsedChild? g n c) c z)
    (g.children n) (g'.children n)
  fresh : ∀ y : NodeId, g.nodes.size ≤ y.index → g'.isText y = true ∧ g'.children y = []

/-- Halfway through compressing `n`: the children `done` went into `zs`, the children `rest` are
still to come. -/
structure CollapsingStage (g : Forest) (n : NodeId) (done rest zs : List NodeId) (h : Forest) :
    Prop where
  wf : h.WellFormed
  grows : g.nodes.size ≤ h.nodes.size
  kind : ∀ x : NodeId, x.index < g.nodes.size → h.kind x = g.kind x
  others : ∀ x : NodeId, x ≠ n → x.index < g.nodes.size → h.children x = g.children x
  children : h.children n = zs ++ rest
  settled : List.Forall₂ (fun c z => Stands h g.nodes.size (collapsedChild? g n c) c z) done zs
  fresh : ∀ y : NodeId, g.nodes.size ≤ y.index → h.isText y = true ∧ h.children y = []

theorem forall₂_imp_mem {α β : Type} {R S : α → β → Prop} :
    ∀ {l₁ : List α} {l₂ : List β}, List.Forall₂ R l₁ l₂ →
      (∀ a ∈ l₁, ∀ b ∈ l₂, R a b → S a b) → List.Forall₂ S l₁ l₂
  | _, _, .nil, _ => .nil
  | _, _, .cons hab h, hS =>
    .cons (hS _ List.mem_cons_self _ List.mem_cons_self hab)
      (forall₂_imp_mem h fun a ha b hb => hS a (List.mem_cons_of_mem _ ha) b (List.mem_cons_of_mem _ hb))

section Collapse

variable {g h : Forest} {n c : NodeId} {done rest zs : List NodeId}

theorem CollapsingStage.keep (hs : CollapsingStage g n done (c :: rest) zs h)
    (hnone : collapsedChild? g n c = none) :
    CollapsingStage g n (done ++ [c]) rest (zs ++ [c]) h :=
  { hs with
    children := by rw [hs.children, List.append_assoc, List.singleton_append]
    settled := List.rel_append hs.settled (List.Forall₂.cons (by rw [hnone]; rfl) .nil) }

theorem CollapsingStage.replace (hs : CollapsingStage g n done (c :: rest) zs h)
    (hn : n.index < g.nodes.size) (hc : c.index < h.nodes.size) {t : String}
    (ht : collapsedChild? g n c = some t) :
    CollapsingStage g n (done ++ [c]) rest (zs ++ [⟨h.nodes.size⟩])
      ((h.add ⟨.string .text t, none, #[]⟩).2.replaceWith c ⟨h.nodes.size⟩) := by
  set r : NodeId := ⟨h.nodes.size⟩
  set h₁ := (h.add ⟨.string .text t, none, #[]⟩).2
  have hnh : n.index < h.nodes.size := lt_of_lt_of_le hn hs.grows
  have wf₁ : h₁.WellFormed := hs.wf.add rfl rfl
  have hmem : c ∈ h.children n := by simp [hs.children]
  have hp₁ : h₁.parent? c = some n := by
    rw [parent?_add_of_lt _ _ hc]
    exact hs.wf.linked n c hmem
  have hr₁ : h₁.parent? r = none := parent?_add_self _ _
  have hl₁ : h₁.children n = zs ++ c :: rest := by
    rw [children_add _ rfl, if_pos hnh, hs.children]
  have hnd := wf₁.nodup n
  rw [hl₁, List.nodup_append] at hnd
  have hc₁ : c ∉ zs := fun hz => hnd.2.2 c hz c (List.mem_cons_self ..) rfl
  have hc₂ : c ∉ rest := (List.nodup_cons.mp hnd.2.1).1
  have hrn : r ≠ n := by
    intro he
    have := congrArg NodeId.index he
    simp only [r] at this
    omega
  have hch := children_replaceWith wf₁ hp₁ hl₁ hc₁ hc₂ hr₁ hrn
  have hkind : ∀ x : NodeId, x.index < h.nodes.size → (h₁.replaceWith c r).kind x = h.kind x :=
    fun x hx => by rw [kind_replaceWith, kind_add_of_lt _ _ hx]
  have hnew : ∀ y : NodeId, h.nodes.size ≤ y.index →
      (h₁.replaceWith c r).isText y = true ∧ (h₁.replaceWith c r).children y = [] := by
    intro y hy
    have hyn : y ≠ n := fun he => by rw [he] at hy; omega
    refine ⟨?_, by rw [hch, if_neg hyn, children_add _ rfl, if_neg (by omega)]⟩
    rw [isText, kind_replaceWith, ← isText]
    by_cases hye : y.index = h.nodes.size
    · have hy' : y = ⟨h.nodes.size⟩ := by rw [← hye]
      rw [hy', isText, kind_add_self]
      rfl
    · exact isText_of_size_le (by rw [size_add]; omega)
  refine ⟨wf₁.replaceWith hp₁ hr₁ (by simp [h₁, r, size_add]) (by simpa [r] using hnh),
    by rw [size_replaceWith, size_add]; exact le_trans hs.grows (Nat.le_succ _),
    fun x hx => (hkind x (lt_of_lt_of_le hx hs.grows)).trans (hs.kind x hx),
    fun x hxn hx => ?_, by rw [hch, if_pos rfl, List.append_assoc, List.singleton_append],
    List.rel_append (forall₂_imp_mem hs.settled fun d _ z hz hst => hst.mono fun hz' => ?_)
      (List.Forall₂.cons ?_ .nil), fun y hy => ?_⟩
  · rw [hch, if_neg hxn, children_add _ rfl, if_pos (lt_of_lt_of_le hx hs.grows)]
    exact hs.others x hxn hx
  · -- an earlier fresh text is a child of `n` in `h`, so a node of `h`
    have hzn : z ≠ n := fun he => by rw [he] at hz'; omega
    have hzh : z.index < h.nodes.size :=
      hs.wf.index_lt_of_mem_children (by rw [hs.children]; exact List.mem_append_left _ hz)
    rw [hkind z hzh, hch, if_neg hzn, children_add _ rfl, if_pos hzh]
    exact ⟨rfl, rfl⟩
  · rw [ht]
    refine ⟨hs.grows, ?_, ?_⟩
    · rw [kind_replaceWith, kind_add_self]
    · rw [hch, if_neg hrn, children_add _ rfl, if_neg (by simp [r])]
  · by_cases hyh : y.index < h.nodes.size
    · have hyn : y ≠ n := fun he => by rw [he] at hy; omega
      obtain ⟨ht', hc'⟩ := hs.fresh y hy
      rw [hch, if_neg hyn, children_add _ rfl, if_pos hyh, isText, hkind y hyh, ← isText]
      exact ⟨ht', hc'⟩
    · exact hnew y (Nat.le_of_not_lt hyh)

theorem CollapsingStage.next (hs : CollapsingStage g n done (c :: rest) zs h)
    (hg : g.WellFormed) (hcg : c ∈ g.children n) (htidy : tidies g n = true) :
    ∃ z, CollapsingStage g n (done ++ [c]) rest (zs ++ [z])
      (if h.isText c then (compressText h c).2 else h) := by
  have hcv : c.index < g.nodes.size := hg.index_lt_of_mem_children hcg
  have hkc := hs.kind c hcv
  by_cases ht : h.isText c = true
  · have hgt : g.isText c = true := by rwa [← isText_congr hkc]
    have hcontent : h.stringContent? c = g.stringContent? c := by simp only [stringContent?, hkc]
    rw [if_pos ht]
    unfold compressText
    dsimp only
    split
    · -- collapsing leaves the text as it is
      rename_i heq
      refine ⟨c, hs.keep ?_⟩
      rw [beq_iff_eq, hcontent] at heq
      simp [collapsedChild?, htidy, hgt, heq]
    · rename_i hne
      rw [beq_iff_eq, hcontent] at hne
      have hct : collapsedChild? g n c = some (collapseLayout ((g.stringContent? c).getD "")) := by
        simp [collapsedChild?, htidy, hgt, hne]
      have hmem : c ∈ h.children n := by simp [hs.children]
      have hp : ((h.add ⟨.string .text (collapseLayout ((g.stringContent? c).getD "")), none,
          #[]⟩).2.parent? c).isSome = true := by
        rw [parent?_add_of_lt _ _ (hs.wf.index_lt_of_mem_children hmem), hs.wf.linked n c hmem]
        rfl
      simp only [newString, hcontent, Forest.add] at hp ⊢
      rw [if_pos hp]
      exact ⟨_, hs.replace (index_lt_of_tidies htidy) (lt_of_lt_of_le hcv hs.grows) hct⟩
  · rw [if_neg ht]
    refine ⟨c, hs.keep ?_⟩
    have hgt : g.isText c = false := by rw [← isText_congr hkc]; simpa using ht
    simp [collapsedChild?, hgt]

theorem CollapsingStage.foldl (hg : g.WellFormed) (htidy : tidies g n = true) :
    ∀ (rest done zs : List NodeId) (h : Forest), CollapsingStage g n done rest zs h →
      done ++ rest = g.children n →
      Collapsed g n (rest.foldl (fun g c => if g.isText c then (compressText g c).2 else g) h)
  | [], done, zs, h, hs, hd => by
    rw [List.foldl_nil]
    refine ⟨hs.wf, hs.grows, hs.kind, hs.others, ?_, hs.fresh⟩
    rw [hs.children, List.append_nil, ← hd, List.append_nil]
    exact hs.settled
  | c :: rest, done, zs, h, hs, hd => by
    obtain ⟨z, hz⟩ := hs.next hg (by rw [← hd]; simp) htidy
    exact CollapsingStage.foldl hg htidy rest (done ++ [c]) (zs ++ [z]) _ hz (by rw [← hd]; simp)

end Collapse

section Compress

variable {g : Forest} {n : NodeId}

theorem compress_of_isComment (hc : g.isComment n = true) : compress g n = (none, g.detach n) := by
  rw [compress, if_pos hc]

theorem compress_of_tidies (hc : g.isComment n = false) (ht : tidies g n = true) :
    compress g n = (some n,
      (g.children n).foldl (fun g c => if g.isText c then (compressText g c).2 else g) g) := by
  unfold tidies at ht
  rw [compress, if_neg (by simp [hc]), if_pos ht]

theorem compress_of_not_tidies (hc : g.isComment n = false) (ht : tidies g n = false) :
    compress g n = (some n, g) := by
  unfold tidies at ht
  rw [compress, if_neg (by simp [hc]), if_neg (by rw [ht]; simp)]

/-- Compressing a tidy node collapses its texts. -/
theorem collapsed_compress (hg : g.WellFormed) (hc : g.isComment n = false)
    (ht : tidies g n = true) : Collapsed g n (compress g n).2 := by
  rw [compress_of_tidies hc ht]
  refine CollapsingStage.foldl hg ht _ [] [] g ⟨hg, le_refl _, fun _ _ => rfl, fun _ _ _ => rfl,
    rfl, .nil, fun y hy => ⟨isText_of_size_le hy, children_of_size_le hy⟩⟩ rfl

end Compress

/-! ## A template with some of its nodes compressed -/

/-- The children of `f` still in place once the nodes `D` are compressed: all but the comments
among `D`. -/
def kept (f : Forest) (D : List NodeId) (c : NodeId) : Bool := !(f.isComment c && decide (c ∈ D))

def collapsedBy? (f : Forest) (D : List NodeId) (x c : NodeId) : Option String :=
  if x ∈ D then collapsedChild? f x c else none

/-- `g` is the template `f` with the nodes `D` compressed, and with fresh nodes from `N` on: the
nodes of `f` keep their kinds, each keeps the children `kept`, each of them standing in `g` for
itself or for its collapsed text, and the fresh nodes are texts without children. -/
structure Compacted (f : Forest) (N : Nat) (D : List NodeId) (g : Forest) : Prop where
  wf : g.WellFormed
  le : f.nodes.size ≤ N
  size : N ≤ g.nodes.size
  kind : ∀ x : NodeId, x.index < f.nodes.size → g.kind x = f.kind x
  children : ∀ x : NodeId, x.index < f.nodes.size →
    List.Forall₂ (fun c z => Stands g N (collapsedBy? f D x c) c z)
      ((f.children x).filter (kept f D)) (g.children x)
  fresh : ∀ y : NodeId, N ≤ y.index → g.isText y = true ∧ g.children y = []

theorem forall₂_trans_mem {α β γ : Type} {R : α → β → Prop} {S : β → γ → Prop}
    {T : α → γ → Prop} :
    ∀ {l₁ : List α} {l₂ : List β} {l₃ : List γ}, List.Forall₂ R l₁ l₂ → List.Forall₂ S l₂ l₃ →
      (∀ a b c, a ∈ l₁ → b ∈ l₂ → R a b → S b c → T a c) → List.Forall₂ T l₁ l₃
  | _, _, _, .nil, .nil, _ => .nil
  | _, _, _, .cons hab h, .cons hbc h', hT =>
    .cons (hT _ _ _ List.mem_cons_self List.mem_cons_self hab hbc)
      (forall₂_trans_mem h h' fun a b c ha hb =>
        hT a b c (List.mem_cons_of_mem _ ha) (List.mem_cons_of_mem _ hb))

section Compacted

variable {f g g' : Forest} {N : Nat} {D : List NodeId}

theorem compacted_nil (hg : g.WellFormed) (hext : f.Extends g) :
    Compacted f g.nodes.size [] g where
  wf := hg
  le := hext.1
  size := le_refl _
  kind x hx := by simp only [Forest.kind, hext.2 x hx]
  children x hx := by
    have hch : g.children x = f.children x := by simp only [Forest.children, hext.2 x hx]
    rw [List.filter_eq_self.mpr fun c _ => by simp [kept], hch]
    exact List.forall₂_same.mpr fun c _ => rfl
  fresh y hy := ⟨isText_of_size_le hy, children_of_size_le hy⟩

theorem Compacted.of_same (h : Compacted f N D g) {D' : List NodeId}
    (hD : ∀ x c, x.index < f.nodes.size → c ∈ f.children x →
      kept f D' c = kept f D c ∧ collapsedBy? f D' x c = collapsedBy? f D x c) :
    Compacted f N D' g :=
  { h with
    children := fun x hx => by
      rw [List.filter_congr fun c hc => (hD x c hx hc).1]
      refine forall₂_imp_mem (h.children x hx) fun c hc z _ hz => ?_
      rw [(hD x c hx (List.mem_of_mem_filter hc)).2]
      exact hz }

theorem collapsedChild?_eq_some {n c : NodeId} {t : String} (h : collapsedChild? f n c = some t) :
    t = collapseLayout ((f.stringContent? c).getD "") := by
  unfold collapsedChild? at h
  split at h
  · split at h
    · cases h
    · exact (Option.some.inj h).symm
  · cases h

section Steps

variable {y : NodeId}

theorem Compacted.detach (h : Compacted f N D g) (hy : y.index < f.nodes.size)
    (hc : f.isComment y = true) : Compacted f N (D ++ [y]) (g.detach y) := by
  have hyN : ∀ z : NodeId, N ≤ z.index → z ≠ y := fun z hz he => by
    rw [he] at hz
    have := h.le
    omega
  refine ⟨h.wf.detach y, h.le, by rw [size_detach]; exact h.size, fun x hx => by
    rw [kind_detach]; exact h.kind x hx, fun x hx => ?_, fun z hz => ?_⟩
  · -- the comment leaves the list it stands in, and no fresh text stands for it
    rw [children_detach_eq_filter h.wf.linked]
    have hkept : (f.children x).filter (kept f (D ++ [y])) =
        ((f.children x).filter (kept f D)).filter fun c => decide (c ≠ y) := by
      rw [List.filter_filter]
      refine List.filter_congr fun c _ => ?_
      by_cases hcy : c = y
      · subst hcy
        simp [kept, hc]
      · simp [kept, hcy]
    have hby : ∀ c, collapsedBy? f (D ++ [y]) x c = collapsedBy? f D x c := by
      intro c
      by_cases hxy : x = y
      · subst hxy
        have ht : tidies f x = false := by
          simp [tidies, isElement, isDocument, isComment] at hc ⊢
          split at hc <;> simp_all
        simp [collapsedBy?, collapsedChild?_of_not_tidies ht]
      · simp [collapsedBy?, hxy]
    rw [hkept]
    refine List.rel_filter (fun c z hz => ?_) ((h.children x hx).imp fun c z hz => ?_)
    · rw [hby] at hz
      show decide (c ≠ y) = true ↔ decide (z ≠ y) = true
      rcases ho : collapsedBy? f D x c with _ | t <;> rw [ho] at hz
      · simp [Stands] at hz
        simp [hz]
      · have hct : collapsedChild? f x c = some t := by
          unfold collapsedBy? at ho
          split at ho
          · exact ho
          · cases ho
        have hcy : c ≠ y := fun he => by
          have := not_isComment_of_isText (isText_of_collapsedChild? hct)
          rw [he, hc] at this
          cases this
        simp [hcy, hyN z hz.1]
    · rw [hby]
      refine hz.mono fun hN => ⟨kind_detach _ _ _, ?_⟩
      rw [children_detach_eq_filter h.wf.linked, (h.fresh z hN).2, List.filter_nil]
  · obtain ⟨ht, hch⟩ := h.fresh z hz
    refine ⟨by rw [isText, kind_detach, ← isText]; exact ht, ?_⟩
    rw [children_detach_eq_filter h.wf.linked, hch, List.filter_nil]

theorem Compacted.collapse (h : Compacted f N D g) (hf : f.Linked) (hy : y.index < f.nodes.size)
    (hc : f.isComment y = false) (hg' : Collapsed g y g') : Compacted f N (D ++ [y]) g' := by
  have hyg : y.index < g.nodes.size := lt_of_lt_of_le hy (h.le.trans h.size)
  have hyN : ∀ z : NodeId, N ≤ z.index → z ≠ y := fun z hz he => by
    rw [he] at hz
    have := h.le
    omega
  have hkept : ∀ x, (f.children x).filter (kept f (D ++ [y])) = (f.children x).filter (kept f D) :=
    fun x => List.filter_congr fun c _ => by
      by_cases hcy : c = y
      · subst hcy
        simp [kept, hc]
      · simp [kept, hcy]
  -- a fresh text standing for a child keeps its kind and its empty list of children
  have hmono : ∀ x z, z ∈ g.children x → N ≤ z.index →
      g'.kind z = g.kind z ∧ g'.children z = g.children z := fun x z hz hN =>
    ⟨hg'.kind z (h.wf.index_lt_of_mem_children hz),
      hg'.others z (hyN z hN) (h.wf.index_lt_of_mem_children hz)⟩
  refine ⟨hg'.wf, h.le, h.size.trans hg'.grows,
    fun x hx => (hg'.kind x (lt_of_lt_of_le hx (h.le.trans h.size))).trans (h.kind x hx),
    fun x hx => ?_, fun z hz => ?_⟩
  · rw [hkept]
    by_cases hxy : x = y
    · subst hxy
      have hk := h.kind x hx
      refine forall₂_trans_mem (h.children x hx) hg'.children fun c z z' hc' hz hcz hzz' => ?_
      have hcv : c.index < f.nodes.size :=
        index_lt_of_parent? (hf x c (List.mem_of_mem_filter hc'))
      rw [show collapsedBy? f (D ++ [x]) x c = collapsedChild? f x c by simp [collapsedBy?]]
      rcases ho : collapsedBy? f D x c with _ | t <;> rw [ho] at hcz
      · -- the child stood for itself: now it is collapsed, or left as it is
        have hzc : z = c := hcz
        rw [hzc, collapsedChild?_congr hk (h.kind c hcv)] at hzz'
        rcases hct : collapsedChild? f x c with _ | t' <;> rw [hct] at hzz'
        · exact hzz'
        · exact ⟨h.size.trans hzz'.1, hzz'.2⟩
      · -- the child was collapsed before, and its fresh text stays as it is
        obtain ⟨hN, hkz, hchz⟩ := hcz
        have hct : collapsedChild? f x c = some t := by
          unfold collapsedBy? at ho
          split at ho
          · exact ho
          · cases ho
        have hkz' := hkz
        rw [collapsedChild?_eq_some hct] at hkz'
        rw [collapsedChild?_of_collapsed hkz'] at hzz'
        have hzz : z' = z := hzz'
        rw [hct, hzz]
        obtain ⟨hk', hc'⟩ := hmono x z hz hN
        exact ⟨hN, hk'.trans hkz, hc'.trans hchz⟩
    · rw [hg'.others x hxy (lt_of_lt_of_le hx (h.le.trans h.size))]
      refine forall₂_imp_mem (h.children x hx) fun c _ z hz hcz => ?_
      rw [show collapsedBy? f (D ++ [y]) x c = collapsedBy? f D x c by simp [collapsedBy?, hxy]]
      exact hcz.mono (hmono x z hz)
  · by_cases hzg : z.index < g.nodes.size
    · obtain ⟨ht, hch⟩ := h.fresh z hz
      refine ⟨by rw [isText, hg'.kind z hzg, ← isText]; exact ht, ?_⟩
      rw [hg'.others z (hyN z hz) hzg, hch]
    · exact hg'.fresh z (Nat.le_of_not_lt hzg)

/-- Compressing a node of the template, or a fresh text, keeps the template compacted. -/
theorem Compacted.compress (h : Compacted f N D g) (hf : f.Linked)
    (hy : y.index < f.nodes.size ∨ N ≤ y.index) : Compacted f N (D ++ [y]) (compress g y).2 := by
  have same : f.isComment y = false → tidies f y = false → Compacted f N (D ++ [y]) g :=
    fun hc ht => h.of_same fun x c _ _ => by
      refine ⟨?_, ?_⟩
      · by_cases hcy : c = y
        · subst hcy
          simp [kept, hc]
        · simp [kept, hcy]
      · by_cases hxy : x = y
        · subst hxy
          simp [collapsedBy?, collapsedChild?_of_not_tidies ht]
        · simp [collapsedBy?, hxy]
  rcases hy with hy | hy
  · have hk := h.kind y hy
    cases hc : f.isComment y
    · have hgc : g.isComment y = false := by rw [isComment_congr hk, hc]
      cases ht : tidies f y
      · rw [compress_of_not_tidies hgc (by rw [tidies_congr hk, ht])]
        exact same hc ht
      · exact h.collapse hf hy hc (collapsed_compress h.wf hgc (by rw [tidies_congr hk, ht]))
    · rw [compress_of_isComment (by rw [isComment_congr hk, hc])]
      exact h.detach hy hc
  · have hgt := (h.fresh y hy).1
    have hft : f.isText y = true := isText_of_size_le (h.le.trans hy)
    rw [compress_of_not_tidies (not_isComment_of_isText hgt) (not_tidies_of_isText hgt)]
    exact same (not_isComment_of_isText hft) (not_tidies_of_isText hft)

end Steps

/-! ## Shapes of a compacted template -/

theorem exists_of_forall₂ {α β : Type} {R : α → β → Prop} :
    ∀ {l₁ : List α} {l₂ : List β}, List.Forall₂ R l₁ l₂ → ∀ a ∈ l₁, ∃ b ∈ l₂, R a b
  | _, _, .nil, _, ha => absurd ha List.not_mem_nil
  | _, _, .cons hab h, a, ha => by
    rcases List.mem_cons.mp ha with rfl | ha
    · exact ⟨_, List.mem_cons_self, hab⟩
    · obtain ⟨b, hb, hr⟩ := exists_of_forall₂ h a ha
      exact ⟨b, List.mem_cons_of_mem _ hb, hr⟩

theorem map_eq_of_forall₂ {α β γ : Type} {R : α → β → Prop} {F : α → γ} {G : β → γ} :
    ∀ {l₁ : List α} {l₂ : List β}, List.Forall₂ R l₁ l₂ →
      (∀ a ∈ l₁, ∀ b ∈ l₂, R a b → F a = G b) → l₁.map F = l₂.map G
  | _, _, .nil, _ => rfl
  | _, _, .cons hab h, hFG => by
    rw [List.map_cons, List.map_cons, hFG _ List.mem_cons_self _ List.mem_cons_self hab,
      map_eq_of_forall₂ h fun a ha b hb => hFG a (List.mem_cons_of_mem _ ha) b
        (List.mem_cons_of_mem _ hb)]

theorem shapeWithin_of_children_nil {z : NodeId} (hz : g.children z = []) (k : Nat) :
    g.shapeWithin k z = .node (g.kind z) [] := by
  cases k <;> simp [shapeWithin, hz]

theorem Compacted.children_eq (h : Compacted f N D g) {x : NodeId} (hx : x.index < f.nodes.size)
    (hxD : x ∉ D) (hkept : ∀ c ∈ f.children x, kept f D c = true) :
    g.children x = f.children x := by
  have h₂ := h.children x hx
  rw [List.filter_eq_self.mpr hkept] at h₂
  have heq : List.Forall₂ (· = ·) (f.children x) (g.children x) :=
    h₂.imp fun c z hz => by
      simp only [collapsedBy?, hxD, if_false, Stands] at hz
      exact hz.symm
  rw [List.forall₂_eq_eq_eq] at heq
  exact heq.symm

theorem Compacted.shapeWithin_eq_compactWithin (h : Compacted f N D g) (hf : f.Linked)
    (hclosed : ∀ x ∈ D, x.index < f.nodes.size → f.isComment x = false →
      ∀ c ∈ g.children x, c ∈ D) :
    ∀ (k : Nat) (x : NodeId), x ∈ D → x.index < f.nodes.size → f.isComment x = false →
      g.shapeWithin k x = compactWithin f k x
  | 0, x, _, hx, _ => by simp [shapeWithin, compactWithin, h.kind x hx]
  | k + 1, x, hxD, hx, hxc => by
    have h₂ := h.children x hx
    simp only [collapsedBy?, hxD, if_true] at h₂
    -- a comment still in place stands for itself among the children, so it was compressed
    have hkept : (f.children x).filter (kept f D) =
        (f.children x).filter fun c => !f.isComment c := by
      refine List.filter_congr fun c hc => ?_
      cases hcc : f.isComment c
      · simp [kept, hcc]
      · have hcD : c ∈ D := by
          by_contra hcD
          obtain ⟨z, hz, hcz⟩ := exists_of_forall₂ h₂ c
            (List.mem_filter.mpr ⟨hc, by simp [kept, hcD]⟩)
          have hnone : collapsedChild? f x c = none := by
            cases ho : collapsedChild? f x c with
            | none => rfl
            | some t =>
              have := not_isComment_of_isText (isText_of_collapsedChild? ho)
              rw [hcc] at this
              cases this
          rw [hnone] at hcz
          have hzc : z = c := hcz
          exact hcD (hclosed x hxD hx hxc c (hzc ▸ hz))
        simp [kept, hcc, hcD]
    rw [hkept] at h₂
    simp only [shapeWithin, compactWithin, h.kind x hx]
    congr 1
    refine (map_eq_of_forall₂ h₂ fun c hc z hz hcz => ?_).symm
    obtain ⟨hcf, hcc⟩ := List.mem_filter.mp hc
    rcases ho : collapsedChild? f x c with _ | t <;> rw [ho] at hcz
    · -- the child stands for itself, and was compressed in turn
      have hzc : z = c := hcz
      subst hzc
      exact (Compacted.shapeWithin_eq_compactWithin h hf hclosed k z (hclosed x hxD hx hxc z hz)
        (index_lt_of_parent? (hf x z hcf)) (by simpa using hcc)).symm
    · obtain ⟨-, hkz, hchz⟩ := hcz
      simp only [shapeWithin_of_children_nil hchz, hkz]

/-- Once the nodes of the subtree of `target` are compressed, and only those, the tree of any node
outside that subtree has the shape with that subtree compacted. -/
theorem Compacted.shapeWithin_eq_compactedWithin (h : Compacted f N D g) (hf : f.Linked)
    (hclosed : ∀ x ∈ D, x.index < f.nodes.size → f.isComment x = false →
      ∀ c ∈ g.children x, c ∈ D)
    {target : NodeId} (htD : target ∈ D) (htc : f.isComment target = false)
    (hroot : ∀ x ∈ D, x.index < f.nodes.size → x ≠ target → ∃ p, f.parent? x = some p ∧ p ∈ D) :
    ∀ (k : Nat) (x : NodeId), x.index < f.nodes.size → (x = target ∨ x ∉ D) →
      g.shapeWithin k x = compactedWithin f target k x
  | 0, x, hx, _ => by simp [shapeWithin, compactedWithin, h.kind x hx]
  | k + 1, x, hx, hxt => by
    by_cases hxt' : x = target
    · subst hxt'
      rw [compactedWithin, if_pos rfl]
      exact h.shapeWithin_eq_compactWithin hf hclosed (k + 1) x htD hx htc
    · have hxD := hxt.resolve_left hxt'
      -- a compressed child of `x` would make `x` compressed: only the target can be one
      have hout : ∀ c ∈ f.children x, c = target ∨ c ∉ D := fun c hc => by
        by_cases hct : c = target
        · exact Or.inl hct
        · refine Or.inr fun hcD => ?_
          obtain ⟨p, hp, hpD⟩ := hroot c hcD (index_lt_of_parent? (hf x c hc)) hct
          rw [hf x c hc] at hp
          cases hp
          exact hxD hpD
      have hch : g.children x = f.children x := h.children_eq hx hxD fun c hc => by
        rcases hout c hc with rfl | hcD
        · simp [kept, htc]
        · simp [kept, hcD]
      rw [compactedWithin, if_neg hxt', shapeWithin, h.kind x hx, hch]
      congr 1
      exact List.map_congr_left fun c hc => Compacted.shapeWithin_eq_compactedWithin h hf hclosed
        htD htc hroot k c (index_lt_of_parent? (hf x c hc)) (hout c hc)

end Compacted

/-! ## Cutting off the compact shapes -/

theorem fuel_stable {α : Type} {F : Nat → NodeId → α} {size : Nat}
    (hF : ∀ k x, size ≤ x.index + k → F (k + 1) x = F k x) {x : NodeId} {k k' : Nat}
    (hk : size ≤ x.index + k) (hk' : size ≤ x.index + k') : F k x = F k' x := by
  have up : ∀ {k : Nat} (d : Nat), size ≤ x.index + k → F (k + d) x = F k x := by
    intro k d hk
    induction d with
    | zero => rfl
    | succ d ih => rw [← Nat.add_assoc, hF _ x (by omega), ih]
  rcases le_total k k' with hle | hle
  · rw [← Nat.add_sub_cancel' hle, up _ hk]
  · rw [← Nat.add_sub_cancel' hle, up _ hk']

section Fuel

variable {f : Forest}

theorem compactWithin_succ (hf : f.WellFormed) :
    ∀ (k : Nat) (x : NodeId), f.nodes.size ≤ x.index + k →
      compactWithin f (k + 1) x = compactWithin f k x
  | 0, x, hx => by simp [compactWithin, children_of_size_le (by omega : f.nodes.size ≤ x.index)]
  | k + 1, x, hx => by
    rw [compactWithin, compactWithin]
    congr 1
    refine List.map_congr_left fun c hc => ?_
    have := hf.lt_of_mem_children (List.mem_of_mem_filter hc)
    rw [compactWithin_succ hf k c (by omega)]

theorem compactedWithin_succ (hf : f.WellFormed) (target : NodeId) :
    ∀ (k : Nat) (x : NodeId), f.nodes.size ≤ x.index + k →
      compactedWithin f target (k + 1) x = compactedWithin f target k x
  | 0, x, hx => by
    have hch := children_of_size_le (by omega : f.nodes.size ≤ x.index)
    by_cases hxt : x = target
    · subst hxt
      simp [compactedWithin, compactWithin, hch]
    · simp [compactedWithin, hxt, hch]
  | k + 1, x, hx => by
    rw [compactedWithin, compactedWithin]
    split
    · exact compactWithin_succ hf (k + 1) x hx
    · congr 1
      refine List.map_congr_left fun c hc => ?_
      have := hf.lt_of_mem_children hc
      exact compactedWithin_succ hf target k c (by omega)

theorem compactedWithin_eq_compactedShape (hf : f.WellFormed) (target : NodeId)
    {k : Nat} {x : NodeId} (hk : f.nodes.size ≤ x.index + k) :
    compactedWithin f target k x = compactedShape f target x :=
  fuel_stable (compactedWithin_succ hf target) hk (by unfold depthBound; omega)

end Fuel

end Stencil.Template

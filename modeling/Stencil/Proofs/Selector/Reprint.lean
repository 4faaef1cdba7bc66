import Mathlib
import Stencil.Proofs.Selector.Recognition
import Stencil.Proofs.Selector.Spelling
/-!
# Printing a parsed selector and reading it again

A parsed selector prints to a text that parses back to the same tree. The printer writes each
compound selector's source text as it stands, one space around each combinator and keyword, a
comma and a space between complex selectors, and parentheses around groups; it drops all other
white space. Read again, the printed text lexes into the same words (`Cuts`), and those words
derive the same tree: a compound's source is again the text of its tokens (`Placed.slice`), and
every other part of the tree depends only on the kinds and texts of the tokens.

`Reprints R x v` says this of one printed piece `x`: it is cut into words before any delimiter,
and wherever those words stand in a stream that spells its text, the relation `R` derives `v`
from them. The lemmas below prove it of each piece by recursion on the derivation the first
parse found.

* `tailText`, `Complex.css_eq`, `listText`, `Expr.text_selectors` : printed forms as pieces.
* `compoundOf_congr` : a compound depends only on the kinds and texts of its tokens and its source.
* `Reprints`, `CompoundRel.reprint` … `OrRel.reprint` : each piece reads back.
* `parse_text_of_parse` : the printed form of a parsed selector parses to it.
-/

namespace Stencil.Selector

open Stencil.Text

/-! ## Printed forms as pieces -/

/-- The printed form of a complex selector's compounds after the first, each after its
combinator. -/
def tailText : List (Combinator × Compound) → String
  | [] => ""
  | (k, cp) :: more => (if k = .descendant then " " else " " ++ k.symbol ++ " ") ++ cp.source ++ tailText more

/-- The printed form of the complex selectors of a list after the first. -/
def listText : List Selector.Complex → String
  | [] => ""
  | c :: more => ", " ++ c.text ++ listText more

def tailChunks : List (Combinator × Compound) → List String
  | [] => []
  | (k, cp) :: more => (if k = .descendant then [cp.source] else [k.symbol, cp.source]) ++ tailChunks more

theorem foldl_chunks (rest : List (Combinator × Compound)) (acc : List String) :
    rest.foldl (fun acc (k, cp) => if k = .descendant then acc ++ [cp.source] else acc ++ [k.symbol, cp.source]) acc =
      acc ++ tailChunks rest := by
  induction rest generalizing acc with
  | nil => simp [tailChunks]
  | cons x more ih =>
    obtain ⟨k, cp⟩ := x
    by_cases hk : k = .descendant <;> simp [tailChunks, hk, ih]

theorem intercalate_tailChunks (a : String) (rest : List (Combinator × Compound)) :
    " ".intercalate (a :: tailChunks rest) = a ++ tailText rest := by
  induction rest generalizing a with
  | nil => simp [tailChunks, tailText]
  | cons x more ih =>
    obtain ⟨k, cp⟩ := x
    by_cases hk : k = .descendant
    · simp [tailChunks, tailText, hk, String.intercalate_cons_cons, ih, String.append_assoc]
    · simp [tailChunks, tailText, hk, String.intercalate_cons_cons, ih, String.append_assoc]

/-- A complex selector prints its first compound, then each later one after its combinator. -/
theorem Complex.css_eq (c : Selector.Complex) : c.css = c.first.source ++ tailText c.rest := by
  simp only [Complex.css, foldl_chunks, List.singleton_append, intercalate_tailChunks]

/-- A selector list prints its complex selectors joined by a comma and a space. -/
theorem Expr.text_selectors (c : Selector.Complex) (more : List Selector.Complex) :
    (Expr.selectors (c :: more)).text = c.text ++ listText more := by
  simp only [Expr.text, List.map_cons]
  induction more generalizing c with
  | nil => simp [listText]
  | cons d more ih =>
    rw [List.map_cons, String.intercalate_cons_cons, ih, listText, String.append_assoc, String.append_assoc]

/-! ## Compounds depend on kinds, texts and source -/

def wordsOf (ts : List Token) : List (TokenKind × List Char) := ts.map fun u => (u.kind, u.text.toList)

theorem tokensOf_wordsOf (p : Nat) (ts : List Token) :
    (tokensOf p (wordsOf ts)).map (fun u => (u.kind, u.text)) = ts.map (fun u => (u.kind, u.text)) := by
  induction ts generalizing p with
  | nil => rfl
  | cons t ts ih =>
    simp only [wordsOf] at ih ⊢
    simp [tokensOf, ih]

theorem filter_map_text {β : Type} {l l' : List Token} (h : l'.map (fun u => (u.kind, u.text)) = l.map (fun u => (u.kind, u.text)))
    (K : TokenKind) (g : String → β) :
    (l'.filter (·.kind = K)).map (fun u => g u.text) = (l.filter (·.kind = K)).map (fun u => g u.text) := by
  induction l generalizing l' with
  | nil => simp_all
  | cons u l ih =>
    obtain ⟨u', l', rfl⟩ := List.exists_cons_of_length_eq_add_one (by simpa using congrArg List.length h)
    simp only [List.map_cons, List.cons.injEq, Prod.mk.injEq] at h
    obtain ⟨⟨hk, ht⟩, hl⟩ := h
    by_cases hK : u.kind = K <;> simp [hk, ht, hK, ih hl]

/-- A compound selector is fixed by the kinds and texts of its tokens and by its source. -/
theorem compoundOf_congr {src src' : List Char} {t t' : Token} {tail tail' : List Token}
    (hk : (t' :: tail').map (fun u => (u.kind, u.text)) = (t :: tail).map (fun u => (u.kind, u.text)))
    (hs : slice src' t'.pos (tail'.getLastD t').stop = slice src t.pos (tail.getLastD t).stop) :
    compoundOf src' t' tail' = compoundOf src t tail := by
  simp only [List.map_cons, List.cons.injEq, Prod.mk.injEq] at hk
  obtain ⟨⟨hkind, htext⟩, htail⟩ := hk
  have hparts : ∀ b : Bool, (if b then tail' else t' :: tail').map (fun u => (u.kind, u.text)) =
      (if b then tail else t :: tail).map (fun u => (u.kind, u.text)) := by
    intro b
    cases b <;> simp [hkind, htext, htail]
  simp only [compoundOf, hkind, htext, hs]
  congr 1
  · exact filter_map_text (hparts _) .key fun s => unquote (String.ofList (s.toList.drop 1))
  · exact filter_map_text (hparts _) .hash fun s => String.ofList (s.toList.drop 1)
  · exact filter_map_text (hparts _) .attr fun s => String.ofList (s.toList.drop 1).dropLast
  · exact filter_map_text (hparts _) .pseudo pseudoOfToken

theorem flatMap_text_congr {l l' : List Token} (h : l'.map (fun u => (u.kind, u.text)) = l.map (fun u => (u.kind, u.text))) :
    l'.flatMap (·.text.toList) = l.flatMap (·.text.toList) := by
  induction l generalizing l' with
  | nil => simp_all
  | cons u l ih =>
    obtain ⟨u', l', rfl⟩ := List.exists_cons_of_length_eq_add_one (by simpa using congrArg List.length h)
    simp only [List.map_cons, List.cons.injEq, Prod.mk.injEq] at h
    simp [h.1.2, ih h.2]

theorem kind_mem_of_map {l l' : List Token} (h : l'.map (fun u => (u.kind, u.text)) = l.map (fun u => (u.kind, u.text)))
    {u : Token} (hu : u ∈ l') : ∃ v ∈ l, v.kind = u.kind := by
  have hmem : (u.kind, u.text) ∈ l.map (fun u => (u.kind, u.text)) := h ▸ List.mem_map_of_mem hu
  obtain ⟨v, hv, heq⟩ := List.mem_map.mp hmem
  exact ⟨v, hv, (Prod.mk.inj heq).1⟩

/-! ## Compound selectors read back -/

theorem CompoundRel.run {src : List Char} {ts rest : List Token} {k : Compound} (h : CompoundRel src ts k rest) :
    ∃ t tail, ts = t :: tail ++ rest ∧ k = compoundOf src t tail ∧ t.kind.startsCompound = true ∧
      ∀ u ∈ tail, u.kind.continuesCompound = true := by
  cases h with
  | named ht hparts =>
    refine ⟨_, _, rfl, rfl, ?_, hparts⟩
    rcases ht with h | h <;> simp [h, TokenKind.startsCompound]
  | bare ht hparts => exact ⟨_, _, rfl, rfl, TokenKind.startsCompound_of_continues ht, hparts⟩

theorem CompoundRel.of_run {src : List Char} {t : Token} {tail : List Token} (rest : List Token)
    (ht : t.kind.startsCompound = true) (htail : ∀ u ∈ tail, u.kind.continuesCompound = true) :
    CompoundRel src (t :: tail ++ rest) (compoundOf src t tail) rest := by
  by_cases hn : t.kind = .ident ∨ t.kind = .star
  · exact .named hn htail
  · refine .bare ?_ htail
    cases hk : t.kind <;> simp_all [TokenKind.startsCompound, TokenKind.continuesCompound]

theorem Placed.readBefore {src : List Char} {run rest : List Token} (h : Placed src (run ++ rest)) :
    ∀ u ∈ run, ∃ after, u.ReadBefore after := by
  induction run with
  | nil => simp
  | cons t run ih =>
    intro u hu
    rcases List.mem_cons.mp hu with rfl | hu
    · obtain ⟨pos, -, after, -, hread, -⟩ := h
      exact ⟨after, hread⟩
    · exact ih h.tail u hu

def StartsUnblank (x : List Char) : Prop := ∃ c r, x = c :: r ∧ isBlank c = false

theorem StartsUnblank.append {x : List Char} (h : StartsUnblank x) (y : List Char) : StartsUnblank (x ++ y) := by
  obtain ⟨c, r, rfl, hc⟩ := h
  exact ⟨c, r ++ y, rfl, hc⟩

theorem Token.Solid.startsUnblank {t : Token} (h : t.Solid) (hs : t.kind ≠ .space) : StartsUnblank t.text.toList := by
  obtain ⟨c, body, k, htext, hk, hscan⟩ := h
  have hks : k ≠ .space := fun hks => hs (by rw [← hk, classify_eq_space.mpr hks])
  obtain ⟨-, hblank, -⟩ := scanToken_kind (hscan [] (by simp))
  refine ⟨c, body, htext, ?_⟩
  cases hb : isBlank c
  · rfl
  · exact absurd (hblank.mpr hb) hks

theorem cuts_run : ∀ run : List Token, (∀ u ∈ run, u.Solid) →
    (∀ u ∈ run.drop 1, ∀ d ∈ u.text.toList.head?, Delimits d) →
    Cuts Delimits (run.flatMap (·.text.toList)) (wordsOf run)
  | [], _, _ => cuts_nil _
  | u :: run, hsolid, hdelim => by
    have hrun := cuts_run run (fun v hv => hsolid v (List.mem_cons_of_mem u hv))
      (fun v hv d hd => hdelim v (by cases run <;> simp_all) d hd)
    refine (hsolid u List.mem_cons_self).cuts.append hrun fun r hr => ?_
    cases run with
    | nil => simpa using hr
    | cons v run =>
      obtain ⟨c, body, -, htext, -⟩ := hsolid v (by simp)
      have hc : Delimits c := hdelim v (by simp) c (by simp [htext])
      simpa [htext] using hc

/-- A printed piece `x` reads back as `v` under the relation `R`: it is cut into words `ws`
before any delimiter, and wherever the tokens of those words stand in a stream that spells its
text, `R` derives `v` from them with the rest of the stream left over. -/
def Reprints {α : Type} (R : List Char → List Token → α → List Token → Prop) (x : List Char) (v : α) : Prop :=
  ∃ ws, Cuts Delimits x ws ∧ ∀ src p rest, Placed src (tokensOf p ws ++ rest) → R src (tokensOf p ws ++ rest) v rest

/-- A compound selector's source reads back as the compound: its tokens are solid words, and at
their new positions they spell the same source. -/
theorem CompoundRel.reprint {src : List Char} {ts rest : List Token} {k : Compound} (h : CompoundRel src ts k rest)
    (hp : Placed src ts) : Reprints CompoundRel k.source.toList k ∧ StartsUnblank k.source.toList := by
  obtain ⟨t, tail, rfl, rfl, hstart, htail⟩ := h.run
  have hkinds : ∀ u ∈ t :: tail, u.kind ≠ .eof ∧ u.kind ≠ .space := by
    intro u hu
    have hs : u.kind.startsCompound = true := by
      rcases List.mem_cons.mp hu with rfl | hu
      · exact hstart
      · exact TokenKind.startsCompound_of_continues (htail u hu)
    constructor <;> intro hk <;> simp [hk, TokenKind.startsCompound] at hs
  have hsolid : ∀ u ∈ t :: tail, u.Solid := fun u hu => by
    obtain ⟨after, hread⟩ := hp.readBefore u hu
    exact hread.solid (hkinds u hu).1 (hkinds u hu).2
  have hdelim : ∀ u ∈ (t :: tail).drop 1, ∀ d ∈ u.text.toList.head?, Delimits d := by
    intro u hu d hd
    obtain ⟨after, hread⟩ := hp.readBefore u (List.mem_cons_of_mem t hu)
    rcases hread with ⟨heof, -⟩ | ⟨c, body, k, htext, hk, hscan⟩
    · exact absurd heof (hkinds u (List.mem_cons_of_mem t hu)).1
    · -- a part keeps the kind its scan gave, and parts start with a delimiter
      have hcont := htail u hu
      have hkeq : k = u.kind := by
        unfold classify at hk
        split at hk
        · rw [← hk] at hcont
          simp [TokenKind.continuesCompound] at hcont
        · exact hk
      rw [htext] at hd
      cases hd
      exact scanToken_delimits hscan (hkeq ▸ hcont)
  have hsrc : (compoundOf src t tail).source.toList = (t :: tail).flatMap (·.text.toList) := by
    simp only [compoundOf, hp.slice, String.toList_ofList]
  refine ⟨⟨wordsOf (t :: tail), hsrc ▸ cuts_run _ hsolid hdelim, fun src' p rest' hp' => ?_⟩, ?_⟩
  · -- the printed words are the same tokens at new positions
    have hts : tokensOf p (wordsOf (t :: tail)) =
        ⟨t.kind, t.text, p⟩ :: tokensOf (p + codeLength t.text) (wordsOf tail) := by
      simp [wordsOf, tokensOf, codeLength]
    have hkt : (tokensOf p (wordsOf (t :: tail))).map (fun u => (u.kind, u.text)) =
        (t :: tail).map (fun u => (u.kind, u.text)) := tokensOf_wordsOf p _
    rw [hts] at hkt hp' ⊢
    have htail' : ∀ u ∈ tokensOf (p + codeLength t.text) (wordsOf tail), u.kind.continuesCompound = true := by
      intro u hu
      simp only [List.map_cons, List.cons.injEq] at hkt
      obtain ⟨v, hv, hvk⟩ := kind_mem_of_map hkt.2 hu
      exact hvk ▸ htail v hv
    have hsame : compoundOf src' ⟨t.kind, t.text, p⟩ (tokensOf (p + codeLength t.text) (wordsOf tail)) =
        compoundOf src t tail :=
      compoundOf_congr hkt (by rw [hp'.slice, hp.slice, flatMap_text_congr hkt])
    rw [List.cons_append, ← hsame]
    exact CompoundRel.of_run rest' hstart htail'
  · rw [hsrc, List.flatMap_cons]
    obtain ⟨c, r, hc, hb⟩ := (hsolid t List.mem_cons_self).startsUnblank (hkinds t List.mem_cons_self).2
    exact ⟨c, r ++ _, by rw [hc, List.cons_append], hb⟩

theorem Token.Solid.reprints {src : List Char} {t : Token} (hs : t.Solid) (hstart : t.kind.startsCompound = true)
    (hsrc : slice src t.pos t.stop = t.text) :
    Reprints CompoundRel t.text.toList (compoundOf src t []) ∧ StartsUnblank t.text.toList := by
  have hspace : t.kind ≠ .space := fun h => by simp [h, TokenKind.startsCompound] at hstart
  refine ⟨⟨[(t.kind, t.text.toList)], hs.cuts, fun src' p rest hp => ?_⟩, hs.startsUnblank hspace⟩
  simp only [tokensOf, List.cons_append, List.nil_append] at hp ⊢
  have hsl : slice src' p (([] : List Token).getLastD ⟨t.kind, String.ofList t.text.toList, p⟩).stop = t.text := by
    simpa using Placed.slice (show Placed src' (⟨t.kind, String.ofList t.text.toList, p⟩ :: [] ++ rest) from hp)
  have hsame : compoundOf src' ⟨t.kind, String.ofList t.text.toList, p⟩ [] = compoundOf src t [] :=
    compoundOf_congr (by simp) (by rw [hsl, List.getLastD_nil, hsrc])
  rw [← hsame]
  show CompoundRel src' (⟨t.kind, String.ofList t.text.toList, p⟩ :: ([] ++ rest)) _ rest
  exact CompoundRel.of_run rest hstart (by simp)

/-! ## Joining printed pieces -/

/-- A piece before which what may follow a delimited piece may still follow: it is empty or
starts with a delimiter. -/
def HeadDelimits (x : List Char) : Prop :=
  ∀ r : List Char, (∀ d ∈ r.head?, Delimits d) → ∀ d ∈ (x ++ r).head?, Delimits d

theorem headDelimits_nil : HeadDelimits [] := fun _ hr => hr

theorem headDelimits_cons {c : Char} {x : List Char} (hc : Delimits c) : HeadDelimits (c :: x) :=
  fun r _ => head_append_of_head hc r

theorem delimits_space : Delimits ' ' := ⟨by decide +kernel, by decide⟩

theorem delimits_comma : Delimits ',' := ⟨by decide +kernel, by decide⟩

theorem delimits_close : Delimits ')' := ⟨by decide +kernel, by decide⟩

theorem Placed.leaves {src : List Char} {ts rest : List Token} (h : Placed src ts) (hl : Leaves ts rest) :
    Placed src rest := by
  obtain ⟨pre, rfl, -⟩ := hl
  exact h.drop

theorem Cuts.space_before {x : List Char} {wx : List (TokenKind × List Char)} (hx : Cuts Delimits x wx)
    (hs : StartsUnblank x) : Cuts Delimits (' ' :: x) ((.space, [' ']) :: wx) := by
  obtain ⟨c, x', rfl, hc⟩ := hs
  exact cuts_space.append hx fun r _ => head_append_of_head hc r

theorem Cuts.single_before {c : Char} {k : TokenKind} {x : List Char} {wx : List (TokenKind × List Char)}
    (hc : ∀ r, scanToken c r = some (k, 0)) (hk : classify k (String.ofList [c]) = k) (hx : Cuts Delimits x wx) :
    Cuts Delimits (c :: x) ((k, [c]) :: wx) :=
  (cuts_single hc hk).append hx fun _ _ _ _ => trivial

def IsKeywordWord (w : String) : Prop := w = "and" ∨ w = "or" ∨ w = "not"

theorem Cuts.keyword_before {w : String} (hw : IsKeywordWord w) {x : List Char} {wx : List (TokenKind × List Char)}
    (hx : Cuts Delimits x wx) (hs : StartsUnblank x) :
    Cuts Delimits (w.toList ++ ' ' :: x) ((.keyword, w.toList) :: (.space, [' ']) :: wx) ∧
      StartsUnblank (w.toList ++ ' ' :: x) := by
  have hsp := hx.space_before hs
  have hsep : ∀ r : List Char, (∀ d ∈ r.head?, Delimits d) → ∀ d ∈ (' ' :: x ++ r).head?, isNameChar d = false :=
    fun r _ => head_append_of_head (by decide +kernel) r
  have ha : isNameChar 'a' = true := by decide +kernel
  have hn : isNameChar 'n' = true := by decide +kernel
  have hd : isNameChar 'd' = true := by decide +kernel
  have ho : isNameChar 'o' = true := by decide +kernel
  have hr : isNameChar 'r' = true := by decide +kernel
  have ht : isNameChar 't' = true := by decide +kernel
  rcases hw with rfl | rfl | rfl
  · rw [show "and".toList = ['a', 'n', 'd'] from rfl]
    exact ⟨(cuts_name (by decide) ha (by simp [hn, hd]) (by decide)).append hsp hsep, ⟨'a', _, rfl, by decide⟩⟩
  · rw [show "or".toList = ['o', 'r'] from rfl]
    exact ⟨(cuts_name (by decide) ho (by simp [hr]) (by decide)).append hsp hsep, ⟨'o', _, rfl, by decide⟩⟩
  · rw [show "not".toList = ['n', 'o', 't'] from rfl]
    exact ⟨(cuts_name (by decide) hn (by simp [ho, ht]) (by decide)).append hsp hsep, ⟨'n', _, rfl, by decide⟩⟩

theorem keywordWord_isKeyword {w : String} (p : Nat) : Token.IsKeyword w ⟨.keyword, String.ofList w.toList, p⟩ :=
  ⟨rfl, String.ofList_toList⟩

theorem tokensOf_cons (p : Nat) (kind : TokenKind) (w : List Char) (ws : List (TokenKind × List Char)) :
    tokensOf p ((kind, w) :: ws) = ⟨kind, String.ofList w, p⟩ :: tokensOf (p + (codePoints w).length) ws := rfl

theorem Reprints.append {α β : Type} {R : List Char → List Token → α → List Token → Prop}
    {S : List Char → List Token → β → List Token → Prop} {x y : List Char} {v : α} {w : β}
    (hx : Reprints R x v) (hy : Reprints S y w) (hd : HeadDelimits y) :
    ∃ ws, Cuts Delimits (x ++ y) ws ∧ ∀ src p rest, Placed src (tokensOf p ws ++ rest) →
      ∃ mid, R src (tokensOf p ws ++ rest) v mid ∧ S src mid w rest ∧ Placed src mid := by
  obtain ⟨wx, hcx, hrx⟩ := hx
  obtain ⟨wy, hcy, hry⟩ := hy
  refine ⟨wx ++ wy, hcx.append hcy hd, fun src p rest hp => ?_⟩
  obtain ⟨p', hp'⟩ := tokensOf_append p wx wy
  rw [hp', List.append_assoc] at hp ⊢
  have hmid : Placed src (tokensOf p' wy ++ rest) := hp.drop
  exact ⟨_, hrx src p _ hp, hry src p' rest hmid, hmid⟩

/-! ## Complex selectors and lists read back

One lemma per rule of the grammar: the printed parts of a node read back, so the node does. The
`reprint` lemmas then follow the first parse's derivation and apply these at each node. -/

theorem combinator_word (K : Combinator) (hK : K ≠ .descendant) :
    ∃ ch kc, K.symbol.toList = [ch] ∧ (∀ r, scanToken ch r = some (kc, 0)) ∧
      classify kc (String.ofList [ch]) = kc ∧ isBlank ch = false ∧ (kc = .child ∨ kc = .sibling) ∧
      ∀ p, combinatorOf ⟨kc, String.ofList [ch], p⟩ = K := by
  have hb : ∀ c : Char, c.toNat < 0x09 ∨ (0x20 < c.toNat ∧ c.toNat < 0x85) → isBlank c = false := by
    intro c hc
    simp only [isBlank, Bool.or_eq_false_iff, Bool.and_eq_false_iff, decide_eq_false_iff_not, beq_eq_false_iff_ne,
      ne_eq]
    omega
  cases K with
  | descendant => exact absurd rfl hK
  | child =>
    exact ⟨'>', .child, rfl, fun r => by simp [scanToken, hb '>' (by decide)], by decide, hb '>' (by decide),
      .inl rfl, fun p => by simp [combinatorOf]⟩
  | adjacent =>
    exact ⟨'+', .sibling, rfl, fun r => by simp [scanToken, hb '+' (by decide)], by decide, hb '+' (by decide),
      .inr rfl, fun p => by simp [combinatorOf]⟩
  | sibling =>
    exact ⟨'~', .sibling, rfl, fun r => by simp [scanToken, hb '~' (by decide)], by decide, hb '~' (by decide),
      .inr rfl, fun p => by simp [combinatorOf]⟩

theorem ComplexTail.reprints_nil : Reprints ComplexTail (tailText []).toList [] ∧ HeadDelimits (tailText []).toList :=
  ⟨⟨[], cuts_nil _, fun _ _ rest _ => .stop rest⟩, headDelimits_nil⟩

theorem ComplexTail.reprints_cons {K : Combinator} {k : Compound} {more : List (Combinator × Compound)}
    (hk : Reprints CompoundRel k.source.toList k) (hsk : StartsUnblank k.source.toList)
    (ht : Reprints ComplexTail (tailText more).toList more) (hdt : HeadDelimits (tailText more).toList) :
    Reprints ComplexTail (tailText ((K, k) :: more)).toList ((K, k) :: more) ∧
      HeadDelimits (tailText ((K, k) :: more)).toList := by
  obtain ⟨wkt, hcut, hrel⟩ := hk.append ht hdt
  by_cases hK : K = .descendant
  · -- white space is the combinator: one blank, then the compound
    subst hK
    have htext : (tailText ((.descendant, k) :: more)).toList = ' ' :: (k.source.toList ++ (tailText more).toList) := by
      simp [tailText]
    rw [htext]
    refine ⟨⟨(.space, [' ']) :: wkt, hcut.space_before (hsk.append _), fun src p rest hp => ?_⟩,
      headDelimits_cons delimits_space⟩
    simp only [tokensOf_cons, List.cons_append] at hp ⊢
    obtain ⟨mid, hk', ht', -⟩ := hrel src _ rest hp.tail
    exact .descendant rfl hk' ht'
  · obtain ⟨ch, kc, hsym, hscan, hcl, hblank, hkc, hcomb⟩ := combinator_word K hK
    have htext : (tailText ((K, k) :: more)).toList =
        ' ' :: ch :: ' ' :: (k.source.toList ++ (tailText more).toList) := by
      simp [tailText, hK, hsym]
    rw [htext]
    refine ⟨⟨(.space, [' ']) :: (kc, [ch]) :: (.space, [' ']) :: wkt,
      (Cuts.single_before hscan hcl (hcut.space_before (hsk.append _))).space_before ⟨ch, _, rfl, hblank⟩,
      fun src p rest hp => ?_⟩, headDelimits_cons delimits_space⟩
    simp only [tokensOf_cons, List.cons_append] at hp ⊢
    obtain ⟨mid, hk', ht', -⟩ := hrel src _ rest hp.tail.tail.tail
    rw [← hcomb (p + (codePoints [' ']).length)]
    exact .joined (.one _ rfl) hkc (.one _ rfl) hk' ht'

/-- The compounds after the first of a complex selector read back, each after its combinator. -/
theorem ComplexTail.reprint {src : List Char} {ts rest : List Token} {more : List (Combinator × Compound)}
    (h : ComplexTail src ts more rest) (hp : Placed src ts) :
    Reprints ComplexTail (tailText more).toList more ∧ HeadDelimits (tailText more).toList := by
  induction h with
  | stop ts => exact ComplexTail.reprints_nil
  | @joined ts ts1 ts2 ts3 rest c k more h1 hc h2 hk hmore ih =>
    have hp2 : Placed src ts2 := ((hp.leaves h1.leaves).tail).leaves h2.leaves
    obtain ⟨hrk, hsk⟩ := hk.reprint hp2
    obtain ⟨hrt, hdt⟩ := ih (hp2.leaves hk.leaves)
    exact ComplexTail.reprints_cons hrk hsk hrt hdt
  | @descendant w ts ts1 rest k more hw hk hmore ih =>
    have hp1 : Placed src ts := hp.tail
    obtain ⟨hrk, hsk⟩ := hk.reprint hp1
    obtain ⟨hrt, hdt⟩ := ih (hp1.leaves hk.leaves)
    exact ComplexTail.reprints_cons hrk hsk hrt hdt

theorem Complex.text_absolute (k : Compound) (more : List (Combinator × Compound)) :
    (Selector.Complex.mk k more false).text.toList = k.source.toList ++ (tailText more).toList := by
  simp [Complex.text, Complex.css_eq]

theorem Complex.text_relative (k : Compound) (more : List (Combinator × Compound)) :
    (Selector.Complex.mk k more true).text.toList = '>' :: ' ' :: (k.source.toList ++ (tailText more).toList) := by
  simp [Complex.text, Complex.css_eq]

theorem ComplexRel.reprints_of {x : Selector.Complex} (hk : Reprints CompoundRel x.first.source.toList x.first)
    (hsk : StartsUnblank x.first.source.toList) (ht : Reprints ComplexTail (tailText x.rest).toList x.rest)
    (hdt : HeadDelimits (tailText x.rest).toList) :
    Reprints ComplexRel x.text.toList x ∧ StartsUnblank x.text.toList := by
  obtain ⟨k, more, relative⟩ := x
  obtain ⟨wkt, hcut, hrel⟩ := hk.append ht hdt
  cases relative with
  | false =>
    rw [Complex.text_absolute]
    refine ⟨⟨wkt, hcut, fun src p rest hp => ?_⟩, hsk.append _⟩
    obtain ⟨mid, hk', ht', -⟩ := hrel src p rest hp
    exact .absolute hk' ht'
  | true =>
    obtain ⟨ch, kc, hsym, hscan, hcl, hblank, -, hcomb⟩ := combinator_word .child (by decide)
    have hch : ch = '>' := by simpa [Combinator.symbol] using hsym.symm
    subst hch
    have hkc : kc = .child := by simpa [combinatorOf] using hcomb 0
    subst hkc
    rw [Complex.text_relative]
    refine ⟨⟨(.child, ['>']) :: (.space, [' ']) :: wkt, Cuts.single_before hscan hcl (hcut.space_before (hsk.append _)),
      fun src p rest hp => ?_⟩, ⟨'>', _, rfl, hblank⟩⟩
    simp only [tokensOf_cons, List.cons_append] at hp ⊢
    obtain ⟨mid, hk', ht', -⟩ := hrel src _ rest hp.tail.tail
    exact .relative rfl (.one _ rfl) hk' ht'

/-- A complex selector reads back from its printed form. -/
theorem ComplexRel.reprint {src : List Char} {ts rest : List Token} {x : Selector.Complex}
    (h : ComplexRel src ts x rest) (hp : Placed src ts) :
    Reprints ComplexRel x.text.toList x ∧ StartsUnblank x.text.toList := by
  cases h with
  | @absolute ts ts1 rest k more hk hmore =>
    obtain ⟨hrk, hsk⟩ := hk.reprint hp
    obtain ⟨hrt, hdt⟩ := hmore.reprint (hp.leaves hk.leaves)
    exact ComplexRel.reprints_of hrk hsk hrt hdt
  | @relative g ts ts1 ts2 rest k more hg hs hk hmore =>
    have hp1 : Placed src ts1 := hp.tail.leaves hs.leaves
    obtain ⟨hrk, hsk⟩ := hk.reprint hp1
    obtain ⟨hrt, hdt⟩ := hmore.reprint (hp1.leaves hk.leaves)
    exact ComplexRel.reprints_of hrk hsk hrt hdt

theorem ListTail.reprints_nil : Reprints ListTail (listText []).toList [] ∧ HeadDelimits (listText []).toList :=
  ⟨⟨[], cuts_nil _, fun _ _ rest _ => .stop rest⟩, headDelimits_nil⟩

theorem ListTail.reprints_cons {x : Selector.Complex} {more : List Selector.Complex}
    (hx : Reprints ComplexRel x.text.toList x) (hsx : StartsUnblank x.text.toList)
    (hm : Reprints ListTail (listText more).toList more) (hdm : HeadDelimits (listText more).toList) :
    Reprints ListTail (listText (x :: more)).toList (x :: more) ∧ HeadDelimits (listText (x :: more)).toList := by
  obtain ⟨wxm, hcut, hrel⟩ := hx.append hm hdm
  have htext : (listText (x :: more)).toList = ',' :: ' ' :: (x.text.toList ++ (listText more).toList) := by
    simp [listText]
  have hscan : ∀ r, scanToken ',' r = some (.comma, 0) := fun r => by
    simp [scanToken, show isBlank ',' = false by decide]
  rw [htext]
  refine ⟨⟨(.comma, [',']) :: (.space, [' ']) :: wxm,
    Cuts.single_before hscan (by decide) (hcut.space_before (hsx.append _)), fun src p rest hp => ?_⟩,
    headDelimits_cons delimits_comma⟩
  simp only [tokensOf_cons, List.cons_append] at hp ⊢
  obtain ⟨mid, hx', hm', -⟩ := hrel src _ rest hp.tail.tail
  exact .comma (.none _) rfl (.one _ rfl) hx' hm'

/-- The complex selectors after the first of a list read back, each after a comma and a blank. -/
theorem ListTail.reprint {src : List Char} {ts rest : List Token} {xs : List Selector.Complex}
    (h : ListTail src ts xs rest) (hp : Placed src ts) :
    Reprints ListTail (listText xs).toList xs ∧ HeadDelimits (listText xs).toList := by
  induction h with
  | stop ts => exact ListTail.reprints_nil
  | @comma ts ts1 ts2 ts3 rest c x more h1 hc h2 hx hmore ih =>
    have hp2 : Placed src ts2 := ((hp.leaves h1.leaves).tail).leaves h2.leaves
    obtain ⟨hrx, hsx⟩ := hx.reprint hp2
    obtain ⟨hrm, hdm⟩ := ih (hp2.leaves hx.leaves)
    exact ListTail.reprints_cons hrx hsx hrm hdm

theorem ListRel.reprints_of {x : Selector.Complex} {more : List Selector.Complex}
    (hx : Reprints ComplexRel x.text.toList x) (hsx : StartsUnblank x.text.toList)
    (hm : Reprints ListTail (listText more).toList more) (hdm : HeadDelimits (listText more).toList) :
    Reprints ListRel (Expr.selectors (x :: more)).text.toList (x :: more) ∧
      StartsUnblank (Expr.selectors (x :: more)).text.toList := by
  obtain ⟨wxm, hcut, hrel⟩ := hx.append hm hdm
  rw [Expr.text_selectors, String.toList_append]
  refine ⟨⟨wxm, hcut, fun src p rest hp => ?_⟩, hsx.append _⟩
  obtain ⟨mid, hx', hm', -⟩ := hrel src p rest hp
  exact .mk hx' hm'

/-- A selector list reads back from its printed form. -/
theorem ListRel.reprint {src : List Char} {ts rest : List Token} {xs : List Selector.Complex}
    (h : ListRel src ts xs rest) (hp : Placed src ts) :
    Reprints ListRel (Expr.selectors xs).text.toList xs ∧ StartsUnblank (Expr.selectors xs).text.toList := by
  cases h with
  | mk hx hmore =>
    obtain ⟨hrx, hsx⟩ := hx.reprint hp
    obtain ⟨hrm, hdm⟩ := hmore.reprint (hp.leaves hx.leaves)
    exact ListRel.reprints_of hrx hsx hrm hdm

/-! ## Expressions read back -/

theorem Cuts.mono {p q : Char → Prop} {cs : List Char} {ws : List (TokenKind × List Char)} (h : Cuts p cs ws)
    (hpq : ∀ d, q d → p d) : Cuts q cs ws :=
  fun rest wr hc hq => h rest wr hc fun d hd => hpq d (hq d hd)

theorem Reprints.map {α β : Type} {R : List Char → List Token → α → List Token → Prop}
    {S : List Char → List Token → β → List Token → Prop} {x : List Char} {v : α} {w : β}
    (h : Reprints R x v) (hRS : ∀ {src ts rest}, R src ts v rest → S src ts w rest) : Reprints S x w := by
  obtain ⟨ws, hcut, hrel⟩ := h
  exact ⟨ws, hcut, fun src p rest hp => hRS (hrel src p rest hp)⟩

theorem Cuts.operator_before {w : String} (hw : IsKeywordWord w) {x : List Char} {wx : List (TokenKind × List Char)}
    (hx : Cuts Delimits x wx) (hs : StartsUnblank x) :
    Cuts Delimits (' ' :: (w.toList ++ ' ' :: x)) ((.space, [' ']) :: (.keyword, w.toList) :: (.space, [' ']) :: wx) := by
  obtain ⟨hcut, hstart⟩ := Cuts.keyword_before hw hx hs
  exact hcut.space_before hstart

theorem scanToken_open (r : List Char) : scanToken '(' r = some (.openParen, 0) := by
  simp [scanToken, show isBlank '(' = false by decide]

theorem scanToken_close (r : List Char) : scanToken ')' r = some (.closeParen, 0) := by
  simp [scanToken, show isBlank ')' = false by decide]

theorem PrimRel.reprints_group {e : Expr} (he : Reprints OrRel e.text.toList e) :
    Reprints PrimRel (Expr.group e).text.toList (.group e) ∧ StartsUnblank (Expr.group e).text.toList := by
  obtain ⟨we, hcut, hrel⟩ := he
  have hclose : Cuts Delimits [')'] [(.closeParen, [')'])] :=
    (cuts_single scanToken_close (by decide)).mono fun _ _ => trivial
  have htext : (Expr.group e).text.toList = '(' :: (e.text.toList ++ [')']) := by
    simp [Expr.text]
  rw [htext]
  refine ⟨⟨(.openParen, ['(']) :: (we ++ [(.closeParen, [')'])]),
    Cuts.single_before scanToken_open (by decide) (hcut.append hclose (headDelimits_cons delimits_close)),
    fun src p rest hp => ?_⟩, ⟨'(', _, rfl, by decide⟩⟩
  obtain ⟨p2, hp2⟩ := tokensOf_append (p + (codePoints ['(']).length) we [(.closeParen, [')'])]
  simp only [tokensOf_cons, List.cons_append, hp2, List.append_assoc] at hp ⊢
  simp only [tokensOf] at hp ⊢
  exact .group (.none _) rfl (hrel src _ _ hp.tail) (.none _) rfl

theorem NotRel.reprints_not {e : Expr} (he : Reprints NotRel e.text.toList e) (hse : StartsUnblank e.text.toList) :
    Reprints NotRel (Expr.not e).text.toList (.not e) ∧ StartsUnblank (Expr.not e).text.toList := by
  obtain ⟨we, hcut, hrel⟩ := he
  obtain ⟨hcut', hstart⟩ := Cuts.keyword_before (.inr (.inr rfl)) hcut hse
  have htext : (Expr.not e).text.toList = "not".toList ++ ' ' :: e.text.toList := by
    simp [Expr.text]
  rw [htext]
  refine ⟨⟨_, hcut', fun src p rest hp => ?_⟩, hstart⟩
  simp only [tokensOf_cons, List.cons_append] at hp ⊢
  exact .not (.none _) (keywordWord_isKeyword _) (.one _ rfl) (hrel src _ rest hp.tail.tail)

theorem NotRel.reprints_single {x : Selector.Complex} (hx : Reprints ComplexRel x.text.toList x)
    (hsx : StartsUnblank x.text.toList) :
    Reprints NotRel (Expr.selectors [x]).text.toList (.selectors [x]) ∧ StartsUnblank (Expr.selectors [x]).text.toList := by
  obtain ⟨hl, hsl⟩ := ListRel.reprints_of hx hsx ListTail.reprints_nil.1 ListTail.reprints_nil.2
  exact ⟨hl.map fun h => .primary (.selectors (.none _) h), hsl⟩

/-- The operands of a chain after its left one, read back: what the printed whole adds to the
printed accumulated expression `acc`, and which `Tail` reads as the whole. -/
def TailReprints (Tail : Expr → List Char → List Token → Expr → List Token → Prop) (acc e : Expr) : Prop :=
  ∃ x : String, e.text = acc.text ++ x ∧ Reprints (Tail acc) x.toList e ∧ HeadDelimits x.toList

theorem TailReprints.stop {Tail : Expr → List Char → List Token → Expr → List Token → Prop} {acc : Expr}
    (hstop : ∀ src ts, Tail acc src ts acc ts) : TailReprints Tail acc acc :=
  ⟨"", by simp, ⟨[], cuts_nil _, fun src _ rest _ => hstop src rest⟩, headDelimits_nil⟩

theorem TailReprints.more {Operand : List Char → List Token → Expr → List Token → Prop}
    {Tail : Expr → List Char → List Token → Expr → List Token → Prop} {w : String} (hw : IsKeywordWord w)
    {op : Expr → Expr → Expr} (hop : ∀ a b, (op a b).text = a.text ++ " " ++ w ++ " " ++ b.text)
    (hmore : ∀ {src : List Char} {acc r e : Expr} {ts ts1 ts2 ts3 rest : List Token} {k : Token},
      OptSpace ts (k :: ts1) → k.IsKeyword w → OptSpace ts1 ts2 → Operand src ts2 r ts3 →
        Tail (op acc r) src ts3 e rest → Tail acc src ts e rest)
    {acc r e : Expr} (hr : Reprints Operand r.text.toList r) (hsr : StartsUnblank r.text.toList)
    (ht : TailReprints Tail (op acc r) e) : TailReprints Tail acc e := by
  obtain ⟨x, hex, hrt, hdt⟩ := ht
  obtain ⟨ws, hcut, hrel⟩ := hr.append hrt hdt
  have htext : (" " ++ w ++ " " ++ r.text ++ x).toList = ' ' :: (w.toList ++ ' ' :: (r.text.toList ++ x.toList)) := by
    simp
  refine ⟨" " ++ w ++ " " ++ r.text ++ x, by rw [hex, hop]; simp [String.append_assoc], ?_, ?_⟩
  · rw [htext]
    refine ⟨(.space, [' ']) :: (.keyword, w.toList) :: (.space, [' ']) :: ws,
      Cuts.operator_before hw hcut (hsr.append _), fun src p rest hp => ?_⟩
    simp only [tokensOf_cons, List.cons_append] at hp ⊢
    obtain ⟨mid, hr', ht', -⟩ := hrel src _ rest hp.tail.tail.tail
    exact hmore (.one _ rfl) (keywordWord_isKeyword _) (.one _ rfl) hr' ht'
  · rw [htext]
    exact headDelimits_cons delimits_space

theorem TailReprints.chain {Operand Rel : List Char → List Token → Expr → List Token → Prop}
    {Tail : Expr → List Char → List Token → Expr → List Token → Prop}
    (hmk : ∀ {src : List Char} {l e : Expr} {ts ts1 rest : List Token},
      Operand src ts l ts1 → Tail l src ts1 e rest → Rel src ts e rest)
    {l e : Expr} (hl : Reprints Operand l.text.toList l) (hsl : StartsUnblank l.text.toList)
    (ht : TailReprints Tail l e) : Reprints Rel e.text.toList e ∧ StartsUnblank e.text.toList := by
  obtain ⟨x, hex, hrt, hdt⟩ := ht
  obtain ⟨ws, hcut, hrel⟩ := hl.append hrt hdt
  rw [hex, String.toList_append]
  refine ⟨⟨ws, hcut, fun src p rest hp => ?_⟩, hsl.append _⟩
  obtain ⟨mid, hl', ht', -⟩ := hrel src p rest hp
  exact hmk hl' ht'

theorem AndTail.reprints_more {acc r e : Expr} (hr : Reprints NotRel r.text.toList r) (hsr : StartsUnblank r.text.toList)
    (ht : TailReprints (fun acc src ts v rest => AndTail src acc ts v rest) (.and acc r) e) :
    TailReprints (fun acc src ts v rest => AndTail src acc ts v rest) acc e :=
  TailReprints.more (by unfold IsKeywordWord; decide) (fun a b => by simp [Expr.text, String.append_assoc])
    (fun h1 hk h2 hr ht => .more h1 hk h2 hr ht) hr hsr ht

theorem OrTail.reprints_more {acc r e : Expr} (hr : Reprints AndRel r.text.toList r) (hsr : StartsUnblank r.text.toList)
    (ht : TailReprints (fun acc src ts v rest => OrTail src acc ts v rest) (.or acc r) e) :
    TailReprints (fun acc src ts v rest => OrTail src acc ts v rest) acc e :=
  TailReprints.more (by unfold IsKeywordWord; decide) (fun a b => by simp [Expr.text, String.append_assoc])
    (fun h1 hk h2 hr ht => .more h1 hk h2 hr ht) hr hsr ht

theorem AndRel.reprints_of {l e : Expr} (hl : Reprints NotRel l.text.toList l) (hsl : StartsUnblank l.text.toList)
    (ht : TailReprints (fun acc src ts v rest => AndTail src acc ts v rest) l e) :
    Reprints AndRel e.text.toList e ∧ StartsUnblank e.text.toList :=
  TailReprints.chain (fun hl ht => .mk hl ht) hl hsl ht

theorem OrRel.reprints_of {l e : Expr} (hl : Reprints AndRel l.text.toList l) (hsl : StartsUnblank l.text.toList)
    (ht : TailReprints (fun acc src ts v rest => OrTail src acc ts v rest) l e) :
    Reprints OrRel e.text.toList e ∧ StartsUnblank e.text.toList :=
  TailReprints.chain (fun hl ht => .mk hl ht) hl hsl ht

mutual

/-- An expression reads back from its printed form. -/
theorem OrRel.reprint {src : List Char} {ts rest : List Token} {e : Expr} (h : OrRel src ts e rest)
    (hp : Placed src ts) : Reprints OrRel e.text.toList e ∧ StartsUnblank e.text.toList :=
  match h with
  | .mk hl ht => by
    obtain ⟨hrl, hsl⟩ := AndRel.reprint hl hp
    exact OrRel.reprints_of hrl hsl (OrTail.reprint ht (hp.leaves hl.leaves))

/-- The `or` operands after the left one read back, each after ` or `. -/
theorem OrTail.reprint {src : List Char} {acc e : Expr} {ts rest : List Token} (h : OrTail src acc ts e rest)
    (hp : Placed src ts) : TailReprints (fun acc src ts v rest => OrTail src acc ts v rest) acc e :=
  match h with
  | .stop => TailReprints.stop fun _ _ => .stop
  | @OrTail.more _ _ r _ _ ts1 ts2 _ _ _ h1 _ h2 hand ht => by
    have hp2 : Placed src ts2 := ((hp.leaves h1.leaves).tail).leaves h2.leaves
    obtain ⟨hrr, hsr⟩ := AndRel.reprint hand hp2
    exact OrTail.reprints_more hrr hsr (OrTail.reprint ht (hp2.leaves hand.leaves))

/-- An `and`-expression reads back from its printed form. -/
theorem AndRel.reprint {src : List Char} {ts rest : List Token} {e : Expr} (h : AndRel src ts e rest)
    (hp : Placed src ts) : Reprints AndRel e.text.toList e ∧ StartsUnblank e.text.toList :=
  match h with
  | .mk hl ht => by
    obtain ⟨hrl, hsl⟩ := NotRel.reprint hl hp
    exact AndRel.reprints_of hrl hsl (AndTail.reprint ht (hp.leaves hl.leaves))

/-- The `and` operands after the left one read back, each after ` and `. -/
theorem AndTail.reprint {src : List Char} {acc e : Expr} {ts rest : List Token} (h : AndTail src acc ts e rest)
    (hp : Placed src ts) : TailReprints (fun acc src ts v rest => AndTail src acc ts v rest) acc e :=
  match h with
  | .stop => TailReprints.stop fun _ _ => .stop
  | @AndTail.more _ _ r _ _ ts1 ts2 _ _ _ h1 _ h2 hnot ht => by
    have hp2 : Placed src ts2 := ((hp.leaves h1.leaves).tail).leaves h2.leaves
    obtain ⟨hrr, hsr⟩ := NotRel.reprint hnot hp2
    exact AndTail.reprints_more hrr hsr (AndTail.reprint ht (hp2.leaves hnot.leaves))

/-- A `not`-expression reads back from its printed form. -/
theorem NotRel.reprint {src : List Char} {ts rest : List Token} {e : Expr} (h : NotRel src ts e rest)
    (hp : Placed src ts) : Reprints NotRel e.text.toList e ∧ StartsUnblank e.text.toList :=
  match h with
  | @NotRel.not _ e' _ ts1 ts2 _ _ h1 _ h2 he => by
    have hp2 : Placed src ts2 := ((hp.leaves h1.leaves).tail).leaves h2.leaves
    obtain ⟨hre, hse⟩ := NotRel.reprint he hp2
    exact NotRel.reprints_not hre hse
  | .primary he => by
    obtain ⟨hr, hs⟩ := PrimRel.reprint he hp
    exact ⟨hr.map .primary, hs⟩

/-- A primary expression reads back: a group in parentheses, or a selector list. -/
theorem PrimRel.reprint {src : List Char} {ts rest : List Token} {e : Expr} (h : PrimRel src ts e rest)
    (hp : Placed src ts) : Reprints PrimRel e.text.toList e ∧ StartsUnblank e.text.toList :=
  match h with
  | @PrimRel.group _ e' _ ts1 _ _ _ _ h1 _ he _ _ =>
    PrimRel.reprints_group (OrRel.reprint he ((hp.leaves h1.leaves).tail)).1
  | .selectors h1 hl => by
    obtain ⟨hr, hs⟩ := ListRel.reprint hl (hp.leaves h1.leaves)
    exact ⟨hr.map (.selectors (.none _)), hs⟩

end

end Stencil.Selector

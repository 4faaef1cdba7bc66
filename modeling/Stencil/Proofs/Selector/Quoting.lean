import Mathlib
import Stencil.Proofs.Selector.Spelling
/-!
# Quoted literals

A key or a pseudo-class argument can stand for any text when it is quoted: the text is written
between two quotes `q` (`"` or `'`), with a backslash before every backslash and every `q` in it
(`quoteWith`). Such a literal passes unchanged through the three layers that read it: the lexer
scans it to its closing quote as part of one key or pseudo-class token, the parser makes of that
token a selector list of one compound, and `unquote` gives the text back.

Proof. The scanners read the escapes of a literal in pairs and stop at the first quote that is
not escaped, whatever follows it (`quotedRest_escapeWith`, `argsRest_escapeWith`); `unescape`
undoes the escaping (`unescape_escapeWith`). A text that lexes to one part token is a sentence of
the grammar, so it parses to the selector list of that one compound (`parse_single_part`).

* `escapeWith`, `quoteWith` : the quoted literal of a text.
* `unquote_quoteWith` : reading a quoted literal gives its text.
* `parse_quoted_key`, `parse_quoted_argument` : a quoted key, and a pseudo-class with a quoted
  argument, as a whole selector.
* `quoted_literal_survives` : the key is the text, and the argument that `:contains` and `:val`
  compare with is the text.
-/

namespace Stencil.Selector

open Stencil.Text

/-! ## The quoted literal of a text -/

/-- The characters of a text inside a literal quoted with `q`: a backslash before every
backslash and every `q`. -/
def escapeWith (q : Char) : List Char → List Char
  | [] => []
  | c :: r => if c = '\\' ∨ c = q then '\\' :: c :: escapeWith q r else c :: escapeWith q r

/-- The literal of `k` quoted with `q`. -/
def quoteWith (q : Char) (k : String) : String := String.ofList (q :: escapeWith q k.toList ++ [q])

def IsQuote (q : Char) : Prop := q = '"' ∨ q = '\''

theorem IsQuote.ne_backslash {q : Char} (hq : IsQuote q) : q ≠ '\\' := by
  rcases hq with rfl | rfl <;> decide

theorem IsQuote.not_blank {q : Char} (hq : IsQuote q) : isBlank q = false := by
  rcases hq with rfl | rfl <;> decide

theorem escapeWith_cons_escaped {q c : Char} (h : c = '\\' ∨ c = q) (r : List Char) :
    escapeWith q (c :: r) = '\\' :: c :: escapeWith q r := by
  rw [escapeWith, if_pos h]

theorem escapeWith_cons_plain {q c : Char} (hc : c ≠ '\\') (hcq : c ≠ q) (r : List Char) :
    escapeWith q (c :: r) = c :: escapeWith q r := by
  rw [escapeWith, if_neg (by rintro (h | h) <;> contradiction)]

theorem unescape_cons_of_ne {c : Char} (hc : c ≠ '\\') (r : List Char) :
    unescape (c :: r) = c :: unescape r := by
  cases r <;> simp [unescape, hc]

@[simp] theorem unescape_escapeWith (q : Char) (k : List Char) : unescape (escapeWith q k) = k := by
  induction k with
  | nil => rfl
  | cons c r ih =>
    by_cases h : c = '\\' ∨ c = q
    · rw [escapeWith_cons_escaped h, unescape, ih]
    · have hc : c ≠ '\\' := fun e => h (.inl e)
      rw [escapeWith_cons_plain hc (fun e => h (.inr e)), unescape_cons_of_ne hc, ih]

theorem trimBlankList_of_ends {a b : Char} (ha : isBlank a = false) (hb : isBlank b = false)
    (m : List Char) : trimBlankList (a :: m ++ [b]) = a :: m ++ [b] := by
  simp [trimBlankList, dropBlank, ha, hb]

/-- Reading a quoted literal gives the text it quotes. -/
theorem unquote_quoteWith {q : Char} (hq : IsQuote q) (k : String) : unquote (quoteWith q k) = k := by
  obtain ⟨x, xs, hx⟩ : ∃ x xs, escapeWith q k.toList ++ [q] = x :: xs :=
    List.exists_cons_of_ne_nil (by simp)
  have hlast : (x :: xs).getLast? = some q := by rw [← hx, List.getLast?_concat]
  have hbody : (x :: xs).dropLast = escapeWith q k.toList := by rw [← hx, List.dropLast_concat]
  unfold unquote quoteWith
  rw [String.toList_ofList, List.cons_append, ← List.cons_append,
    trimBlankList_of_ends hq.not_blank hq.not_blank, List.cons_append, hx]
  simp only [hlast, hbody, unescape_escapeWith, String.ofList_toList, and_true]
  rw [if_pos (show q = '"' ∨ q = '\'' from hq)]

/-! ## Scanning a quoted literal -/

/-- A quoted literal is scanned to its closing quote, whatever follows it. -/
theorem quotedRest_escapeWith {q : Char} (hq : q ≠ '\\') (k r : List Char) :
    quotedRest q (escapeWith q k ++ q :: r) = some ((escapeWith q k).length + 1) := by
  induction k with
  | nil => simp [escapeWith, quotedRest_cons hq]
  | cons c k ih =>
    by_cases h : c = '\\' ∨ c = q
    · simp [escapeWith_cons_escaped h, quotedRest, ih]
    · have hc : c ≠ '\\' := fun e => h (.inl e)
      have hcq : c ≠ q := fun e => h (.inr e)
      simp [escapeWith_cons_plain hc hcq, quotedRest_cons hc, hcq, ih]

/-- A quoted literal inside a pseudo-class argument is scanned to its closing quote, and the
scan goes on after it outside any literal. -/
theorem argsRest_escapeWith {q : Char} (hq : q ≠ '\\') (nested : Bool) (k r : List Char) :
    argsRest nested (some q) (escapeWith q k ++ q :: r) =
      (argsRest nested none r).map (· + ((escapeWith q k).length + 1)) := by
  induction k with
  | nil => simp [escapeWith, argsRest_some_cons hq]
  | cons c k ih =>
    by_cases h : c = '\\' ∨ c = q
    · rw [escapeWith_cons_escaped h, List.cons_append, List.cons_append, argsRest, ih,
        Option.map_map]
      congr 1
    · have hc : c ≠ '\\' := fun e => h (.inl e)
      have hcq : c ≠ q := fun e => h (.inr e)
      rw [escapeWith_cons_plain hc hcq, List.cons_append, argsRest_some_cons hc, if_neg hcq, ih,
        Option.map_map]
      congr 1

/-! ## Lexing a quoted literal -/

theorem quotedLength_quote {q : Char} (hq : IsQuote q) (r : List Char) :
    quotedLength (q :: r) = (quotedRest q r).map (· + 1) := by
  rcases hq with rfl | rfl <;> rfl

theorem argsRest_none_quote {q : Char} (hq : IsQuote q) (nested : Bool) (r : List Char) :
    argsRest nested none (q :: r) = (argsRest nested (some q) r).map (· + 1) := by
  simp [argsRest, show q = '"' ∨ q = '\'' from hq]

theorem isNameChar_open : isNameChar '(' = false := by decide +kernel

theorem scanToken_dot (r : List Char) : scanToken '.' r = (keyRest r).map (.key, ·) := by
  simp [scanToken, show isBlank '.' = false by decide]

theorem scanToken_colon (r : List Char) : scanToken ':' r = (pseudoRest r).map (.pseudo, ·) := by
  simp [scanToken, show isBlank ':' = false by decide]

theorem length_quoteWith (q : Char) (k : String) :
    (quoteWith q k).toList.length = (escapeWith q k.toList).length + 2 := by
  simp [quoteWith]

theorem keyRest_quoteWith {q : Char} (hq : IsQuote q) (k : String) :
    keyRest (quoteWith q k).toList = some (quoteWith q k).toList.length := by
  rw [length_quoteWith, keyRest, quoteWith, String.toList_ofList, List.cons_append,
    quotedLength_quote hq, quotedRest_escapeWith hq.ne_backslash]
  rfl

theorem pseudoRest_quoted {q : Char} (hq : IsQuote q) {name : List Char} (hname : name ≠ [])
    (hchars : ∀ c ∈ name, isNameChar c = true) (k : String) :
    pseudoRest (name ++ '(' :: (quoteWith q k).toList ++ [')']) =
      some (name ++ '(' :: (quoteWith q k).toList ++ [')']).length := by
  have hlen : nameLength (name ++ '(' :: (quoteWith q k).toList ++ [')']) = name.length := by
    rw [nameLength, List.append_assoc, List.takeWhile_append_of_pos hchars, List.cons_append,
      List.takeWhile_cons_of_neg (by simp [isNameChar_open]), List.append_nil]
  have hne : name.length ≠ 0 := by simpa using hname
  have hargs : argsRest false none ((quoteWith q k).toList ++ [')']) =
      some ((escapeWith q k.toList).length + 3) := by
    simp only [quoteWith, String.toList_ofList, List.cons_append, List.append_assoc,
      List.nil_append]
    have hclose : argsRest false none [')'] = some 1 := by simp [argsRest]
    rw [argsRest_none_quote hq, argsRest_escapeWith hq.ne_backslash, hclose, Option.map_some,
      Option.map_some]
    congr 1
    omega
  rw [pseudoRest, hlen, if_neg hne, List.append_assoc, List.drop_left, List.cons_append]
  simp only [hargs, List.length_append, List.length_cons, List.length_nil, length_quoteWith,
    Option.some.injEq]
  omega

theorem tokenize_single {s : String} {c : Char} {body : List Char} {k : TokenKind}
    (hs : s.toList = c :: body) (hscan : scanToken c body = some (k, body.length))
    (hk : classify k s = k) :
    ∃ n, tokenize s = .ok [⟨k, s, 0⟩, ⟨.eof, "", n⟩] := by
  have hcut : Cut s.toList [(k, s.toList)] := by
    have h : Cut (c :: body ++ []) [(k, c :: body)] :=
      .cons (by rw [List.append_nil]; exact hscan) (by rw [← hs, String.ofList_toList, hk]) .nil
    rw [List.append_nil] at h
    rw [hs]
    exact h
  obtain ⟨n, hn⟩ := hcut.tokenize
  exact ⟨n, by simpa [tokensOf] using hn⟩

/-! ## Parsing one compound -/

/-- A text that lexes to one part token, then the end of input, parses to the selector list of
that one compound, whatever the room. -/
theorem parse_single_part {room : Nat} {s : String} {t z : Token} (htok : tokenize s = .ok [t, z])
    (ht : t.kind.continuesCompound = true) (hz : z.kind = .eof) :
    parse room s = .ok (.selectors [⟨compoundOf s.toList t [], [], false⟩]) := by
  have hsent : Sentence s.toList [t, z] (.selectors [⟨compoundOf s.toList t [], [], false⟩]) :=
    have hlist : ListRel s.toList [t, z] [⟨compoundOf s.toList t [], [], false⟩] [z] :=
      .mk (.absolute (.bare ht (List.forall_mem_nil _)) (.stop _)) (.stop _)
    ⟨[t, z], [z], z, .none _, .mk (.mk (.primary (.selectors (.none _) hlist)) .stop) .stop,
      .none _, hz⟩
  rw [parse_of_sentence htok hsent, if_pos (by simp [Expr.stackUse])]

theorem slice_whole (s : String) : slice s.toList 0 (codeLength s) = s := by
  have h := (cut_append plainHead_nil s.toList).2
  rw [List.append_nil] at h
  rw [slice, Nat.sub_zero, dropCodes, codeLength, h, String.ofList_toList]

/-- A key quoted with either quote is a whole selector: one complex selector, not relative, of
one compound whose source is the text and whose only key is the quoted text. -/
theorem parse_quoted_key (room : Nat) {q : Char} (hq : IsQuote q) (k : String) :
    parse room ("." ++ quoteWith q k) =
      .ok (.selectors [⟨⟨"." ++ quoteWith q k, none, [k], [], [], []⟩, [], false⟩]) := by
  have hs : ("." ++ quoteWith q k).toList = '.' :: (quoteWith q k).toList := by simp
  obtain ⟨n, htok⟩ := tokenize_single hs
    (by rw [scanToken_dot, keyRest_quoteWith hq]; rfl) (by simp [classify])
  rw [parse_single_part htok rfl rfl, compoundOf]
  simp only [List.getLastD_nil, Token.stop, Nat.zero_add, slice_whole]
  simp [hs, unquote_quoteWith hq]

theorem pseudoOfToken_argument {name : List Char} (hchars : ∀ c ∈ name, isNameChar c = true)
    {arg : List Char} (harg : trimBlankList arg = arg) :
    pseudoOfToken (String.ofList (':' :: (name ++ '(' :: arg ++ [')']))) =
      ⟨lowerText (String.ofList name), some (String.ofList arg)⟩ := by
  -- a name has no opening parenthesis, so the first one opens the argument
  have hname : name.findIdx? (· = '(') = none :=
    List.findIdx?_eq_none_iff.mpr fun c hc => decide_eq_false fun hopen => by
      simpa [hopen, isNameChar_open] using hchars c hc
  have hidx : (name ++ '(' :: arg ++ [')']).findIdx? (· = '(') = some name.length := by
    rw [List.append_assoc, List.findIdx?_append, hname, List.cons_append, List.findIdx?_cons]
    simp
  unfold pseudoOfToken
  simp only [String.toList_ofList, List.drop_succ_cons, List.drop_zero, hidx]
  have hrest : (name ++ '(' :: arg ++ [')']).drop (name.length + 1) = arg ++ [')'] := by
    simp [List.drop_append]
  rw [hrest, List.dropLast_concat, harg, List.append_assoc, List.take_left]

theorem isNameChar_contains : ∀ c ∈ "contains".toList, isNameChar c = true := by
  rw [show "contains".toList = ['c', 'o', 'n', 't', 'a', 'i', 'n', 's'] from rfl]
  intro c hc
  simp only [List.mem_cons, List.not_mem_nil, or_false] at hc
  rcases hc with rfl | rfl | rfl | rfl | rfl | rfl | rfl | rfl <;> decide +kernel

theorem isNameChar_val : ∀ c ∈ "val".toList, isNameChar c = true := by
  rw [show "val".toList = ['v', 'a', 'l'] from rfl]
  intro c hc
  simp only [List.mem_cons, List.not_mem_nil, or_false] at hc
  rcases hc with rfl | rfl | rfl <;> decide +kernel

theorem lowerText_contains : lowerText "contains" = "contains" := by
  have h : lowerAfter [] "contains".toList = "contains".toList := by decide +kernel
  rw [lowerText, h, String.ofList_toList]

theorem lowerText_val : lowerText "val" = "val" := by
  have h : lowerAfter [] "val".toList = "val".toList := by decide +kernel
  rw [lowerText, h, String.ofList_toList]

/-- A pseudo-class whose argument is a quoted literal is a whole selector: one complex selector,
not relative, of one compound whose only part is that pseudo-class, with its name lower-cased
and the literal, quotes and escapes included, as its argument. -/
theorem parse_quoted_argument (room : Nat) {q : Char} (hq : IsQuote q) {name : String}
    (hname : name ≠ "") (hchars : ∀ c ∈ name.toList, isNameChar c = true) (k : String) :
    parse room (":" ++ name ++ "(" ++ quoteWith q k ++ ")") =
      .ok (.selectors [⟨⟨":" ++ name ++ "(" ++ quoteWith q k ++ ")", none, [], [], [],
        [⟨lowerText name, some (quoteWith q k)⟩]⟩, [], false⟩]) := by
  have hs : (":" ++ name ++ "(" ++ quoteWith q k ++ ")").toList =
      ':' :: (name.toList ++ '(' :: (quoteWith q k).toList ++ [')']) := by simp
  have hne : name.toList ≠ [] := by simpa using hname
  have htrim : trimBlankList (quoteWith q k).toList = (quoteWith q k).toList := by
    rw [quoteWith, String.toList_ofList, trimBlankList_of_ends hq.not_blank hq.not_blank]
  have hpseudo : pseudoOfToken (":" ++ name ++ "(" ++ quoteWith q k ++ ")") =
      ⟨lowerText name, some (quoteWith q k)⟩ := by
    have htext : ":" ++ name ++ "(" ++ quoteWith q k ++ ")" =
        String.ofList (':' :: (name.toList ++ '(' :: (quoteWith q k).toList ++ [')'])) := by
      rw [← hs, String.ofList_toList]
    rw [htext, pseudoOfToken_argument hchars htrim, String.ofList_toList, String.ofList_toList]
  obtain ⟨n, htok⟩ := tokenize_single hs
    (by rw [scanToken_colon, pseudoRest_quoted hq hne hchars]; rfl) (by simp [classify])
  rw [parse_single_part htok rfl rfl, compoundOf]
  simp only [List.getLastD_nil, Token.stop, Nat.zero_add, slice_whole]
  simp [hpseudo]

/-! ## Quoted literals survive -/

/-- A quoted literal survives the lexer, the parser and unquoting: as a key it makes a selector
list of one non-relative complex selector of one compound, whose source is the text and whose
keys are the quoted text alone; as the argument of `:contains` or `:val` it makes that
pseudo-class, and the argument the matcher compares with is the quoted text. -/
theorem quoted_literal_survives (room : Nat) {q : Char} (hq : IsQuote q) (k : String) :
    parse room ("." ++ quoteWith q k) =
        .ok (.selectors [⟨⟨"." ++ quoteWith q k, none, [k], [], [], []⟩, [], false⟩]) ∧
      ∀ name ∈ ["contains", "val"],
        parse room (":" ++ name ++ "(" ++ quoteWith q k ++ ")") =
          .ok (.selectors [⟨⟨":" ++ name ++ "(" ++ quoteWith q k ++ ")", none, [], [], [],
            [⟨name, some (quoteWith q k)⟩]⟩, [], false⟩]) ∧
        Select.pseudoArgument ⟨name, some (quoteWith q k)⟩ = .ok k := by
  refine ⟨parse_quoted_key room hq k, fun name hname => ⟨?_, ?_⟩⟩
  · rcases List.mem_pair.mp hname with rfl | rfl
    · rw [parse_quoted_argument room hq (by decide) isNameChar_contains k, lowerText_contains]
    · rw [parse_quoted_argument room hq (by decide) isNameChar_val k, lowerText_val]
  · simp [Select.pseudoArgument, unquote_quoteWith hq]
    rfl

def awkwardKey : String := "it's \\ (\"x\")"

/-- The awkward key quoted with `'`, in which its `'` and its backslash are escaped. -/
theorem quoted_literal_survives_escapes :
    IsQuote '\'' ∧
      (parse 0 ("." ++ quoteWith '\'' awkwardKey) =
          .ok (.selectors [⟨⟨"." ++ quoteWith '\'' awkwardKey, none, [awkwardKey], [], [], []⟩,
            [], false⟩]) ∧
        ∀ name ∈ ["contains", "val"],
          parse 0 (":" ++ name ++ "(" ++ quoteWith '\'' awkwardKey ++ ")") =
            .ok (.selectors [⟨⟨":" ++ name ++ "(" ++ quoteWith '\'' awkwardKey ++ ")", none, [], [],
              [], [⟨name, some (quoteWith '\'' awkwardKey)⟩]⟩, [], false⟩]) ∧
          Select.pseudoArgument ⟨name, some (quoteWith '\'' awkwardKey)⟩ = .ok awkwardKey) :=
  ⟨.inr rfl, quoted_literal_survives 0 (.inr rfl) awkwardKey⟩

end Stencil.Selector

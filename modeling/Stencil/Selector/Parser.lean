import Stencil.Selector.Lexer
import Stencil.Selector.Syntax
import Stencil.Selector.Literal
import Stencil.Text.Case
/-!
# Parsing selectors

Recursive descent over the token stream, with this grammar (`W` is one white-space token):

```
S → W? E W? EOF
E → A (W? or W? A)*
A → N (W? and W? N)*
N → W? not W? N | P
P → W? ( E W? ) | W? L
L → C (W? , W? C)*
C → (> W?)? K ((W? (> | + | ~) W? | W) K)*
K → (IDENT | STAR) (KEY | HASH | ATTR | PSEUDO)* | (KEY | HASH | ATTR | PSEUDO)+
```

`and` and `or` associate to the left, `not` binds tighter than `and`, and `and` tighter than
`or`. White space between two compounds is the descendant combinator. A keyword is matched
together with the white space around it; when the keyword is not there, nothing is consumed.

Every parsing function returns the rest of the stream together with a proof that it is no
longer than its input, and the recursion is well founded on the length of the stream.

* `SyntaxError`, `SyntaxError.message` : where and why parsing stopped.
* `parseCompound`, `parseComplex`, `parseSelectorList` : the selector layer.
* `ParseError`, `parseOr` … `parsePrimary` : the logical layer, with the room the stack has
  left for nesting.
* `parse` : a whole selector text.
-/

namespace Stencil.Selector

open Stencil.Text

/-- Why a selector text is refused. -/
inductive SyntaxReason where
  | lexical (e : LexError)
  | empty
  | unexpected (text : String)
  | unclosedGroup
  | unexpectedEnd
  | missingAtEnd
  | expectedSelector (text : String)
deriving DecidableEq, Repr

/-- A refusal and the position it points at. -/
structure SyntaxError where
  pos : Nat
  reason : SyntaxReason
deriving DecidableEq, Repr

def SyntaxReason.words : SyntaxReason → String
  | .lexical e => e.message
  | .empty => "Empty selector"
  | .unexpected t => "Unexpected token '" ++ t ++ "'"
  | .unclosedGroup => "Expected ')' after grouped expression"
  | .unexpectedEnd => "Unexpected end of selector"
  | .missingAtEnd => "Expected selector at end of input"
  | .expectedSelector t => "Expected selector, got '" ++ t ++ "'"

def SyntaxError.message (e : SyntaxError) : String :=
  "Selector syntax error at position " ++ toString e.pos ++ ": " ++ e.reason.words

/-! ## The token stream -/

def current (ts : List Token) : Token := ts.headD ⟨.eof, "", 0⟩

def advance : List Token → List Token
  | t :: r => if t.kind = .eof then t :: r else r
  | [] => []

def skipSpace (ts : List Token) : List Token := ts.dropWhile (·.kind == .space)

theorem length_skipSpace_le (ts : List Token) : (skipSpace ts).length ≤ ts.length :=
  (List.dropWhile_suffix _).length_le

theorem length_advance_le (ts : List Token) : (advance ts).length ≤ ts.length := by
  cases ts with
  | nil => simp [advance]
  | cons t r => simp only [advance]; split <;> simp

abbrev Parsed (α : Type) (ts : List Token) :=
  Except SyntaxError (α × { r : List Token // r.length ≤ ts.length })

abbrev Consumed (α : Type) (ts : List Token) :=
  Except SyntaxError (α × { r : List Token // r.length < ts.length })

/-- The stream after the keyword `kw` and the white space around it; `none` when the keyword
is not next. -/
def matchKeyword (kw : String) (ts : List Token) : Option { r : List Token // r.length < ts.length } :=
  match h : skipSpace ts with
  | t :: r =>
    if t.kind = .keyword ∧ t.text = kw then
      some ⟨skipSpace r, by
        have h1 := length_skipSpace_le ts
        have h2 := length_skipSpace_le r
        rw [h] at h1
        simp only [List.length_cons] at h1
        omega⟩
    else none
  | [] => none

/-! ## Compound and complex selectors -/

def pseudoOfToken (text : String) : Pseudo :=
  let body := text.toList.drop 1
  match body.findIdx? (· = '(') with
  | none => ⟨lowerText (String.ofList body), none⟩
  | some i =>
    let name := body.take i
    let rest := body.drop (i + 1)
    ⟨lowerText (String.ofList name), some (String.ofList (trimBlankList rest.dropLast))⟩

def slice (src : List Char) (a b : Nat) : String := String.ofList (takeCodes (b - a) (dropCodes a src))

def addPart (c : Compound) (t : Token) : Compound :=
  match t.kind with
  | .key => { c with keys := c.keys ++ [unquote (String.ofList (t.text.toList.drop 1))] }
  | .hash => { c with ids := c.ids ++ [String.ofList (t.text.toList.drop 1)] }
  | .attr => { c with attributes := c.attributes ++ [String.ofList (t.text.toList.drop 1).dropLast] }
  | _ => { c with pseudos := c.pseudos ++ [pseudoOfToken t.text] }

/-- A compound selector at the head of the stream: a type name or `*` and the keys, ids,
attribute tests and pseudo-classes after it. -/
def parseCompound (src : List Char) (ts : List Token) : Consumed Compound ts :=
  match ts with
  | [] => .error ⟨0, .missingAtEnd⟩
  | t :: r =>
    if t.kind.startsCompound then
      let typeName := if t.kind = .star ∨ t.kind = .ident then some t.text else none
      let tail := r.takeWhile (·.kind.continuesCompound)
      let own := if typeName.isSome then tail else t :: tail
      let last := tail.getLastD t
      let c : Compound := own.foldl addPart ⟨slice src t.pos last.stop, typeName, [], [], [], []⟩
      .ok (c, ⟨r.drop tail.length, by simp only [List.length_drop, List.length_cons]; omega⟩)
    else if t.kind = .eof then .error ⟨t.pos, .missingAtEnd⟩
    else .error ⟨t.pos, .expectedSelector t.text⟩

def combinatorOf (t : Token) : Combinator :=
  if t.kind = .child then .child else if t.text = "+" then .adjacent else .sibling

def complexTail (src : List Char) (acc : List (Combinator × Compound)) (ts : List Token) :
    Parsed (List (Combinator × Compound)) ts :=
  match h : skipSpace ts with
  | t :: r =>
    if t.kind = .child ∨ t.kind = .sibling then
      match parseCompound src (skipSpace r) with
      | .error e => .error e
      | .ok (c, ⟨r', h'⟩) =>
        match complexTail src (acc ++ [(combinatorOf t, c)]) r' with
        | .error e => .error e
        | .ok (cs, ⟨r'', h''⟩) =>
          .ok (cs, ⟨r'', by
            have h1 := length_skipSpace_le ts
            have h2 := length_skipSpace_le r
            rw [h] at h1; simp only [List.length_cons] at h1; omega⟩)
    else if (skipSpace ts).length < ts.length ∧ t.kind.startsCompound then
      match parseCompound src (t :: r) with
      | .error e => .error e
      | .ok (c, ⟨r', h'⟩) =>
        match complexTail src (acc ++ [(.descendant, c)]) r' with
        | .error e => .error e
        | .ok (cs, ⟨r'', h''⟩) =>
          .ok (cs, ⟨r'', by
            have h1 := length_skipSpace_le ts
            rw [h] at h1; omega⟩)
    else .ok (acc, ⟨ts, Nat.le_refl _⟩)
  | [] => .ok (acc, ⟨ts, Nat.le_refl _⟩)
termination_by ts.length
decreasing_by
  all_goals
    have h1 := length_skipSpace_le ts
    have h2 := length_skipSpace_le r
    rw [h] at h1
    simp only [List.length_cons] at *
    omega

/-- The stream after a leading `>` and the white space after it, if the stream starts with
`>`. -/
def afterLead (ts : List Token) : { r : List Token // r.length ≤ ts.length } :=
  if (current ts).kind = .child then
    ⟨skipSpace (advance ts), Nat.le_trans (length_skipSpace_le _) (length_advance_le ts)⟩
  else ⟨ts, Nat.le_refl _⟩

def parseComplex (src : List Char) (ts : List Token) : Consumed Complex ts :=
  let relative := (current ts).kind = .child
  match afterLead ts with
  | ⟨ts1, h1⟩ =>
    match parseCompound src ts1 with
    | .error e => .error e
    | .ok (first, ⟨r, hr⟩) =>
      match complexTail src [] r with
      | .error e => .error e
      | .ok (rest, ⟨r', hr'⟩) => .ok (⟨first, rest, relative⟩, ⟨r', by omega⟩)

def listTail (src : List Char) (acc : List Complex) (ts : List Token) : Parsed (List Complex) ts :=
  match h : skipSpace ts with
  | t :: r =>
    if t.kind = .comma then
      match parseComplex src (skipSpace r) with
      | .error e => .error e
      | .ok (c, ⟨r', h'⟩) =>
        match listTail src (acc ++ [c]) r' with
        | .error e => .error e
        | .ok (cs, ⟨r'', h''⟩) =>
          .ok (cs, ⟨r'', by
            have h1 := length_skipSpace_le ts
            have h2 := length_skipSpace_le r
            rw [h] at h1; simp only [List.length_cons] at h1; omega⟩)
    else .ok (acc, ⟨ts, Nat.le_refl _⟩)
  | [] => .ok (acc, ⟨ts, Nat.le_refl _⟩)
termination_by ts.length
decreasing_by
  have h1 := length_skipSpace_le ts
  have h2 := length_skipSpace_le r
  rw [h] at h1
  simp only [List.length_cons] at h1
  omega

def parseSelectorList (src : List Char) (ts : List Token) : Consumed (List Complex) ts :=
  match parseComplex src ts with
  | .error e => .error e
  | .ok (c, ⟨r, hr⟩) =>
    match listTail src [c] r with
    | .error e => .error e
    | .ok (cs, ⟨r', hr'⟩) => .ok (cs, ⟨r', by omega⟩)

/-! ## The logical layer

Each parenthesised group nests five calls of the descent on the stack and each `not` one; the
other steps of the descent have room of their own. `room` is what the stack has left for that
nesting: a group needs five of it and a `not` one, and where it runs out the descent stops as
the stack does, whatever follows in the text.
-/

/-- Why parsing stopped: the text is not a selector expression, or it nests deeper than the
stack has room for. -/
inductive ParseError where
  | invalid (e : SyntaxError)
  | tooDeep
deriving DecidableEq, Repr

abbrev Nested (α : Type) (ts : List Token) :=
  Except ParseError (α × { r : List Token // r.length ≤ ts.length })

mutual

def parseOr (room : Nat) (src : List Char) (ts : List Token) : Nested Expr ts :=
  match parseAnd room src ts with
  | .error e => .error e
  | .ok (l, ⟨r, hr⟩) =>
    match orTail room src l r with
    | .error e => .error e
    | .ok (e, ⟨r', hr'⟩) => .ok (e, ⟨r', by omega⟩)
termination_by 6 * ts.length + 5

def orTail (room : Nat) (src : List Char) (left : Expr) (ts : List Token) : Nested Expr ts :=
  match matchKeyword "or" ts with
  | none => .ok (left, ⟨ts, Nat.le_refl _⟩)
  | some ⟨r, hr⟩ =>
    match parseAnd room src r with
    | .error e => .error e
    | .ok (right, ⟨r', hr'⟩) =>
      match orTail room src (.or left right) r' with
      | .error e => .error e
      | .ok (e, ⟨r'', hr''⟩) => .ok (e, ⟨r'', by omega⟩)
termination_by 6 * ts.length + 4

def parseAnd (room : Nat) (src : List Char) (ts : List Token) : Nested Expr ts :=
  match parseNot room src ts with
  | .error e => .error e
  | .ok (l, ⟨r, hr⟩) =>
    match andTail room src l r with
    | .error e => .error e
    | .ok (e, ⟨r', hr'⟩) => .ok (e, ⟨r', by omega⟩)
termination_by 6 * ts.length + 3

def andTail (room : Nat) (src : List Char) (left : Expr) (ts : List Token) : Nested Expr ts :=
  match matchKeyword "and" ts with
  | none => .ok (left, ⟨ts, Nat.le_refl _⟩)
  | some ⟨r, hr⟩ =>
    match parseNot room src r with
    | .error e => .error e
    | .ok (right, ⟨r', hr'⟩) =>
      match andTail room src (.and left right) r' with
      | .error e => .error e
      | .ok (e, ⟨r'', hr''⟩) => .ok (e, ⟨r'', by omega⟩)
termination_by 6 * ts.length + 2

def parseNot (room : Nat) (src : List Char) (ts : List Token) : Nested Expr ts :=
  match matchKeyword "not" ts with
  | some ⟨r, hr⟩ =>
    match room with
    | 0 => .error .tooDeep
    | room + 1 =>
      match parseNot room src r with
      | .error e => .error e
      | .ok (e, ⟨r', hr'⟩) => .ok (.not e, ⟨r', by omega⟩)
  | none => parsePrimary room src ts
termination_by 6 * ts.length + 1

def parsePrimary (room : Nat) (src : List Char) (ts : List Token) : Nested Expr ts :=
  match h : skipSpace ts with
  | t :: r =>
    if t.kind = .openParen then
      if room < 5 then .error .tooDeep
      else
        match parseOr (room - 5) src r with
        | .error e => .error e
        | .ok (e, ⟨r', hr'⟩) =>
          match h2 : skipSpace r' with
          | u :: r'' =>
            if u.kind = .closeParen then
              .ok (.group e, ⟨r'', by
                have a := length_skipSpace_le ts
                have b := length_skipSpace_le r'
                rw [h] at a; rw [h2] at b; simp only [List.length_cons] at a b; omega⟩)
            else .error (.invalid ⟨u.pos, .unclosedGroup⟩)
          | [] => .error (.invalid ⟨0, .unclosedGroup⟩)
    else if t.kind.startsCompound ∨ t.kind = .child then
      match parseSelectorList src (t :: r) with
      | .error e => .error (.invalid e)
      | .ok (cs, ⟨r', hr'⟩) =>
        .ok (.selectors cs, ⟨r', by
          have a := length_skipSpace_le ts
          rw [h] at a; omega⟩)
    else if t.kind = .eof then .error (.invalid ⟨t.pos, .unexpectedEnd⟩)
    else .error (.invalid ⟨t.pos, .unexpected t.text⟩)
  | [] => .error (.invalid ⟨0, .unexpectedEnd⟩)
termination_by 6 * ts.length
decreasing_by
  have a := length_skipSpace_le ts
  rw [h] at a
  simp only [List.length_cons] at a
  omega

end

/-- Parse a selector text with `room` left on the stack for nesting. Lexical errors are
reported at position 0. -/
def parse (room : Nat) (text : String) : Except ParseError Expr :=
  match tokenize text with
  | .error e => .error (.invalid ⟨0, .lexical e⟩)
  | .ok tokens =>
    let src := text.toList
    let ts := skipSpace tokens
    if (current ts).kind = .eof then .error (.invalid ⟨0, .empty⟩)
    else
      match parseOr room src ts with
      | .error e => .error e
      | .ok (e, ⟨r, _⟩) =>
        let t := current (skipSpace r)
        if t.kind = .eof then .ok e else .error (.invalid ⟨t.pos, .unexpected t.text⟩)

end Stencil.Selector

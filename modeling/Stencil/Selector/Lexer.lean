import Stencil.Selector.Token
import Stencil.Text.Blank
import Stencil.Text.Surrogate
import Stencil.Text.Word
/-!
# Cutting a selector into tokens

The first character decides the kind of token: white space, one of `( ) , > + ~ *`, a key after
`.`, an id after `#`, an attribute test after `[`, a pseudo-class after `:`, or a name. A name
(`[\w-]+`) is a run of word characters and hyphens; a key may also hold `$`, or be a quoted
literal. A quoted literal runs to the next quote of its kind that no backslash escapes. An
attribute test runs to the first `]` outside quoted literals. A pseudo-class may take an
argument in parentheses, with quoted literals and one level of nested parentheses; when no such
argument closes, the pseudo-class is its name alone. Any other character, and a `.`, `#`, `[`
or `:` that starts no token, is refused.

Each scanner gives the length of the token at the head of the input, and the lexer cuts it off
and goes on with the rest, so the tokens cover the input in order.

* `quotedLength`, `attrRest`, `argsRest`, `pseudoRest`, `keyRest` : the scanners.
* `scanToken` : the kind of the token that starts with a character, and how far it reaches.
* `LexError` : the refused character and its position.
* `tokenize` : all tokens, then the end-of-input token.
-/

namespace Stencil.Selector

open Stencil.Text

def isKeyChar (c : Char) : Bool := c == '$' || isNameChar c

/-- After an opening quote `q`: the length up to and including the closing quote, where a
backslash takes the next character with it. -/
def quotedRest (q : Char) : List Char → Option Nat
  | [] => none
  | ['\\'] => none
  | '\\' :: _ :: r => (quotedRest q r).map (· + 2)
  | c :: r => if c = q then some 1 else (quotedRest q r).map (· + 1)

/-- The length of a quoted literal at the head of the input. -/
def quotedLength : List Char → Option Nat
  | '"' :: r => (quotedRest '"' r).map (· + 1)
  | '\'' :: r => (quotedRest '\'' r).map (· + 1)
  | _ => none

/-- After `[`: the length up to and including the first `]` outside quoted literals.
`quote` is the quote of the literal being read, if any. -/
def attrRest : Option Char → List Char → Option Nat
  | _, [] => none
  | some q, '\\' :: _ :: r => (attrRest (some q) r).map (· + 2)
  | some q, c :: r =>
    if c = q then (attrRest none r).map (· + 1) else (attrRest (some q) r).map (· + 1)
  | none, c :: r =>
    if c = ']' then some 1
    else if c = '"' ∨ c = '\'' then (attrRest (some c) r).map (· + 1)
    else (attrRest none r).map (· + 1)

/-- After the `(` of a pseudo-class argument: the length up to and including the closing `)`.
`nested` tells whether a nested pair of parentheses is open; `quote` is the quote of the
literal being read, if any. A second level of nesting is refused. -/
def argsRest : Bool → Option Char → List Char → Option Nat
  | _, _, [] => none
  | n, some q, '\\' :: _ :: r => (argsRest n (some q) r).map (· + 2)
  | n, some q, c :: r =>
    if c = q then (argsRest n none r).map (· + 1) else (argsRest n (some q) r).map (· + 1)
  | n, none, c :: r =>
    if c = '"' ∨ c = '\'' then (argsRest n (some c) r).map (· + 1)
    else if c = '(' then (if n then none else (argsRest true none r).map (· + 1))
    else if c = ')' then (if n then (argsRest false none r).map (· + 1) else some 1)
    else (argsRest n none r).map (· + 1)

def nameLength (cs : List Char) : Nat := (cs.takeWhile isNameChar).length

/-- After `:`: the length of a name and of an argument in parentheses when one closes. -/
def pseudoRest (r : List Char) : Option Nat :=
  let n := nameLength r
  if n = 0 then none
  else
    match r.drop n with
    | '(' :: r' =>
      match argsRest false none r' with
      | some m => some (n + 1 + m)
      | none => some n
    | _ => some n

/-- After `.`: the length of a quoted literal or of a run of key characters. -/
def keyRest (r : List Char) : Option Nat :=
  match quotedLength r with
  | some n => some n
  | none =>
    let n := (r.takeWhile isKeyChar).length
    if n = 0 then none else some n

def hashRest (r : List Char) : Option Nat :=
  let n := nameLength r
  if n = 0 then none else some n

/-- The kind of the token that starts with `c` (followed by `r`), and how many characters of
`r` it takes; `none` when no token starts with `c`. -/
def scanToken (c : Char) (r : List Char) : Option (TokenKind × Nat) :=
  if isBlank c then some (.space, (r.takeWhile isBlank).length)
  else if c = '(' then some (.openParen, 0)
  else if c = ')' then some (.closeParen, 0)
  else if c = ',' then some (.comma, 0)
  else if c = '>' then some (.child, 0)
  else if c = '+' ∨ c = '~' then some (.sibling, 0)
  else if c = '*' then some (.star, 0)
  else if c = '.' then (keyRest r).map (.key, ·)
  else if c = '#' then (hashRest r).map (.hash, ·)
  else if c = '[' then (attrRest none r).map (.attr, ·)
  else if c = ':' then (pseudoRest r).map (.pseudo, ·)
  else if isNameChar c then some (.ident, nameLength r)
  else none

/-- A character that starts no token (the two characters that keep it, for one kept as a
surrogate pair), and its position. -/
structure LexError where
  char : String
  pos : Nat
deriving DecidableEq, Repr

def LexError.message (e : LexError) : String :=
  "Unexpected character '" ++ e.char ++ "' at position " ++ toString e.pos

def classify (kind : TokenKind) (text : String) : TokenKind :=
  if kind = .ident ∧ (text = "and" ∨ text = "or" ∨ text = "not") then .keyword else kind

/-- The tokens of `cs`, which starts at position `pos`, after those in `acc`; with the position
where the input ends. Positions count code points. -/
def tokenizeFrom : List Char → Nat → Array Token → Except LexError (Array Token × Nat)
  | [], pos, acc => .ok (acc, pos)
  | c :: r, pos, acc =>
    match scanToken c r with
    | none => .error ⟨String.ofList (takeCodes 1 (c :: r)), pos⟩
    | some (k, n) =>
      let taken := c :: r.take n
      let text := String.ofList taken
      tokenizeFrom (r.drop n) (pos + (codePoints taken).length) (acc.push ⟨classify k text, text, pos⟩)
termination_by cs => cs.length
decreasing_by simp only [List.length_drop, List.length_cons]; omega

/-- The tokens of a selector text, ending with the end-of-input token at its length. -/
def tokenize (s : String) : Except LexError (List Token) := do
  let (ts, n) ← tokenizeFrom s.toList 0 #[]
  return (ts.push ⟨.eof, "", n⟩).toList

end Stencil.Selector

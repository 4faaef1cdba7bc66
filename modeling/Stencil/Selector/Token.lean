import Stencil.Text.Surrogate
/-!
# Selector tokens

A selector text is cut into tokens: white space, parentheses, commas, the combinators `>`, `+`
and `~`, the star, keys (`.name` or `."quoted name"`), ids (`#name`), attribute tests
(`[...]`), pseudo-classes (`:name` with an optional argument in parentheses), names, and the
keywords `and`, `or` and `not`. The list ends with an end-of-input token at the length of the
text.

* `TokenKind`, `TokenKind.name` : the kinds and the names that listings show.
* `Token` : a kind, the text and its position (in characters).
-/

namespace Stencil.Selector

/-- The kinds of token. -/
inductive TokenKind where
  | space
  | openParen
  | closeParen
  | comma
  | child
  | sibling
  | star
  | key
  | hash
  | attr
  | pseudo
  | ident
  | keyword
  | eof
deriving DecidableEq, Repr, Inhabited

/-- The upper-case name of a kind, as token listings show it. -/
def TokenKind.name : TokenKind → String
  | .space => "WS"
  | .openParen => "LPAREN"
  | .closeParen => "RPAREN"
  | .comma => "COMMA"
  | .child => "GT"
  | .sibling => "SIBLING"
  | .star => "STAR"
  | .key => "KEY"
  | .hash => "HASH"
  | .attr => "ATTR"
  | .pseudo => "PSEUDO"
  | .ident => "IDENT"
  | .keyword => "KEYWORD"
  | .eof => "EOF"

/-- A token: its kind, its text and the position of its first character. -/
structure Token where
  kind : TokenKind
  text : String
  pos : Nat
deriving DecidableEq, Repr, Inhabited

def Token.stop (t : Token) : Nat := t.pos + Text.codeLength t.text

def Token.describe (t : Token) : String :=
  "Token(" ++ t.kind.name ++ ", '" ++ t.text ++ "', pos=" ++ toString t.pos ++ ")"

def TokenKind.startsCompound : TokenKind → Bool
  | .star | .ident | .key | .hash | .attr | .pseudo => true
  | _ => false

def TokenKind.continuesCompound : TokenKind → Bool
  | .key | .hash | .attr | .pseudo => true
  | _ => false

end Stencil.Selector

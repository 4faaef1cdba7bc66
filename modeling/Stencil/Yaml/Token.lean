import Stencil.Yaml.Mark
/-!
# YAML tokens

The scanner cuts a YAML text into tokens: the stream's start and end, directives, document
markers, the starts and ends of block and flow collections, keys, values and entries, aliases,
anchors, tags and scalars. Block structure, which the text shows by indentation, becomes
explicit start and end tokens.

* `Version` : the version a `%YAML` directive declares.
* `DirectiveValue` : what a directive declares.
* `ScalarStyle` : how a scalar was written.
* `TokenKind`, `Token` : a token and the places where it starts and ends.
* `TokenKind.id` : the name messages use for a kind of token.
-/

namespace Stencil.Yaml

/-- A YAML version `major.minor`; versions compare by major part, then by minor part. -/
structure Version where
  major : Nat
  minor : Nat
deriving Inhabited, BEq, DecidableEq, Repr

namespace Version

def v11 : Version := ⟨1, 1⟩

def v12 : Version := ⟨1, 2⟩

def isAfter (a b : Version) : Bool := a.major > b.major || (a.major == b.major && a.minor > b.minor)

def pairText (v : Version) : String := "(" ++ toString v.major ++ ", " ++ toString v.minor ++ ")"

end Version

/-- What a directive declares: a version (`%YAML`), a tag handle and the text it stands for
(`%TAG`), or nothing that is read (any other directive). -/
inductive DirectiveValue where
  | version (v : Version)
  | tagHandle (handle uri : String)
  | other
deriving Inhabited, BEq, Repr

/-- How a scalar was written: plain, in single or double quotes, or as a literal (`|`) or
folded (`>`) block. -/
inductive ScalarStyle where
  | plain
  | singleQuoted
  | doubleQuoted
  | literal
  | folded
deriving Inhabited, BEq, Repr

/-- The kinds of token. -/
inductive TokenKind where
  | streamStart
  | streamEnd
  | directive (name : String) (value : DirectiveValue)
  | documentStart
  | documentEnd
  | blockSequenceStart
  | blockMappingStart
  | blockEnd
  | flowSequenceStart
  | flowSequenceEnd
  | flowMappingStart
  | flowMappingEnd
  | key
  | value
  | blockEntry
  | flowEntry
  | alias (name : String)
  | anchor (name : String)
  | tag (handle : Option String) (suffix : String)
  | scalar (text : String) (style : ScalarStyle)
deriving Inhabited, BEq, Repr

/-- A token with the places where it starts and ends. -/
structure Token where
  kind : TokenKind
  start : Mark
  stop : Mark
deriving Inhabited, Repr

namespace TokenKind

/-- A token whose names (of directives, handles, anchors, aliases and tags) are read from real
characters, with the names in the form that keeps lone surrogates; scalars are left as they are. -/
def keepNames : TokenKind → TokenKind
  | .directive name declared =>
    .directive (Text.keepText name) (match declared with
      | .tagHandle handle uri => .tagHandle (Text.keepText handle) (Text.keepText uri)
      | v => v)
  | .alias name => .alias (Text.keepText name)
  | .anchor name => .anchor (Text.keepText name)
  | .tag handle suffix => .tag (handle.map Text.keepText) (Text.keepText suffix)
  | k => k

/-- The name of a kind of token in messages. -/
def id : TokenKind → String
  | .streamStart => "<stream start>"
  | .streamEnd => "<stream end>"
  | .directive _ _ => "<directive>"
  | .documentStart => "<document start>"
  | .documentEnd => "<document end>"
  | .blockSequenceStart => "<block sequence start>"
  | .blockMappingStart => "<block mapping start>"
  | .blockEnd => "<block end>"
  | .flowSequenceStart => "["
  | .flowSequenceEnd => "]"
  | .flowMappingStart => "\x7b"
  | .flowMappingEnd => "\x7d"
  | .key => "?"
  | .value => ":"
  | .blockEntry => "-"
  | .flowEntry => ","
  | .alias _ => "<alias>"
  | .anchor _ => "<anchor>"
  | .tag _ _ => "<tag>"
  | .scalar _ _ => "<scalar>"

def sameKind (a b : TokenKind) : Bool := a.id == b.id

end TokenKind

end Stencil.Yaml

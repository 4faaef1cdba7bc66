import Stencil.Text.Integer
import Stencil.Text.Quote
/-!
# Markup events

Reading markup text gives a sequence of events: start and end tags, runs of text, character
and entity references, comments, declarations, marked sections and processing instructions.
The document tree is built from these events alone.

* `Event` : what the reader reports.
* `ScanError` : markup the reader refuses, and `ScanError.message` its message.
-/

namespace Stencil.Markup

/-- One thing reported by the markup reader. Names of tags and attributes are lower-cased;
attribute values have their references decoded and are missing when the attribute has no `=`. -/
inductive Event where
  | startTag (name : String) (attrs : List (String × Option String)) (selfClosing : Bool)
  | endTag (name : String)
  | text (s : String)
  | charRef (code : Nat)
  | entityRef (name : String)
  | comment (s : String)
  | declaration (s : String)
  | markedSection (s : String)
  | instruction (s : String)
deriving Repr, Inhabited, DecidableEq

/-- Markup that the reader refuses: a marked section `<![` without a name, or with a keyword it
does not know (`context` is the text from the `<` on, at most twenty characters); or a decimal
character reference of more digits than a number may be read with. -/
inductive ScanError where
  | expectedName (context : String)
  | unknownSection (keyword : String)
  | digitLimit (digits : Nat)
deriving Repr, Inhabited, DecidableEq

def ScanError.reason : ScanError → String
  | .expectedName ctx => "AssertionError: expected name token at " ++ Text.quoteText ctx
  | .unknownSection kw =>
    "AssertionError: unknown status keyword " ++ Text.quoteText kw ++ " in marked section"
  | .digitLimit digits => Text.digitLimitMessage digits

def ScanError.kind : ScanError → String
  | .digitLimit _ => "ValueError"
  | _ => "ParserRejectedMarkup"

/-- The message of a refusal: for refused markup the reader's account under a note that the
markup was refused; for a number, the reason alone. -/
def ScanError.message (e : ScanError) : String :=
  match e with
  | .digitLimit _ => e.reason
  | _ =>
    "The markup you provided was rejected by the parser. Trying a different parser or a " ++
      "different encoding may help.\n\nOriginal exception(s) from parser:\n " ++ e.reason

end Stencil.Markup

import Stencil.Css.Lexical
/-!
# CSS selectors

The selectors that select elements of markup documents: type and universal selectors, ids,
classes, attribute tests, the structural and logical pseudo-classes, and the combinators. A
compound selector is a list of simple selectors that must all hold; a complex selector is a
chain of compounds joined by combinators, read left to right; a selector list holds when one of
its complex selectors does.

* `Combinator`, `AttrOp`, `AttrTest`, `NthRule`, `FormCheck`, `Simple` : the syntax.
* `Compound`, `Complex`, `SelectorList` : the composite forms.
-/

namespace Stencil.Css

/-- How a compound relates to the one before it. -/
inductive Combinator where
  | descendant
  | child
  | adjacent
  | sibling
deriving DecidableEq, Repr, Inhabited

/-- The comparison of an attribute test. -/
inductive AttrOp where
  /-- the attribute is present -/
  | present
  /-- `=` -/
  | equal
  /-- `~=`: one of the white-space separated words -/
  | word
  /-- `|=`: the value or the value followed by `-` -/
  | dashPrefix
  /-- `^=` -/
  | startsWith
  /-- `$=` -/
  | endsWith
  /-- `*=` -/
  | containsText
deriving DecidableEq, Repr, Inhabited

/-- An attribute test: the attribute name, the comparison, the value, and whether case is
ignored. -/
structure AttrTest where
  name : String
  op : AttrOp
  value : String
  caseless : Bool
deriving DecidableEq, Repr, Inhabited

/-- A position rule: the element's position among its siblings (from the end when `fromEnd`,
among those of its own name when `ofType`) fits the formula. -/
structure NthRule where
  formula : NthFormula
  ofType : Bool
  fromEnd : Bool
deriving DecidableEq, Repr, Inhabited

/-- A check of the form-state selectors that looks beyond the element's own attributes. -/
inductive FormCheck where
  /-- the first submit button of its form -/
  | defaultButton
  /-- no radio button of the same name in its form is checked -/
  | indeterminate
  /-- the value is within the bounds -/
  | inRange
  /-- the value is beyond one of the bounds -/
  | outOfRange
  /-- the text area holds no text but a line feed -/
  | placeholderShown
deriving DecidableEq, Repr, Inhabited

/-- A simple selector. -/
inductive Simple where
  /-- an element name, compared without ASCII case -/
  | tag (name : String)
  /-- any element -/
  | anyTag
  /-- an element in a namespace that documents read from markup never have -/
  | foreignTag
  | id (name : String)
  | cls (name : String)
  | attr (test : AttrTest)
  /-- the single top-level element of the document, or an element right inside an `iframe` -/
  | root
  /-- the element the selection starts from -/
  | scope
  /-- no element or non-blank text inside -/
  | empty
  /-- never holds -/
  | never
  /-- a position rule; the position counts only the siblings matching `filter` when there is
  one (matched with `stops` as for `anyOf`) -/
  | nth (rule : NthRule) (filter : Option (List (List (Combinator × List Simple)))) (stops : Bool)
  /-- one of the complex selectors holds; with `stops`, relations and contents looked at while
  matching them stop at `iframe` elements -/
  | anyOf (stops : Bool) (list : List (List (Combinator × List Simple)))
  /-- none of the complex selectors holds (`stops` as for `anyOf`) -/
  | noneOf (stops : Bool) (list : List (List (Combinator × List Simple)))
  /-- a relative selector holds from this element: the first combinator of each complex selector
  leads from the element to the first compound (`stops` as for `anyOf`) -/
  | has (stops : Bool) (list : List (List (Combinator × List Simple)))
  /-- the text (or, when `own`, one of the own text strings) contains one of the texts -/
  | contains (texts : List String) (own : Bool)
  /-- the element's name has no `-`, or has a `:` -/
  | defined
  /-- the language of the element matches one of the ranges -/
  | lang (ranges : List String)
  /-- the writing direction of the element -/
  | direction (leftToRight : Bool)
  /-- a state of a form control or link (`:checked`, `:link`, `:disabled`, …), by its name -/
  | formState (name : String)
  /-- a check of the form-state selectors -/
  | check (c : FormCheck)
deriving Repr, Inhabited

/-- A compound selector: all of its simple selectors hold. -/
abbrev Compound := List Simple

/-- A complex selector: compounds with the combinator before each (the first one's combinator
only matters in a relative selector). -/
abbrev Complex := List (Combinator × Compound)

/-- A selector list: one of the complex selectors holds. -/
abbrev SelectorList := List Complex

/-- A selector list read from a text, with whether it stops at `iframe` elements: relations and
contents looked at while matching it do not cross an `iframe`. A list stops there when one of its
own compounds has `:dir()` or `:defined`. -/
structure Selection where
  list : SelectorList
  stops : Bool
deriving Repr, Inhabited

end Stencil.Css

import Stencil.Markup.Forest
import Stencil.Text.Blank
import Stencil.Text.Case
/-!
# Directive attributes

A template is annotated with `data-*` attributes that direct rendering. Directives never reach
the output: they are stripped from an element before its children are rendered. A literal
`data-*` attribute that comes from markup data travels escaped as `data-data-*` and is restored
right after stripping.

The directives are `data-is`, `data-if`, `data-not`, `data-apply`, `data-option`,
`data-attributes`, `data-exclude-attributes`, `data-class`, `data-exclude-class`,
`data-exclude-texts`, the retired `data-query` and `data-querykey`, and every attribute starting
with `data-$` (variables) or `data-to-` (attribute targets).

* `isDirective` : the directive names.
* `escapeName` : `data-foo` becomes `data-data-foo`.
* `flag` : a switch attribute read as a boolean.
* `optionWords`, `wordList` : attributes holding words.
* `stripDirectives` : an element without its directives, escaped attributes restored.
-/

namespace Stencil.Template

open Stencil.Markup Stencil.Text

def dataPrefix : String := "data-"

def escapedPrefix : String := "data-data-"

def variablePrefix : String := "data-$"

def targetPrefix : String := "data-to-"

def isName : String := "data-is"
def ifName : String := "data-if"
def notName : String := "data-not"
def applyName : String := "data-apply"
def optionName : String := "data-option"
def attributesName : String := "data-attributes"
def excludeAttributesName : String := "data-exclude-attributes"
def className : String := "data-class"
def excludeClassName : String := "data-exclude-class"
def excludeTextsName : String := "data-exclude-texts"

def directiveNames : List String :=
  [isName, ifName, notName, applyName, optionName, attributesName, excludeAttributesName,
   className, excludeClassName, excludeTextsName, "data-query", "data-querykey"]

/-- An attribute name is a directive: a listed name, a variable or an attribute target. -/
def isDirective (name : String) : Bool :=
  directiveNames.contains name || name.startsWith variablePrefix || name.startsWith targetPrefix

/-- A data attribute name escaped for travel: `data-foo` becomes `data-data-foo`. -/
def escapeName (name : String) : String :=
  if name.startsWith dataPrefix then dataPrefix ++ name else name

def falseWords : List String := ["", "false", "0", "no", "off"]

/-- A switch attribute: `default` when missing, false for a false word (white space around and
case aside), true otherwise. -/
def flag (value : Option String) (default : Bool) : Bool :=
  match value with
  | none => default
  | some v => !falseWords.contains (lowerText (trimBlank v))

/-- The distinct words of the `data-option` attribute of an element, first places kept. -/
def optionWords (f : Forest) (e : NodeId) : List String :=
  match f.attr? e optionName with
  | some v => (splitBlank v).eraseDups
  | none => []

/-- The words of an attribute of an element; none when it is missing or empty. -/
def wordList (f : Forest) (e : NodeId) (name : String) : Option (List String) :=
  match f.attr? e name with
  | some v => if v.isEmpty then none else some (splitBlank v)
  | none => none

/-- An element without its directive attributes, and with each escaped `data-data-*` attribute
put back under its name without the first `data-`; attributes are taken as they were before. -/
def stripDirectives (f : Forest) (e : NodeId) : Forest :=
  if !f.isElement e then f
  else
    let items := f.attrs e
    let f := items.foldl (fun f (name, _) =>
      if !name.startsWith escapedPrefix && isDirective name then f.removeAttr e name else f) f
    items.foldl (fun f (name, value) =>
      if name.startsWith escapedPrefix then
        (f.removeAttr e name).setAttr e (name.drop dataPrefix.length).toString value
      else f) f

example : escapeName "data-is" = "data-data-is" := by decide +kernel

end Stencil.Template

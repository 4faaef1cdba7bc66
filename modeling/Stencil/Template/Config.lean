import Stencil.Display.Repr
import Stencil.Template.Renderer
import Stencil.Text.Blank
/-!
# Render configuration

A rendering is configured by a mapping with the keys `root` (the anchor of `:root`, by default
the data itself), `renderers` (references `module:attribute` to renderers that run before the
built-in ones), `debug` (no white space collapsing, comments on merged markup), `log` (a logger
name) and `concurrency` (how many nodes are worked on at once, at least 1).

Renderer references name a module and an attribute path in it. What they can reach is a
parameter (`Imports`): which modules import, and what their attributes are.

* `ConfigFailure` : a refused configuration: its error class and message.
* `Imports` : what references reach; `Imports.package` holds the built-in renderers only.
* `resolveRenderer` : the renderer a reference names.
* `RenderConfig`, `RenderConfig.ofValue` : the configuration read from a mapping.
-/

namespace Stencil.Template

open Stencil.Markup Stencil.Text

/-- A refused configuration: the class of the error and its message. -/
structure ConfigFailure where
  kind : String
  message : String
deriving Repr

/-- What an attribute path names in a module: a renderer, something that cannot be called, or
nothing. -/
inductive Target where
  | renderer (r : Renderer)
  | notCallable
  | missing

/-- What renderer references can reach: for a module name, the message of the error importing it
gives (none when it imports), and what an attribute path names in a module that imports. -/
structure Imports where
  importError : String → Option String
  lookup : String → List String → Target

/-- The built-in renderers, importable from the module that defines them; no other module
imports. -/
def Imports.package : Imports where
  importError m :=
    if m == "xtemplate.engine.renderers" then none else some ("No module named '" ++ m ++ "'")
  lookup
    | "xtemplate.engine.renderers", ["render_date"] => .renderer .date
    | "xtemplate.engine.renderers", ["render_url"] => .renderer .url
    | "xtemplate.engine.renderers", ["render_form_control"] => .renderer .formControl
    | "xtemplate.engine.renderers", ["render_image"] => .renderer .image
    | "xtemplate.engine.renderers", ["render_text"] => .renderer .text
    | "xtemplate.engine.renderers", ["render_tree"] => .renderer .tree
    | "xtemplate.engine.renderers", ["render_terminal"] => .renderer .terminal
    | _, _ => .missing

def messageLiteral (f : Forest) (v : Value) : Except ConfigFailure String :=
  if v.literalWritable then pure (v.literal f) else throw ⟨"ValueError", decimalLimitMessage⟩

/-- The renderer a reference names: a text `module:attribute` whose module imports and whose
attribute path names a renderer. -/
def resolveRenderer (I : Imports) (f : Forest) (ref : Value) : Except ConfigFailure Renderer :=
  let refused := fun (m : String) => ConfigFailure.mk "ValueError" m
  match ref with
  | .str s =>
    if !s.contains ':' then
      messageLiteral f ref >>= fun shown =>
        throw (refused ("Renderer reference must be 'module:attribute', got: " ++ shown))
    else
      let moduleName := String.ofList (s.toList.takeWhile (· ≠ ':'))
      let attrPath := String.ofList ((s.toList.dropWhile (· ≠ ':')).drop 1)
      let module := trimBlank moduleName
      if module.isEmpty then throw (refused "Empty module name")
      else
        match I.importError module with
        | some e => throw (refused ("Cannot import renderer module '" ++ moduleName ++ "': " ++ e))
        | none =>
        match I.lookup module ((trimBlank attrPath).splitOn ".") with
        | .renderer r => pure r
        | .notCallable => throw (refused ("Renderer '" ++ s ++ "' is not callable"))
        | .missing => throw (refused ("Renderer '" ++ s ++ "' not found"))
  | v =>
    messageLiteral f v >>= fun shown =>
      throw (refused ("Renderer reference must be 'module:attribute', got: " ++ shown))

def defaultConcurrency : Nat := 100

/-- A render configuration. -/
structure RenderConfig where
  root : Option Value
  renderers : List Renderer
  debug : Bool
  log : Option String
  concurrency : Nat

def RenderConfig.default : RenderConfig := ⟨none, [], false, none, defaultConcurrency⟩

def configKeys : List String := ["root", "renderers", "debug", "log", "concurrency"]

/-- The failure to list unknown keys that are not all texts: one key, or keys that sort among
themselves, cannot be joined as text; keys of kinds that do not compare cannot be sorted. -/
def unlistedKeys (f : Forest) (extra : List Value) : ConfigFailure :=
  let comparable := extra.all fun k => k.numberKey?.isSome
  match extra with
  | a :: b :: _ =>
    if comparable then
      let least := extra.foldl (fun m k =>
        match k.numberKey?, m.numberKey? with
        | some (.inl x), some (.inl y) => if x < y then k else m
        | _, _ => m) a
      ⟨"TypeError", "sequence item 0: expected str instance, " ++ least.typeName f ++ " found"⟩
    else
      ⟨"TypeError", "'<' not supported between instances of '" ++ b.typeName f ++ "' and '" ++
        a.typeName f ++ "'"⟩
  | [a] => ⟨"TypeError", "sequence item 0: expected str instance, " ++ a.typeName f ++ " found"⟩
  | [] => ⟨"TypeError", ""⟩

/-- The configuration a mapping describes; null and the empty mapping describe the default. Keys
are checked first, then renderers (a single reference counts as a list of one), `debug`,
`concurrency` and `log`. -/
def RenderConfig.ofValue (I : Imports) (f : Forest) (v : Value) :
    Except ConfigFailure RenderConfig := do
  match v with
  | .null | .dict [] => return RenderConfig.default
  | .dict kvs =>
    let extra := (kvs.map (·.1)).filter fun k => !configKeys.any fun c => k.sameKey (.str c)
    match extra.mapM Value.textKey? with
    | some texts =>
      let unknown := texts.eraseDups.mergeSort fun a b => !decide (b.toList < a.toList)
      if !unknown.isEmpty then
        throw ⟨"ValueError", "RenderConfig: unknown key(s): " ++ ", ".intercalate unknown⟩
    | none => throw (unlistedKeys f extra)
    let get := fun k => Value.entry? kvs k
    let raw := match get "renderers" with
      | some r => if r.isFalsy then [] else match r with
        | .list xs => xs
        | r => [r]
      | none => []
    let renderers ← raw.mapM (resolveRenderer I f)
    let debug ← match get "debug" with
      | none => pure false
      | some (.bool b) => pure b
      | some _ => throw ⟨"TypeError", "RenderConfig.debug must be a boolean"⟩
    let concurrency ← match get "concurrency" with
      | none => pure defaultConcurrency
      | some (.int n) =>
        if n ≥ 1 then pure n.toNat
        else messageLiteral f (.int n) >>= fun shown =>
          throw ⟨"ValueError", "RenderConfig.concurrency must be a positive integer, got: " ++ shown⟩
      | some c =>
        messageLiteral f c >>= fun shown =>
          throw ⟨"ValueError", "RenderConfig.concurrency must be a positive integer, got: " ++ shown⟩
    let log ← match get "log" with
      | none | some .null => pure none
      | some (.str s) => pure (some (if s.isEmpty then "root" else s))
      | some _ => throw ⟨"TypeError", "RenderConfig.log must be a logger name"⟩
    let root := match get "root" with
      | some .null | none => none
      | some r => some r
    return ⟨root, renderers, debug, log, concurrency⟩
  | v =>
    if v.isFalsy then return RenderConfig.default
    else throw ⟨"AttributeError", "'" ++ v.typeName f ++ "' object has no attribute 'keys'"⟩

end Stencil.Template

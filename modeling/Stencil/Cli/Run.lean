import Stencil.Cli.Arguments
import Stencil.Cli.Files
import Stencil.Data.Json.Read
import Stencil.Data.Json.Write
import Stencil.Markup.Build
import Stencil.Select.Evaluate
import Stencil.Template.Session
import Stencil.Yaml.Load
/-!
# The command line

`xtemplate render TEMPLATE DATA` fills a template file with data and prints the document (or
writes it with `-o`); `xtemplate select DATA SELECTOR` prints the matches of a selector in the
data as indented JSON, each with its path and value. Data comes from JSON, YAML or markup files,
by `--data-format` or by the file's suffix (`.yaml`, `.yml`; `.html`, `.htm`, `.xhtml`;
anything else is JSON). A render can be configured by a YAML file (`--config`), and `--debug`
and `--concurrency` override it.

A run ends in one of three ways: success (exit code 0), a message for the user on the error
stream (exit code 2; argument errors name the parser and follow its usage line), or a failure
that escapes the program (a missing output directory, markup the reader refuses).

Checks come in a fixed order: the template exists, the template is read, the data is read, the
configuration is read and overridden, then the result is written. Data and configuration are
read by one YAML reader, so the version the data's document declares is the one a configuration
that declares none is read by.

* `topParser`, `renderParser`, `selectParser` : the command line's grammar.
* `Outcome` : what a run does.
* `runCommandLine` : a run over a view of the files.
-/

namespace Stencil.Cli

open Stencil.Text Stencil.Markup Stencil.Select Stencil.Template Stencil.Yaml Stencil.Json

def programVersion : String := "0.1.0"

def dataFormats : List String := ["auto", "json", "yaml", "html"]

def helpOption : OptionSpec := ⟨["-h", "--help"], "help", .help, "show this help message and exit"⟩

def formatOption : OptionSpec :=
  ⟨["--data-format"], "data_format", .value "DATA_FORMAT" (some dataFormats) false,
    "формат файла данных (auto: по расширению)"⟩

def dataHelp : String := "данные: .json, .yaml/.yml или .html"

/-- The parser of `render`. -/
def renderParser : ParserSpec where
  prog := "xtemplate render"
  description := none
  options := [helpOption, formatOption,
    ⟨["--config"], "config", .value "CONFIG" none false, "YAML-файл с настройками рендеринга"⟩,
    ⟨["--debug"], "debug", .flag, "без сжатия пробелов, с отладочными комментариями"⟩,
    ⟨["--concurrency"], "concurrency", .value "CONCURRENCY" none true,
      "число одновременно обрабатываемых узлов"⟩,
    ⟨["-o", "--output"], "output", .value "OUTPUT" none false,
      "куда записать результат (по умолчанию stdout)"⟩]
  positionals := [⟨"template", .single, "HTML-шаблон"⟩, ⟨"data", .single, dataHelp⟩]

/-- The parser of `select`. -/
def selectParser : ParserSpec where
  prog := "xtemplate select"
  description := none
  options := [helpOption, formatOption,
    ⟨["--self"], "self_match", .flag, "разрешить совпадение с корнем данных"⟩]
  positionals := [⟨"data", .single, dataHelp⟩, ⟨"selector", .single, "селекторное выражение"⟩]

/-- The parser of the whole command line. -/
def topParser : ParserSpec where
  prog := "xtemplate"
  description := some "Merge JSON/YAML/HTML data into HTML templates annotated with data-* directives"
  options := [helpOption,
    ⟨["-v", "--version"], "version", .version ("xtemplate " ++ programVersion),
      "show program's version number and exit"⟩]
  positionals := [⟨"cmd", .command [("render", "Отрендерить шаблон с данными"),
    ("select", "Выполнить селектор над данными (JSON-вывод)")], ""⟩]

def commandParsers : List (String × ParserSpec) := [("render", renderParser), ("select", selectParser)]

/-- What a run does: its exit code, its output and error streams (the usage line that precedes
an argument error apart), the files it writes, and a failure that escapes it, with its class. -/
structure Outcome where
  exit : Nat
  stdout : String
  stderr : String
  usage : String
  writes : List (String × String)
  escaped : Option (String × String)
deriving Inhabited

/-- How a command fails: with a message for the user, or with a failure that escapes. -/
inductive Failure where
  | user (message : String)
  | escape (kind message : String)
deriving Inhabited

def textArg (ns : List (String × ArgValue)) (dest : String) : Option String :=
  match ns.lookup dest with
  | some (.text s) => some s
  | _ => none

/-- A text slot's value where it is used as a text or a path; a slot given no value (only a
`--` marker) holds an empty list, which lacks the attribute that use needs. -/
def requireText (ns : List (String × ArgValue)) (dest use : String) : Except Failure String :=
  match ns.lookup dest with
  | some (.text s) => pure s
  | _ => throw (.escape "AttributeError" ("'list' object has no attribute " ++ quoteText use))

/-- The data format asked for: `auto` when none is, and the text of an empty list when the option
was given no value, which then names no known format. -/
def formatArg (ns : List (String × ArgValue)) : String :=
  match ns.lookup "data_format" with
  | some (.text s) => s
  | some .noValues => "[]"
  | _ => "auto"

def flagArg (ns : List (String × ArgValue)) (dest : String) : Bool :=
  match ns.lookup dest with
  | some .on => true
  | _ => false

def detectFormat (path format : String) : String :=
  if format != "auto" then format
  else
    let suffix := lowerText (pathSuffix path)
    if suffix == ".yaml" || suffix == ".yml" then "yaml"
    else if suffix == ".html" || suffix == ".htm" || suffix == ".xhtml" then "html"
    else "json"

/-! ## Nesting

The readers of data and configuration files, and the writer of selected values, call themselves
once or twice for each level of nesting, within a call stack of fixed depth. Each has room for a
fixed number of levels after the calls that lead to it; one level more exhausts the stack. -/

def jsonNestingRoom : Nat := 989

def yamlDataRoom : Nat := 489

/-- How many collections may enclose a node of a YAML configuration file, which is read one call
deeper than a data file. -/
def yamlConfigRoom : Nat := 488

def outputNestingRoom : Nat := 495

def stackExhausted (detail : String) : Failure :=
  .escape "RecursionError" ("maximum recursion depth exceeded" ++ detail)

/-- The failure for a YAML error: errors of the reader and of values reach the user with a
prefix; other failures escape. -/
def yamlFailure (text pre : String) (e : YamlError) : Failure :=
  match e with
  | .unexpected kind message => .escape kind message
  | e => .user (pre ++ yamlMessage text e)

/-- Read a data file: markup becomes a document in the forest, YAML and JSON become values; the
YAML reader comes out as the file leaves it. -/
def loadData (view : FileView) (f : Forest) (loader : YamlLoader) (path format : String) :
    Except Failure (Value × Forest × YamlLoader) := do
  let p := normalPath path
  match view.find p with
  | .missing | .notDirectory => throw (.user ("Data file not found: " ++ p))
  | .directory => throw (.user ("Failed to read data file " ++ p ++ ": " ++ openFailure 21 p))
  | .file raw =>
    let text := universalNewlines raw
    let kind := detectFormat p format
    match kind with
    | "html" =>
      match f.parseDocument text with
      | .ok (d, f) => return (.node d, f, loader)
      | .error e =>
        if e.kind == "ValueError" then throw (.user ("Invalid html data in " ++ p ++ ": " ++ e.message))
        else throw (.escape e.kind e.message)
    | "yaml" =>
      match readYaml loader yamlDataRoom text with
      | .ok (v, loader) => return (v, f, loader)
      | .error e => throw (yamlFailure text ("Invalid yaml data in " ++ p ++ ": ") e)
    | _ =>
      match readJsonNested jsonNestingRoom text with
      | .ok v => return (v, f, loader)
      | .error e =>
        if e.fault.exhaustsStack then throw (.escape "RecursionError" (e.message text))
        else throw (.user ("Invalid " ++ kind ++ " data in " ++ p ++ ": " ++ e.message text))

/-- Read a configuration file with a YAML reader: a YAML mapping (or nothing) read as a render
configuration. -/
def loadConfig (I : Imports) (view : FileView) (f : Forest) (loader : YamlLoader) (path : String) :
    Except Failure RenderConfig := do
  let p := normalPath path
  let unreadable := fun (code : Nat) => Failure.user ("Cannot read config " ++ p ++ ": " ++ openFailure code p)
  match view.find p with
  | .missing => throw (unreadable 2)
  | .notDirectory => throw (unreadable 20)
  | .directory => throw (unreadable 21)
  | .file raw =>
    let text := universalNewlines raw
    match readYaml loader yamlConfigRoom text with
    | .error e => throw (yamlFailure text ("Invalid YAML in " ++ p ++ ": ") e)
    | .ok (v, _) =>
      match v with
      | .null | .dict _ =>
        match RenderConfig.ofValue I f v with
        | .ok c => return c
        | .error e => throw (.user (p ++ ": " ++ e.message))
      | _ => throw (.user ("Config " ++ p ++ " must be a mapping"))

def writeTo (view : FileView) (path text : String) : Except Failure (List (String × String)) := do
  let p := normalPath path
  match view.find p with
  | .directory => throw (.escape "IsADirectoryError" (openFailure 21 p))
  | .notDirectory => throw (.escape "NotADirectoryError" (openFailure 20 p))
  | .file _ => return [(p, text)]
  | .missing =>
    match view.find (parentPath p) with
    | .directory => return [(p, text)]
    | .file _ | .notDirectory => throw (.escape "NotADirectoryError" (openFailure 20 p))
    | .missing => throw (.escape "FileNotFoundError" (openFailure 2 p))

def runRender (I : Imports) (view : FileView) (ns : List (String × ArgValue)) :
    Except Failure (String × List (String × String)) := do
  let template := normalPath (← requireText ns "template" "exists")
  let raw ← match view.find template with
    | .missing | .notDirectory => throw (.user ("Template not found: " ++ template))
    | .directory => throw (.escape "IsADirectoryError" (openFailure 21 template))
    | .file raw => pure raw
  let (doc, f) ← match Forest.empty.parseDocument (universalNewlines raw) with
    | .ok r => pure r
    | .error e =>
      if e.kind == "ValueError" then throw (.user e.message) else throw (.escape e.kind e.message)
  let (data, f, loader) ← loadData view f .fresh (← requireText ns "data" "exists") (formatArg ns)
  let config ← match textArg ns "config" with
    | some c => loadConfig I view f loader c
    | none => pure RenderConfig.default
  let config := if flagArg ns "debug" then { config with debug := true } else config
  let config ← match ns.lookup "concurrency" with
    | some (.int n) =>
      if n < 1 then throw (.user "--concurrency must be positive")
      else pure { config with concurrency := n.toNat }
    | some .noValues => throw (.escape "TypeError" "'<' not supported between instances of 'list' and 'int'")
    | _ => pure config
  let s := renderTemplate f doc data config
  let text := s.forest.render doc
  match textArg ns "output" with
  | some o => return ("", ← writeTo view o text)
  | none => return (text, [])

/-- A selected value as JSON: nodes as their markup (a string node as its text), mappings with
their keys as plain text (keys with the same text merging into the first, with the last value),
tuples as lists, and dates, byte strings and sets as their plain text. -/
def jsonable (f : Forest) : Value → Value
  | .node n => .str (f.serialize n)
  | .dict kvs =>
    .dict (kvs.attach.foldl (fun acc ⟨(k, v), _⟩ =>
      Value.setEntry acc (.str (k.plainText f)) (jsonable f v)) [])
  | .list xs => .list (xs.attach.map fun ⟨x, _⟩ => jsonable f x)
  | .tuple xs => .list (xs.attach.map fun ⟨x, _⟩ => jsonable f x)
  | v@(.date _) | v@(.datetime _) | v@(.bytes _) | v@(.set _) => .str (v.plainText f)
  | v => v
termination_by v => sizeOf v
decreasing_by
  all_goals simp_wf
  all_goals (rename_i h; have hlt := List.sizeOf_lt_of_mem h; simp_all; omega)

def runSelect (view : FileView) (ns : List (String × ArgValue)) :
    Except Failure (String × List (String × String)) := do
  let (data, f, _) ← loadData view Forest.empty .fresh (← requireText ns "data" "exists") (formatArg ns)
  match select f (Location.ofValue data) (← requireText ns "selector" "strip") .unset (flagArg ns "self_match") with
  | .error e =>
    if e.isSelectorError || e.kind == "ValueError" then throw (.user e.message)
    else throw (.escape e.kind e.message)
  | .ok r =>
    for m in r.found do
      if !m.describable then throw (.user decimalLimitMessage)
      if nesting m.value > outputNestingRoom then throw (stackExhausted "")
    if !r.found.all (·.value.literalWritable) then throw (.user decimalLimitMessage)
    let payload := Value.list (r.found.map fun m =>
      Value.record [("path", .str (m.describe f)), ("value", jsonable f m.value)])
    return (writeJson (some 2) payload ++ "\n", [])

def trimEnd (s : String) : String := String.ofList (s.toList.reverse.dropWhile isBlank).reverse

/-- A run of the command line with some arguments over a view of the files, renderer references
reaching what `I` can import. -/
def runCommandLine (I : Imports) (args : List String) (view : FileView) : Outcome :=
  match readArguments topParser commandParsers args with
  | .error (.exit out) => ⟨0, out, "", "", [], none⟩
  | .error (.error prog usage message) => ⟨2, "", prog ++ ": error: " ++ message ++ "\n", usage ++ "\n", [], none⟩
  | .ok ns =>
    let result := match textArg ns "cmd" with
      | some "render" => runRender I view ns
      | some "select" => runSelect view ns
      | _ => .error (.user "")
    match result with
    | .ok (out, writes) => ⟨0, out, "", "", writes, none⟩
    | .error (.user m) => ⟨2, "", trimEnd m ++ "\n", "", [], none⟩
    | .error (.escape kind m) => ⟨1, "", "", "", [], some (kind, m)⟩

end Stencil.Cli

import Stencil.Text.Case
import Stencil.Text.Quote
/-!
# Files seen by the command line

The command line reads and writes files by paths relative to its working directory. A path is
first brought into normal form: empty and `.` parts are dropped, and no parts at all is `.`.
What the command line sees of the file system is a `FileView`: for each path it knows, a file
with its text or a directory. Opening a path walks its directories: a missing directory, or a
file where a directory should be, stops the walk.

Texts are read with universal line ends: `\r\n` and a lone `\r` read as `\n`.

* `normalPath`, `pathSuffix`, `parentPath` : paths.
* `FileView`, `FileView.find` : what a path names.
* `FileView.created` : the files of a list of writes that did not exist before.
-/

namespace Stencil.Cli

open Stencil.Text

/-- A path in normal form: its parts without empty and `.` parts, joined by `/`; `.` when no
part is left; a leading `/` (or exactly two) kept. -/
def normalPath (p : String) : String :=
  let parts := (p.splitOn "/").filter fun s => !s.isEmpty && s != "."
  let body := "/".intercalate parts
  if p.startsWith "//" && !p.startsWith "///" then "//" ++ body
  else if p.startsWith "/" then "/" ++ body
  else if parts.isEmpty then "." else body

def pathName (p : String) : String :=
  let last := ((p.splitOn "/").getLast?).getD ""
  if last == "." then "" else last

/-- The suffix of a path: from the last `.` of its last part, when that `.` is neither the part's
first nor its last character. -/
def pathSuffix (p : String) : String :=
  let name := (pathName (normalPath p)).toList
  let dots := (List.range name.length).filter fun i => name[i]? == some '.'
  match dots.getLast? with
  | some i => if 0 < i && i + 1 < name.length then String.ofList (name.drop i) else ""
  | none => ""

/-- The directory a path in normal form lies in. -/
def parentPath (p : String) : String :=
  let parts := p.splitOn "/"
  if parts.length ≤ 1 then "." else normalPath ("/".intercalate parts.dropLast)

def universalNewlines (s : String) : String :=
  let rec go : List Char → List Char
    | '\r' :: '\n' :: rest => '\n' :: go rest
    | '\r' :: rest => '\n' :: go rest
    | c :: rest => c :: go rest
    | [] => []
  String.ofList (go s.toList)

/-- What a path names. -/
inductive Entry where
  | file (text : String)
  | directory
deriving Inhabited, Repr

/-- What opening a path finds: a file's text, a directory, nothing, or a file where a directory
is needed on the way. -/
inductive Found where
  | file (text : String)
  | directory
  | missing
  | notDirectory
deriving Inhabited, Repr

/-- The paths the command line can see, in normal form, with what they name; the working
directory `.` is always a directory. -/
structure FileView where
  entries : List (String × Entry)
deriving Inhabited

namespace FileView

/-- What a path in normal form names, if the view knows it; the working directory and the root
(the empty first part of an absolute path) are directories. -/
def entry? (v : FileView) (p : String) : Option Entry :=
  if p == "." || p == "" then some .directory else v.entries.lookup p

/-- What opening a path finds: each directory on the way must be one. -/
def find (v : FileView) (p : String) : Found :=
  let p := normalPath p
  let parts := p.splitOn "/"
  let prefixes := (List.range (parts.length - 1)).map fun i => "/".intercalate (parts.take (i + 1))
  let blocked := prefixes.findSome? fun d =>
    match v.entry? d with
    | some .directory => none
    | some (.file _) => some Found.notDirectory
    | none => some Found.missing
  match blocked with
  | some f => f
  | none =>
    match v.entry? p with
    | some (.file text) => .file text
    | some .directory => .directory
    | none => .missing

def isPresent (v : FileView) (p : String) : Bool :=
  match v.find p with
  | .file _ | .directory => true
  | _ => false

def ofFiles (files : List (String × String)) : FileView :=
  let dirs := files.flatMap fun (p, _) =>
    let parts := (normalPath p).splitOn "/"
    (List.range (parts.length - 1)).map fun i => "/".intercalate (parts.take (i + 1))
  ⟨(files.map fun (p, t) => (normalPath p, Entry.file t)) ++ dirs.eraseDups.map (·, .directory)⟩

/-- The writes to paths that named no file before. -/
def created (v : FileView) (writes : List (String × String)) : List (String × String) :=
  writes.filter fun (p, _) =>
    match v.find p with
    | .file _ => false
    | _ => true

end FileView

def openFailure (code : Nat) (p : String) : String :=
  let what := match code with
    | 2 => "No such file or directory"
    | 20 => "Not a directory"
    | 21 => "Is a directory"
    | _ => "Error"
  "[Errno " ++ toString code ++ "] " ++ what ++ ": " ++ quoteText p

end Stencil.Cli

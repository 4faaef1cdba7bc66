import Stencil.Cli.Run
/-!
# The program

Runs the command line over the real file system, renderer references reaching the built-in
renderers only. The run itself is `runCommandLine` over a view
of the files: the view holds every path an argument may name (the argument, its text after
`=`, its text after a short option) and every directory on the way to one. Then the outputs are
printed, the files written, and the exit code returned.
-/

namespace Stencil.Cli.Host

open Stencil.Cli

/-- The texts an argument may give as a path: itself, its text after the first `=`, and its
text after a short option's two characters. -/
def candidatePaths (args : List String) : List String :=
  args.flatMap fun a =>
    let afterEq := match a.splitOn "=" with
      | _ :: rest@(_ :: _) => ["=".intercalate rest]
      | _ => []
    [a, String.ofList (a.toList.drop 2)] ++ afterEq

def withDirectories (ps : List String) : List String :=
  (ps.flatMap fun p =>
    let parts := (normalPath p).splitOn "/"
    (List.range parts.length).map fun i => "/".intercalate (parts.take (i + 1))).eraseDups

def inspect (p : String) : IO (Option (String × Entry)) := do
  let path := System.mkFilePath [p]
  if p.isEmpty then return none
  if ← path.isDir then return some (p, .directory)
  if ← path.pathExists then
    try
      return some (p, .file (← IO.FS.readFile path))
    catch _ =>
      return none
  return none

def viewFor (args : List String) : IO FileView := do
  let mut entries : Array (String × Entry) := #[]
  for p in withDirectories (candidatePaths args) do
    if let some e ← inspect p then
      entries := entries.push e
  return ⟨entries.toList⟩

end Stencil.Cli.Host

def main (args : List String) : IO UInt32 := do
  let o := Stencil.Cli.runCommandLine Stencil.Template.Imports.package args
    (← Stencil.Cli.Host.viewFor args)
  let out ← IO.getStdout
  let err ← IO.getStderr
  match o.escaped with
  | some (kind, message) =>
    err.putStrLn (kind ++ ": " ++ message)
    err.flush
    return 1
  | none =>
    for (p, text) in o.writes do
      IO.FS.writeFile (System.mkFilePath [p]) text
    out.putStr o.stdout
    out.flush
    err.putStr (o.usage ++ o.stderr)
    err.flush
    return o.exit.toUInt32

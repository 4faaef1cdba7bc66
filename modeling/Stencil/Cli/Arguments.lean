import Stencil.Text.Digit
import Stencil.Text.Integer
import Stencil.Text.Quote
/-!
# Command-line arguments

A command line is read against a parser: options (names starting with `-`, each taking one
argument, or none for flags, help and version) and positional arguments, each taking one
argument, or, for a command, the command's name and all the arguments after it, which the
command's own parser reads.

Reading goes in two passes. First every argument is classified: after `--` everything is
positional; an argument is an option when it is one of the parser's option names, or such a name
with `=value`, or a unique prefix of a long name, or a one-dash name with its argument attached
(`-ofile`); several matching prefixes are an error; `-` alone, negative numbers and arguments
with a space are positional; other arguments starting with `-` are unknown options. Then the
arguments are consumed from left to right: runs of positional arguments fill the positional
slots in order, each option takes its argument (a positional one, with a `--` marker around it
dropped; an option or a slot given only the marker has no value), and unknown
options and positional arguments left over are kept as unrecognized. Values are converted when
they are consumed (integers, fixed choices), so the first bad value from the left is the error.
At the end every positional slot must be filled; unrecognized arguments are an error of the
outermost parser.

Help is laid out in 98 columns: a usage line wrapped after the program name, the description,
and a section each for positional arguments and options, with help texts aligned at a common
column (at most 24).

* `OptionSpec`, `PositionalSpec`, `ParserSpec` : a parser.
* `ArgValue`, `ArgStop` : what reading gives, or how it ends early.
* `readArguments` : the values a parser with commands reads from a command line.
* `ParserSpec.usage`, `ParserSpec.help` : the usage line and the help text.
-/

namespace Stencil.Cli

open Stencil.Text

/-- What an option does: take a value (with a name for it in help, perhaps a fixed set of
choices, perhaps an integer), set a flag, print the version, or print help. -/
inductive OptionKind where
  | value (metavar : String) (choices : Option (List String)) (integer : Bool)
  | flag
  | version (text : String)
  | help
deriving Inhabited, Repr

/-- An option: its names, the slot it fills, what it does, and its help text. -/
structure OptionSpec where
  names : List String
  dest : String
  kind : OptionKind
  help : String
deriving Inhabited, Repr

/-- A positional slot: one argument, or a command with its choices (and their help texts). -/
inductive PositionalKind where
  | single
  | command (choices : List (String × String))
deriving Inhabited, Repr

/-- A positional slot: its name, kind and help text. -/
structure PositionalSpec where
  dest : String
  kind : PositionalKind
  help : String
deriving Inhabited, Repr

/-- A parser: its program name, description, options and positional slots. -/
structure ParserSpec where
  prog : String
  description : Option String
  options : List OptionSpec
  positionals : List PositionalSpec
deriving Inhabited, Repr

/-- A value read for a slot. -/
inductive ArgValue where
  | text (s : String)
  | int (n : Int)
  | on
  | noValues
deriving Inhabited, Repr

/-- How reading ends early: an error of a parser (with its usage line), or a text to print before
stopping successfully (help, version). -/
inductive ArgStop where
  | error (prog usage message : String)
  | exit (stdout : String)
deriving Inhabited, Repr

namespace OptionSpec

def arity (o : OptionSpec) : Nat :=
  match o.kind with
  | .value .. => 1
  | _ => 0

def display (o : OptionSpec) : String := "/".intercalate o.names

def metavar (o : OptionSpec) : String :=
  match o.kind with
  | .value _ (some cs) _ => "\x7b" ++ ",".intercalate cs ++ "\x7d"
  | .value m none _ => m
  | _ => ""

def usagePart (o : OptionSpec) : String :=
  let name := o.names.headD ""
  if o.arity == 0 then "[" ++ name ++ "]" else "[" ++ name ++ " " ++ o.metavar ++ "]"

def invocation (o : OptionSpec) : String :=
  if o.arity == 0 then ", ".intercalate o.names
  else ", ".intercalate (o.names.map (· ++ " " ++ o.metavar))

end OptionSpec

namespace PositionalSpec

def display (p : PositionalSpec) : String :=
  match p.kind with
  | .single => p.dest
  | .command cs => "\x7b" ++ ",".intercalate (cs.map (·.1)) ++ "\x7d"

def usagePart (p : PositionalSpec) : String :=
  match p.kind with
  | .single => p.dest
  | .command _ => p.display ++ " ..."

end PositionalSpec

/-! ## Layout of help -/

def helpWidth : Nat := 98

def maxHelpColumn : Nat := 24

def fillWords (width : Nat) (words : List String) : List String :=
  let step := fun (acc : List String × String) (w : String) =>
    if acc.2.isEmpty then (acc.1, w)
    else if acc.2.length + 1 + w.length ≤ width then (acc.1, acc.2 ++ " " ++ w)
    else (acc.1 ++ [acc.2], w)
  let (lines, last) := words.foldl step ([], "")
  if last.isEmpty then lines else lines ++ [last]

def spaces (n : Nat) : String := String.ofList (List.replicate n ' ')

/-- Parts of a usage line filled into lines of the help width, each line after the first
indented by `indent`; the first line starts after `first` characters. -/
def usageLines (parts : List String) (indent first : Nat) : List String :=
  let step := fun (acc : List (List String) × List String × Nat) (p : String) =>
    let (lines, line, len) := acc
    if len + 1 + p.length > helpWidth && !line.isEmpty then (lines ++ [line], [p], indent - 1 + p.length + 1)
    else (lines, line ++ [p], len + p.length + 1)
  let (lines, line, _) := parts.foldl step ([], [], first - 1)
  let lines := if line.isEmpty then lines else lines ++ [line]
  lines.map (" ".intercalate ·)

namespace ParserSpec

/-- The usage line: `usage: ` and the program name, then the options and the positional slots,
wrapped to the help width with continuation lines aligned after the program name. -/
def usage (p : ParserSpec) : String :=
  let optParts := p.options.map OptionSpec.usagePart
  let posParts := p.positionals.map PositionalSpec.usagePart
  let whole := " ".intercalate ([p.prog] ++ optParts ++ posParts)
  let pre := "usage: "
  if pre.length + whole.length ≤ helpWidth then pre ++ whole
  else
    let indent := pre.length + p.prog.length + 1
    let first := usageLines ([p.prog] ++ optParts) indent pre.length
    let rest := (usageLines posParts indent indent).map (spaces indent ++ ·)
    let lines := (first.head?.map (pre ++ ·)).toList ++ (first.drop 1).map (spaces indent ++ ·) ++ rest
    "\n".intercalate lines

/-- One entry of a help section: its invocation at `indent`, and its help text from `column`
on (on the next line when the invocation is too long). -/
def helpEntry (indent column : Nat) (invocation help : String) : List String :=
  let width := column - indent - 2
  let lines := fillWords (helpWidth - column) (splitBlank help)
  if help.isEmpty then [spaces indent ++ invocation]
  else if invocation.length ≤ width then
    match lines with
    | first :: more =>
      (spaces indent ++ invocation ++ spaces (width - invocation.length) ++ "  " ++ first) ::
        more.map (spaces column ++ ·)
    | [] => [spaces indent ++ invocation]
  else (spaces indent ++ invocation) :: lines.map (spaces column ++ ·)

/-- The help text: usage, description, positional arguments, options. -/
def help (p : ParserSpec) : String :=
  let posEntries : List (Nat × String × String) := p.positionals.flatMap fun s =>
    (2, s.display, s.help) :: match s.kind with
      | .command cs => cs.map fun (name, h) => (4, name, h)
      | .single => []
  let optEntries : List (Nat × String × String) := p.options.map fun o => (2, o.invocation, o.help)
  let longest := (posEntries ++ optEntries).foldl (fun m (i, inv, _) => max m (i + inv.length)) 0
  let column := min (longest + 2) maxHelpColumn
  let block := fun (title : String) (entries : List (Nat × String × String)) =>
    if entries.isEmpty then []
    else [title ++ ":"] ++ entries.flatMap (fun (i, inv, h) => helpEntry i column inv h) ++ [""]
  let description := match p.description with
    | some d => fillWords helpWidth (splitBlank d) ++ [""]
    | none => []
  "\n".intercalate ([p.usage, ""] ++ description ++ block "positional arguments" posEntries ++
    block "options" optEntries).dropLast ++ "\n"

def optionNames (p : ParserSpec) : List (String × OptionSpec) :=
  p.options.flatMap fun o => o.names.map (·, o)

end ParserSpec

/-! ## Reading -/

/-- An argument read as an option: the option (none for an unknown one), the name used, and an
argument attached to it. -/
structure OptionUse where
  option : Option OptionSpec
  name : String
  attached : Option String
deriving Inhabited

/-- Negative numbers: `-` and digits, or `-`, digits, `.` and digits, where a digit is any
decimal digit and one line break may end the text. -/
def isNegativeNumber (s : String) : Bool :=
  let cs := if s.endsWith "\n" then s.toList.dropLast else s.toList
  match cs with
  | '-' :: rest =>
    let (before, after) := (rest.takeWhile Text.isDigit, rest.dropWhile Text.isDigit)
    (!before.isEmpty && after.isEmpty) ||
      match after with
      | '.' :: ds => !ds.isEmpty && ds.all Text.isDigit
      | _ => false
  | _ => false

/-- The options an argument could abbreviate: for `--` names, those the text before any `=`
starts; for one-dash names, the one its first two characters name (with the rest attached) and
those it starts. -/
def prefixMatches (p : ParserSpec) (arg : String) : List OptionUse :=
  let names := p.optionNames
  if arg.startsWith "--" then
    let (stem, attached) := match arg.splitOn "=" with
      | stem :: rest@(_ :: _) => (stem, some ("=".intercalate rest))
      | _ => (arg, none)
    names.filterMap fun (n, o) => if n.startsWith stem then some ⟨some o, n, attached⟩ else none
  else
    let short := String.ofList (arg.toList.take 2)
    let tail := String.ofList (arg.toList.drop 2)
    names.filterMap fun (n, o) =>
      if n == short then some ⟨some o, n, some tail⟩
      else if n.startsWith arg then some ⟨some o, n, none⟩
      else none

/-- How a parser classifies an argument: positional (`none`), or an option use. Several
matching prefixes are an error. -/
def classify (p : ParserSpec) (arg : String) : Except String (Option OptionUse) := do
  let names := p.optionNames
  match arg.toList with
  | [] => return none
  | c :: rest =>
    if c != '-' then return none
    if let some o := names.lookup arg then return some ⟨some o, arg, none⟩
    if rest.isEmpty then return none
    if arg.contains '=' then
      match arg.splitOn "=" with
      | stem :: more@(_ :: _) =>
        if let some o := names.lookup stem then return some ⟨some o, stem, some ("=".intercalate more)⟩
      | _ => pure ()
    match prefixMatches p arg with
    | [one] => return some one
    | [] =>
      if isNegativeNumber arg || arg.contains ' ' then return none
      return some ⟨none, arg, none⟩
    | many =>
      throw ("ambiguous option: " ++ arg ++ " could match " ++ ", ".intercalate (many.map (·.name)))

/-- The length of the run of arguments a positional slot takes from the front of a pattern
(`A` positional, `O` option, `-` the `--` marker): dashes, one `A` and dashes for a single slot,
dashes, an `A` and all the rest for a command. -/
def slotLength (kind : PositionalKind) (pattern : List Char) : Option Nat :=
  let lead := (pattern.takeWhile (· == '-')).length
  match pattern.drop lead with
  | 'A' :: rest =>
    match kind with
    | .single => some (lead + 1 + (rest.takeWhile (· == '-')).length)
    | .command _ => some (lead + 1 + rest.length)
  | _ => none

def slotLengths : List PositionalSpec → List Char → List Nat
  | [], _ => []
  | s :: rest, pattern =>
    match slotLength s.kind pattern with
    | some n => n :: slotLengths rest (pattern.drop n)
    | none => []

/-- What a parser has read so far: the values of its slots, the slots seen, the positional slots
left, the unrecognized arguments, and those a command's parser left unrecognized. -/
structure ArgState where
  values : List (String × ArgValue)
  seen : List String
  left : List PositionalSpec
  extras : List String
  commandExtras : List String
deriving Inhabited

def ArgState.set (st : ArgState) (dest : String) (v : ArgValue) : ArgState :=
  { st with values := (dest, v) :: st.values.filter (·.1 != dest), seen := dest :: st.seen }

def ParserSpec.fail (p : ParserSpec) (message : String) : ArgStop := .error p.prog p.usage message

/-- Take an option with its arguments: convert and check its value, set its slot, or stop with
help or the version. -/
def takeOption (p : ParserSpec) (st : ArgState) (o : OptionSpec) (args : List String) :
    Except ArgStop ArgState := do
  let fail := fun (m : String) => ArgStop.error p.prog p.usage ("argument " ++ o.display ++ ": " ++ m)
  match o.kind with
  | .flag => return st.set o.dest .on
  | .help => throw (.exit p.help)
  | .version text => throw (.exit (text ++ "\n"))
  | .value _ choices integer =>
    let some arg := (args.erase "--").head? | return st.set o.dest .noValues
    let value ← if integer then
        match readInteger? arg with
        | some n => pure (ArgValue.int n)
        | none => throw (fail ("invalid int value: " ++ quoteText arg))
      else pure (ArgValue.text arg)
    match choices with
    | some cs =>
      if !cs.contains arg then
        throw (fail ("invalid choice: " ++ quoteText arg ++ " (choose from " ++
          ", ".intercalate (cs.map quoteText) ++ ")"))
    | none => pure ()
    return st.set o.dest value

/-- The length of the run of arguments an option taking one argument takes from the front of a
pattern: dashes, one `A` and dashes, like a single positional slot. -/
def optionTake (pattern : List Char) : Option Nat := slotLength .single pattern

/-- The options an option use at `start` stands for, with their arguments, and the index after
them: an attached argument is the option's argument, or, for a one-dash option taking none,
more one-dash options written together (`-xy`); otherwise the option takes the next argument
when it needs one. `fuel` bounds the options written together. -/
def optionRun (p : ParserSpec) (args : Array String) (pattern : Array Char) (start : Nat) :
    Nat → OptionSpec → OptionUse → List (OptionSpec × List String) →
      Except ArgStop (Nat × List (OptionSpec × List String))
  | 0, _, _, acc => pure (start + 1, acc)
  | fuel + 1, o, use, acc =>
    let fail := fun (m : String) => ArgStop.error p.prog p.usage ("argument " ++ o.display ++ ": " ++ m)
    match use.attached with
    | some a =>
      if o.arity == 0 && use.name.toList[1]? != some '-' && !a.isEmpty then
        let name := String.ofList ['-', a.toList.headD ' ']
        let tail := String.ofList (a.toList.drop 1)
        match p.optionNames.lookup name with
        | some o2 =>
          optionRun p args pattern start fuel o2 ⟨some o2, name, if tail.isEmpty then none else some tail⟩
            (acc ++ [(o, [])])
        | none => throw (fail ("ignored explicit argument " ++ quoteText a))
      else if o.arity == 1 then pure (start + 1, acc ++ [(o, [a])])
      else throw (fail ("ignored explicit argument " ++ quoteText a))
    | none =>
      if o.arity == 0 then pure (start + 1, acc ++ [(o, [])])
      else
        match optionTake (pattern.toList.drop (start + 1)) with
        | some n => pure (start + 1 + n, acc ++ [(o, (args.extract (start + 1) (start + 1 + n)).toList)])
        | none => throw (fail "expected one argument")

/-- Take a positional slot with its run of arguments: a single slot takes its argument (without
a `--` marker, and no value when the marker is all it has); a command slot checks the command's name and hands the rest to `runCommand`,
whose values join the parser's. -/
def takePositional (runCommand : String → List String → Except ArgStop (Option ArgState))
    (p : ParserSpec) (st : ArgState) (slot : PositionalSpec) (run : List String) :
    Except ArgStop ArgState := do
  match slot.kind with
  | .single =>
    match (run.erase "--").head? with
    | some a => return st.set slot.dest (.text a)
    | none => return st.set slot.dest .noValues
  | .command choices =>
    let name := run.headD ""
    if !choices.any (·.1 == name) then
      throw (p.fail ("argument " ++ slot.dest ++ ": invalid choice: " ++ quoteText name ++
        " (choose from " ++ ", ".intercalate (choices.map fun c => quoteText c.1) ++ ")"))
    let st := st.set slot.dest (.text name)
    match ← runCommand name run.tail with
    | some sub =>
      return { st with
        values := sub.values ++ st.values.filter (fun (d, _) => !sub.values.any (·.1 == d)),
        seen := sub.seen ++ st.seen,
        commandExtras := st.commandExtras ++ sub.extras ++ sub.commandExtras }
    | none => return st

/-- Fill as many of the positional slots left as the arguments from `start` allow; the index
after them. -/
def consumePositionals (runCommand : String → List String → Except ArgStop (Option ArgState))
    (p : ParserSpec) (args : Array String) (pattern : Array Char) (st : ArgState) (start : Nat) :
    Except ArgStop (Nat × ArgState) := do
  let lengths := slotLengths st.left (pattern.toList.drop start)
  let pairs := st.left.zip lengths
  let mut st := { st with left := st.left.drop lengths.length }
  let mut i := start
  for (slot, n) in pairs do
    st ← takePositional runCommand p st slot (args.extract i (i + n)).toList
    i := i + n
  return (i, st)

/-- Read arguments with a parser: classify them, then consume positional runs and options from
left to right, keep what is left as unrecognized, and require every positional slot. A command
slot hands its arguments to `runCommand`. -/
def readWith (runCommand : String → List String → Except ArgStop (Option ArgState))
    (p : ParserSpec) (argList : List String) : Except ArgStop ArgState := do
  let args := argList.toArray
  let mut pattern : Array Char := #[]
  let mut uses : Array (Option OptionUse) := #[]
  let mut afterMarker := false
  for a in argList do
    if afterMarker then
      pattern := pattern.push 'A'
      uses := uses.push none
    else if a == "--" then
      pattern := pattern.push '-'
      uses := uses.push none
      afterMarker := true
    else
      match classify p a with
      | .error m => throw (p.fail m)
      | .ok none =>
        pattern := pattern.push 'A'
        uses := uses.push none
      | .ok (some u) =>
        pattern := pattern.push 'O'
        uses := uses.push (some u)
  let optionIndices := (List.range args.size).filter fun i => (uses[i]?).join.isSome
  let mut st : ArgState := ⟨[], [], p.positionals, [], []⟩
  let mut start := 0
  for _ in [0:args.size + 1] do
    match optionIndices.find? (· ≥ start) with
    | none => break
    | some next =>
      if start != next then
        let (stop, st') ← consumePositionals runCommand p args pattern st start
        st := st'
        if stop > start then
          start := stop
          continue
        start := stop
      if !optionIndices.contains start then
        st := { st with extras := st.extras ++ (args.extract start next).toList }
        start := next
      match (uses[start]?).join with
      | some ⟨some o, name, attached⟩ =>
        let (stop, taken) ← optionRun p args pattern start (args.size + 1) o ⟨some o, name, attached⟩ []
        for (o, as) in taken do
          st ← takeOption p st o as
        start := stop
      | _ =>
        st := { st with extras := st.extras ++ [args.getD start ""] }
        start := start + 1
  let (stop, st') ← consumePositionals runCommand p args pattern st start
  st := { st' with extras := st'.extras ++ (args.extract stop args.size).toList }
  if !st.left.isEmpty then
    throw (p.fail ("the following arguments are required: " ++ ", ".intercalate (st.left.map (·.dest))))
  return st

/-- The values a parser with commands reads from a command line: the command's parser reads the
arguments after the command's name, and arguments left unrecognized by either are an error. -/
def readArguments (top : ParserSpec) (commands : List (String × ParserSpec)) (args : List String) :
    Except ArgStop (List (String × ArgValue)) := do
  let inner := fun (name : String) (rest : List String) =>
    match commands.lookup name with
    | some sub => some <$> readWith (fun _ _ => pure none) sub rest
    | none => pure none
  let st ← readWith inner top args
  let extras := st.extras ++ st.commandExtras
  if !extras.isEmpty then throw (top.fail ("unrecognized arguments: " ++ " ".intercalate extras))
  return st.values

end Stencil.Cli

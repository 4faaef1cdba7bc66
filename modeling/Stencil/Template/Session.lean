import Stencil.Template.Apply
import Stencil.Template.Compress
import Stencil.Template.Config
import Stencil.Template.Scope
import Stencil.Template.Table
import Stencil.Template.TaskQueue
/-!
# Rendering a template

A rendering works through a queue of tasks, each a template node with the scope it is rendered
in, first in first out, starting with the target node in the root scope. The directives of an
element are applied in a fixed order, and each of them may take the element out and end its
task:

1. `data-$name`: variables are assigned;
2. `data-to-attr`: the first value selected goes into the attribute `attr`;
3. `data-not`: a nonempty selection takes the element out;
4. `data-if`: an empty selection takes the element out;
5. `data-is`: the element is cloned once per value selected, each clone's value goes through the
   renderer chain, and a list value repeats the clone once per item.

An element without these directives keeps its scope. Before the children of an element are
queued, `data-apply` copies template fragments into it, its directives are stripped, the texts
of markup data are wrapped into spans with the `texts` option, and with the `invisible` option
the element is replaced by its children. Unless debugging, every node is compressed first
(comments taken out, white space collapsed).

## Workers

The queue is shared by `concurrency` workers, of which one runs at a time. A worker takes tasks
until the queue is empty, when it waits for a new task, or until a `data-is` has cloned its
element, when it waits for the renderer chains of the clones. Then the work that became ready
first goes on, in this order of readiness:

* the workers that have not started yet, each taking tasks in turn;
* a waiting worker woken by a new task (one worker per task queued), which looks for a task and
  may find the queue emptied already;
* the renderer chain of a clone (the chains of one element become ready together, in order);
* the report of a finished chain to the worker waiting for it;
* a worker whose chains have all been reported, which queues the clones' children and takes
  tasks again.

So with one worker the tasks run strictly in queue order, and with more a task queued after a
`data-is` may run before the children of its clones, which sees in variables and problems.
Problems are recorded in the order they arise. Chains that wait on their own would finish in
any order: `Session.Next` lets any piece of ready work run next, and `Session.Reaches` collects
every interleaving, of which `Session.drain` is the one where work runs in order of readiness.

* `Task`, `Expansion`, `Wakeup`, `Session` : the state of a rendering.
* `Session.process` : one task, up to the point where its worker may have to wait.
* `Session.step` : the next piece of work, and `Session.drain` all of them.
* `Session.Next`, `Session.Reaches` : the steps and runs of every interleaving.
* `Session.start`, `renderTemplate` : a template node rendered with data.
* `processor` : the directive processor as a handler of the task queue.
-/

namespace Stencil.Template

open Stencil.Markup Stencil.Select Stencil.Text

/-- A template node and the number of the scope it is rendered in. -/
structure Task where
  node : NodeId
  scope : Nat

/-- A `data-is` whose worker waits for the renderer chains of the clones: the element, its scope
and options, each clone with the match it stands for, the outcome of each clone's chain in clone
order (a stand-in until the chain has run), and how many finished chains have been reported. -/
structure Expansion where
  element : NodeId
  scope : Nat
  options : List String
  clones : List (NodeId × Location)
  steps : Array RenderStep
  reported : Nat

/-- A piece of work that became ready while a worker was running. -/
inductive Wakeup where
  /-- A waiting worker woken by a new task looks for a task. -/
  | take
  /-- The renderer chain of one clone of an expansion. -/
  | render (expansion clone : Nat)
  /-- A finished chain is reported to the worker of its expansion. -/
  | report (expansion : Nat)
  /-- The worker of an expansion whose chains have all been reported goes on. -/
  | resume (expansion : Nat)
deriving Inhabited

/-- The state of a rendering: the forest, the node table, the scopes, the configuration, the
untouched copy of the template document and the problems found; the queue of tasks with the
place of the next one; the workers not started yet, those waiting for a task and whether one is
running; the work that became ready with the place of the next piece; and the expansions. -/
structure Session where
  forest : Forest
  table : NodeTable
  scopes : Scopes
  config : RenderConfig
  pristine : NodeId
  problems : Array Problem
  queue : Array Task
  next : Nat
  unstarted : Nat
  idle : Nat
  running : Bool
  ready : Array Wakeup
  nextReady : Nat
  expansions : Array Expansion

def settable : Value → Bool
  | .node _ => true
  | v => !v.isFalsy

namespace Session

/-- The problems that the scopes and the node table recorded, moved to the end of the session's
own, so that all problems stand in the order they arose. -/
def absorb (s : Session) : Session :=
  { s with problems := s.problems ++ s.scopes.problems ++ s.table.problems,
           scopes := { s.scopes with problems := #[] },
           table := { s.table with problems := #[] } }

def resolve (s : Session) (scope : Nat) (expr : Option String) (selfMatch : Bool) :
    ResultSet × Session :=
  let (r, S) := s.scopes.resolve s.forest scope expr selfMatch
  (S.result r, absorb { s with scopes := S })

def remove (s : Session) (e : NodeId) : Session :=
  let (t, f) := s.table.remove s.forest e
  absorb { s with table := t, forest := f }

def allProblems (s : Session) : List Problem :=
  s.absorb.problems.toList

def assignVariables (s : Session) (e : NodeId) (scope : Nat) (selfMatch : Bool) : Session :=
  (s.forest.attrs e).foldl (fun s (name, value) =>
    if name.startsWith variablePrefix then
      (s.resolve scope (some ((name.drop dataPrefix.length).toString ++ "=" ++ value)) selfMatch).2
    else s) s

/-- Every `data-to-attr` attribute sets `attr` to the first value its selector finds, as text,
when there is one that lets it be set. A value that cannot be written as text stops the binding
with the refusal. -/
def bindAttributes (s : Session) (e : NodeId) (scope : Nat) (selfMatch : Bool) :
    Session × Option String :=
  (s.forest.attrs e).foldl (fun (acc : Session × Option String) (name, value) =>
    match acc with
    | (s, some m) => (s, some m)
    | (s, none) =>
      if !name.startsWith targetPrefix || name.length == targetPrefix.length then (s, none)
      else
        let (r, s) := s.resolve scope (some value) selfMatch
        match r.first? with
        | some v =>
          if settable v then
            match v.tryDisplay s.forest with
            | .ok t => ({ s with forest := s.forest.setAttr e (name.drop targetPrefix.length).toString t }, none)
            | .error m => (s, some m)
          else (s, none)
        | none => (s, none)) (s, none)

/-- A task that fails: the failure is recorded at the path of the task's node, and the task does
nothing more. -/
def taskFailed (s : Session) (node : NodeId) (message : String) : Session :=
  let s := s.absorb
  let p := s.forest.nodePath node
  { s with problems := s.problems.push ⟨.task, taskFailedMessage message, if p.isEmpty then none else some p⟩ }

def enqueue (s : Session) (t : Task) : Session :=
  let s := { s with queue := s.queue.push t }
  if s.idle > 0 then { s with idle := s.idle - 1, ready := s.ready.push .take } else s

/-- An element gets its `data-apply` copies and loses its directives; other nodes stay. A failure
of the engine in the selection is passed on. -/
def prepare (s : Session) (parent : NodeId) : Except SelectError Session :=
  if s.forest.isElement parent then
    match applyTemplates s.forest parent s.pristine with
    | .ok (_, f, ps) =>
      .ok { s with forest := stripDirectives f parent, problems := s.problems ++ ps.toArray }
    | .error e => .error e
  else .ok s

def wrapScope (s : Session) (scope : Nat) : Session :=
  match s.scopes.value scope with
  | .node n =>
    let (_, t, f) := s.table.wrapTexts s.forest n
    absorb { s with table := t, forest := f }
  | _ => s

def enqueueChildren (s : Session) (parent : NodeId) (scope : Nat) : Session :=
  (s.forest.children parent).foldl (fun s c => s.enqueue ⟨c, scope⟩) s

def unwrapElement (s : Session) (e : NodeId) : Session := { s with forest := s.forest.unwrap e }

/-- Queue the children of a prepared parent in its scope: with the `texts` option the texts of
markup data in the scope are wrapped first; with `invisible` the element is replaced by its
children once they are queued. -/
def queueChildren (s : Session) (parent : NodeId) (scope : Nat) (options : List String) :
    Session :=
  let s := if options.contains "texts" then s.wrapScope scope else s
  let s := s.enqueueChildren parent scope
  if options.contains "invisible" && s.forest.isElement parent then s.unwrapElement parent else s

/-- Queue the children of a parent in its scope, unless the parent is a template; an element
parent is prepared first, and a failure of the engine there is passed on. -/
def scheduleOne (s : Session) (parent : NodeId) (scope : Nat) : Except SelectError Session :=
  if s.table.isTemplate parent then .ok s
  else (s.prepare parent).map fun t => t.queueChildren parent scope (optionWords s.forest parent)

/-- Queue the children of each parent in its scope, in order; when the engine fails on a parent,
the task of `e` fails there and the parents after it are left. -/
def scheduleSteps (s : Session) (e : NodeId) : List (NodeId × Nat) → Session
  | [] => s
  | (parent, scope) :: rest =>
    match s.scheduleOne parent scope with
    | .ok t => t.scheduleSteps e rest
    | .error err => s.taskFailed e err.message

/-- The end of the task of `e`: `e` is taken out first when it is a template, then the children of
each parent are queued in its scope. -/
def schedule (s : Session) (e : NodeId) (steps : List (NodeId × Nat)) : Session :=
  (if s.table.isTemplate e then s.remove e else s).scheduleSteps e steps

def cloneElement (s : Session) (e : NodeId) : Option NodeId × Session :=
  let (c, t, f) := s.table.clone s.forest e
  (c, absorb { s with table := t, forest := f })

def cloneAfter (s : Session) (e ref : NodeId) : Option NodeId × Session :=
  let (c, t, f) := s.table.cloneAfter s.forest e ref
  (c, absorb { s with table := t, forest := f })

def renderClone (s : Session) (copy : NodeId) (m : Location) (options : List String) :
    RenderStep × Session :=
  let request : RenderRequest := ⟨copy, m.value, m.textKey?, options, s.config.debug⟩
  let (step, f, ps) := runChain s.forest (s.config.renderers ++ builtinRenderers) request
  (step, { s with forest := f, problems := s.problems ++ ps.toArray })

/-- The next steps for one rendered clone: none when its chain stopped (its directives are
stripped) or when its value is an empty list (it is taken out); otherwise the clone, and one
more clone after the last for every further item of a list value, each with a child scope for
its item (or the current scope with the `pass` option). -/
def continueClone (e : NodeId) (scope : Nat) (options : List String) (s : Session)
    (copy : NodeId) (m : Location) (step : RenderStep) : List (NodeId × Nat) × Session :=
  if step.outcome = .stop then ([], { s with forest := stripDirectives s.forest copy })
  else
    let (value, same) := match step.value with
      | some v => (v, step.sameAsInput)
      | none => (m.value, true)
    let (items, isList) := match value with
      | .list xs => (xs, true)
      | v => ([v], false)
    if items.isEmpty then ([], s.remove copy)
    else
      let rec go : List Value → Nat → NodeId → Session → List (NodeId × Nat) → List (NodeId × Nat) × Session
        | [], _, _, s, acc => (acc.reverse, s)
        | item :: rest, index, target, s, acc =>
          let placed : Option NodeId × Session :=
            if index = 0 then (some target, s) else s.cloneAfter e target
          match placed with
          | (none, s) => (acc.reverse, s)
          | (some target, s) =>
            if options.contains "pass" then go rest (index + 1) target s ((target, scope) :: acc)
            else
              let context := if !isList && same then m else m.withValue item
              let (child, S) := s.scopes.child scope context
              go rest (index + 1) target { s with scopes := S } ((target, child) :: acc)
      go items 0 copy s []

def cloneAll (s : Session) (e : NodeId) (r : ResultSet) : List (NodeId × Location) × Session :=
  r.found.foldl (fun (acc : List (NodeId × Location) × Session) m =>
    match acc.2.cloneElement e with
    | (some c, s) => (acc.1 ++ [(c, m)], s)
    | (none, s) => (acc.1, s)) ([], s)

/-- An expansion whose chains have all run: the next steps of every clone, in order, have their
children queued. -/
def finishExpansion (s : Session) (x : Expansion) : Session :=
  let (steps, s) := (x.clones.zip x.steps.toList).foldl
    (fun (acc : List (NodeId × Nat) × Session) ((c, m), step) =>
      let (more, s) := continueClone x.element x.scope x.options acc.2 c m step
      (acc.1 ++ more, s)) ([], s)
  s.schedule x.element steps

/-- `data-is` with a nonempty result: the element is cloned once per match; unless no clone
could be made, the worker waits while the clones' chains become ready, in order. -/
def expand (s : Session) (e : NodeId) (scope : Nat) (r : ResultSet) (options : List String) :
    Session :=
  let (clones, s) := s.cloneAll e r
  if clones.isEmpty then s.schedule e []
  else
    let n := s.expansions.size
    let x : Expansion := ⟨e, scope, options, clones, Array.replicate clones.length ⟨.proceed, none, false⟩, 0⟩
    { s with expansions := s.expansions.push x, running := false,
             ready := s.ready ++ ((List.range clones.length).map (Wakeup.render n)).toArray }

/-- A condition directive `name` of an element: whether its result, when it has one, takes the
element out (`drops`). -/
def condition (s : Session) (e : NodeId) (name : String) (scope : Nat) (selfMatch : Bool)
    (drops : ResultSet → Bool) : Bool × Session :=
  match s.forest.attr? e name with
  | some expr =>
    let (r, s) := s.resolve scope (some expr) selfMatch
    (drops r, s)
  | none => (false, s)

def applyConditions (s : Session) (e : NodeId) (scope : Nat) (options : List String)
    (selfMatch : Bool) : Session :=
  match s.condition e notName scope selfMatch (·.size > 0) with
  | (true, s) => s.remove e
  | (false, s) =>
    match s.condition e ifName scope selfMatch (·.size = 0) with
    | (true, s) => s.remove e
    | (false, s) =>
      match s.forest.attr? e isName with
      | some expr =>
        let (r, s) := s.resolve scope (some expr) selfMatch
        if r.size = 0 then s.remove e
        else s.expand e scope r options
      | none => s.schedule e [(e, scope)]

def compressNode (s : Session) (n : NodeId) : Option NodeId × Session :=
  if s.config.debug then (some n, s)
  else
    let (n, f) := compress s.forest n
    (n, { s with forest := f })

/-- One task: the node is compressed (unless debugging); a node that is not an element just has
its children queued; a template is skipped; an element has its directives applied, unless
binding its attributes fails the task. -/
def process (s : Session) (task : Task) : Session :=
  let (node, s) := s.compressNode task.node
  match node with
  | none => s
  | some e =>
    if !s.forest.isElement e then s.schedule e [(e, task.scope)]
    else if s.table.isTemplate e then s
    else
      let options := optionWords s.forest e
      let selfMatch := options.contains "self"
      let s := s.assignVariables e task.scope selfMatch
      match s.bindAttributes e task.scope selfMatch with
      | (s, some m) => s.taskFailed task.node m
      | (s, none) => s.applyConditions e task.scope options selfMatch

def takeTask (s : Session) : Session :=
  match s.queue[s.next]? with
  | some task => { s with next := s.next + 1 }.process task
  | none => { s with running := false, idle := s.idle + 1 }

/-- A piece of ready work. A chain's outcome is kept with its expansion and its report becomes
ready; the last report makes the worker ready to go on; that worker finishes the expansion and
runs again. -/
def wake (s : Session) : Wakeup → Session
  | .take => { s with running := true }
  | .render n i =>
    match s.expansions[n]? with
    | some x =>
      let (c, m) := x.clones.getD i (x.element, Location.ofValue .null)
      let (step, s) := s.renderClone c m x.options
      { s with expansions := s.expansions.modify n (fun x => { x with steps := x.steps.setIfInBounds i step }),
               ready := s.ready.push (.report n) }
    | none => s
  | .report n =>
    match s.expansions[n]? with
    | some x =>
      let s := { s with expansions := s.expansions.modify n fun x => { x with reported := x.reported + 1 } }
      if x.reported + 1 = x.clones.length then { s with ready := s.ready.push (.resume n) } else s
    | none => s
  | .resume n =>
    match s.expansions[n]? with
    | some x => { s.finishExpansion x with running := true }
    | none => s

/-- The next piece of work: the running worker's next task; else a worker not started yet (all of
them at once when the queue is empty, since each would only start waiting); else the work that
became ready first. `none` when nothing is left. -/
def step (s : Session) : Option Session :=
  if s.running then some s.takeTask
  else if s.unstarted > 0 then
    if s.next < s.queue.size then some { s with unstarted := s.unstarted - 1, running := true }
    else some { s with idle := s.idle + s.unstarted, unstarted := 0 }
  else
    match s.ready[s.nextReady]? with
    | some w => some ({ s with nextReady := s.nextReady + 1 }.wake w)
    | none => none

/-- The work of a rendering until nothing is left, at most `fuel` pieces of it. -/
def drain : Nat → Session → Session
  | 0, s => s
  | fuel + 1, s =>
    match s.step with
    | none => s
    | some s => drain fuel s

/-- The ready work with the piece at place `j` moved to the front of the work not yet done, so
that it is the next to run; work already done keeps its place. -/
def prefer (s : Session) (j : Nat) : Session :=
  { s with ready := s.ready.swapIfInBounds s.nextReady j }

/-- One piece of work in some interleaving: the running worker goes on, a worker starts, or any
piece of ready work runs, whichever became ready first. -/
def Next (s t : Session) : Prop := ∃ j, s.nextReady ≤ j ∧ (s.prefer j).step = some t

/-- The states that some interleaving of the work reaches. -/
inductive Reaches : Session → Session → Prop
  | refl (s : Session) : Reaches s s
  | tail {s t u : Session} : Reaches s t → Next t u → Reaches s u

end Session

def workLimit : Nat := 10000000

/-- The start of a rendering of a template node with data: an untouched copy of the template
document is kept, the root scope holds the data, and `:root` is the configured root value, or the
data itself; the one task is the target in the root scope, and no worker has started. -/
def Session.start (f : Forest) (target : NodeId) (data : Value) (config : RenderConfig) : Session :=
  let (pristine, f) := f.copyTree (f.top target)
  let root := (Location.ofValue (config.root.getD data)).asRoot
  let context := match config.root with
    | none => root
    | some r => if Value.same r data then root else Location.ofValue data
  ⟨f, NodeTable.empty, Scopes.start context root, config, pristine, #[],
    #[⟨target, 0⟩], 0, config.concurrency, 0, false, #[], 0, #[]⟩

/-- A template node rendered in place with data. -/
def renderTemplate (f : Forest) (target : NodeId) (data : Value) (config : RenderConfig) : Session :=
  (Session.start f target data config).drain workLimit

/-- Where a run of the directive processor is: at the start of its task, or waiting for the
renderer chains of the clones of the expansion with a number. -/
inductive ProcessorRun where
  | fresh (task : Task)
  | waiting (expansion : Nat)

namespace Session

def renderChains (s : Session) (n : Nat) : Session :=
  (List.range ((s.expansions[n]?.map (·.clones.length)).getD 0)).foldl
    (fun s i => s.wake (.render n i)) s

/-- A slice of a run of the processor: the tasks it queues in the session are its puts. A fresh
run processes its task, and suspends when the task expanded; resumed, it runs the renderer chains
of the clones in order and finishes the expansion. -/
def processorSlice : ProcessorRun → Session → Slice Task ProcessorRun × Session
  | .fresh task, s =>
    let t := { s with running := true }.process task
    (⟨t.queue.toList.drop s.queue.size,
      if t.running then .done else .await (.waiting s.expansions.size)⟩, t)
  | .waiting n, s =>
    let t := (s.renderChains n).wake (.resume n)
    (⟨t.queue.toList.drop s.queue.size, .done⟩, t)

end Session

/-- The directive processor as a handler of the task queue, over the session as the state its
runs share. A failed task is recorded by the session itself, at the path of its node, so a run
of the processor returns rather than raises. -/
def processor : TaskHandler Task Session ProcessorRun := ⟨.fresh, Session.processorSlice⟩

end Stencil.Template

/-!
# The task queue

`concurrency` workers take tasks from a first-in first-out queue and run a handler on each. The
handler is any coroutine: a run of it goes in slices between suspension points, and each slice
reads and changes a state the runs share, puts tasks on the queue, and ends by suspending,
returning or raising. The queue counts the tasks not finished (`unfinished`): putting a task adds
one, the end of the run of a task takes one off, and `join` returns once there are none. A run
that raises records one task problem, and its worker goes on with the next task; every run that
ends is counted in `processed`. Once `join` returns, the workers are cancelled and nothing moves.

Each task is known by its ticket, its place in the order of the puts; the tickets of the runs that
ended are kept, with the message of each raise, in the order the runs ended.

* `TaskHandler` : a handler, with its shared state and the local states of its runs.
* `TaskQueue` : the queue, its workers and its counters.
* `TaskQueue.step` : a worker takes a task, a worker runs a slice, or `join` returns.
-/

namespace Stencil.Template

/-- How a slice of a run ends. -/
inductive SliceEnd (κ : Type) where
  /-- The run suspends, to go on from a local state. -/
  | await (next : κ)
  /-- The run returns. -/
  | done
  /-- The run raises an exception with a message. -/
  | raise (message : String)
  deriving Repr, DecidableEq

/-- What a slice of a run does besides changing the shared state: the tasks it puts on the
queue, in order, and how it ends. -/
structure Slice (α κ : Type) where
  puts : List α
  ending : SliceEnd κ
  deriving Repr

/-- A task handler over tasks `α`, with the state `σ` its runs share and the local states `κ` of a
run: a run starts from the local state its task gives, and each slice goes from a local state and
the shared state. -/
structure TaskHandler (α σ κ : Type) where
  start : α → κ
  slice : κ → σ → Slice α κ × σ

/-- A worker waits for a task, or runs the handler on the task with a ticket. -/
inductive Worker (κ : Type) where
  | idle
  | busy (ticket : Nat) (state : κ)
  deriving Repr, DecidableEq

/-- The queue: the shared state, every task put so far in order, how many were handed out, the
count of tasks not finished, the workers, the count of runs ended, the task problems with the
tickets of their tasks, the tickets of the runs that ended with the message of each raise, and
whether `join` returned. -/
structure TaskQueue (α σ κ : Type) where
  shared : σ
  tasks : List α
  next : Nat
  unfinished : Nat
  workers : List (Worker κ)
  processed : Nat
  problems : List (Nat × String)
  ended : List (Nat × Option String)
  joined : Bool
  deriving Repr

/-- One step of the queue: worker `i` takes a task or runs a slice, or `join` returns. -/
inductive QueueAction where
  | take (worker : Nat)
  | run (worker : Nat)
  | join
  deriving Repr, DecidableEq

def taskFailedMessage (message : String) : String := "Task failed: " ++ message

namespace TaskQueue

variable {α σ κ : Type}

def start (shared : σ) (concurrency : Nat) (tasks : List α) : TaskQueue α σ κ :=
  ⟨shared, tasks, 0, tasks.length, List.replicate concurrency .idle, 0, [], [], false⟩

def take (H : TaskHandler α σ κ) (q : TaskQueue α σ κ) (i : Nat) : Option (TaskQueue α σ κ) :=
  match q.workers[i]?, q.tasks[q.next]? with
  | some .idle, some task =>
    some { q with next := q.next + 1, workers := q.workers.set i (.busy q.next (H.start task)) }
  | _, _ => none

/-- The run of worker `i` on the task with `ticket` ends, raising or not: the worker waits again,
the run is counted, and the task is done. -/
def finish (q : TaskQueue α σ κ) (i ticket : Nat) (raised : Option String) : TaskQueue α σ κ :=
  { q with
    workers := q.workers.set i .idle
    processed := q.processed + 1
    unfinished := q.unfinished - 1
    problems := match raised with
      | some m => q.problems ++ [(ticket, taskFailedMessage m)]
      | none => q.problems
    ended := q.ended ++ [(ticket, raised)] }

/-- A busy worker runs the next slice of its run: the tasks put are queued and counted, and the run
suspends or ends. -/
def run (H : TaskHandler α σ κ) (q : TaskQueue α σ κ) (i : Nat) : Option (TaskQueue α σ κ) :=
  match q.workers[i]? with
  | some (.busy ticket k) =>
    let (sl, shared) := H.slice k q.shared
    let q := { q with
      shared := shared
      tasks := q.tasks ++ sl.puts
      unfinished := q.unfinished + sl.puts.length }
    some <| match sl.ending with
      | .await k' => { q with workers := q.workers.set i (.busy ticket k') }
      | .done => q.finish i ticket none
      | .raise m => q.finish i ticket (some m)
  | _ => none

/-- `join` returns once no task is unfinished. -/
def join (q : TaskQueue α σ κ) : Option (TaskQueue α σ κ) :=
  if q.unfinished = 0 then some { q with joined := true } else none

/-- One step, until `join` has returned. -/
def step (H : TaskHandler α σ κ) (q : TaskQueue α σ κ) : QueueAction → Option (TaskQueue α σ κ)
  | .take i => if q.joined then none else q.take H i
  | .run i => if q.joined then none else q.run H i
  | .join => if q.joined then none else q.join

def Next (H : TaskHandler α σ κ) (q r : TaskQueue α σ κ) : Prop := ∃ a, q.step H a = some r

/-- The states that some interleaving reaches. -/
inductive Reaches (H : TaskHandler α σ κ) : TaskQueue α σ κ → TaskQueue α σ κ → Prop
  | refl (q : TaskQueue α σ κ) : Reaches H q q
  | tail {q r u : TaskQueue α σ κ} : Reaches H q r → Next H r u → Reaches H q u

def runSchedule (H : TaskHandler α σ κ) (q : TaskQueue α σ κ) : List QueueAction → TaskQueue α σ κ
  | [] => q
  | a :: rest =>
    match q.step H a with
    | some r => runSchedule H r rest
    | none => q

end TaskQueue

end Stencil.Template

import Asm16.Run.Scheduler

/-!
# Sessions

A session is a scheduler shared by a script and by tasks, on one cooperative loop.  A task runs a
program; the script is the host's own sequence of commands, and runs programs as well.  One of them
has the turn at a time and keeps it until it suspends itself.

The loop is a queue of turns, first come, first served.

* A task enters at the end of the queue when it is created, and again whenever its run suspends.
* The script enters at the end when its own run suspends, when it passes its turn, and when the task
  it waits for has ended.
* A request to cancel a task is honoured when its turn comes: a task that has not begun never
  begins, and a run that has begun is left where it stands.

`Session.round` gives every turn in the queue once, up to the script's.  Turns added meanwhile come
after those, so a round needs no bound.  Waiting for a task repeats rounds; a task ends within as
many rounds as its program has lines unless the batch size is set to zero or less, and a generous
bound on the rounds covers that case (`Session.patience`).

A script may also live without a loop.  Then it opens one for each of its runs (`Session.runAlone`),
and outside of these there are no tasks.
-/

namespace Asm16

/-- Where a task stands. -/
inductive Stage
  /-- It has not had its first turn. -/
  | fresh
  /-- Its run waits for the next turn. -/
  | suspended (program : Program)
  /-- It has ended: with the account of its run, with nothing if the run was rejected, or with an
  error. -/
  | ended (outcome : Except Error (Option RunResult))

structure Task where
  source : Text
  stage : Stage := .fresh
  /-- It was asked to end at its next turn. -/
  cancelled : Bool := false

inductive Turn
  | script
  | task (number : Nat)
  deriving DecidableEq, Repr

/-- A scheduler, the tasks by number, the queue, and the task that the script waits for. -/
structure Session where
  scheduler : Scheduler
  tasks : List Task := []
  queue : List Turn := []
  awaited : Option Nat := none

inductive Session.Command
  | control (request : Control)
  /-- Run a program and wait for its end. -/
  | run (source : Text)
  /-- Run a program on a loop of its own, which is closed afterwards. -/
  | runAlone (source : Text)
  | start (source : Text)
  | pass (times : Nat)
  | join (task : Nat)
  /-- Ask a task to end, and wait for it. -/
  | cancel (task : Nat)

inductive Session.Reply
  | control (reply : Control.Reply)
  | run (result : Option RunResult)
  | task (number : Nat)
  | done

namespace Session

/-! ## Tasks and the queue -/

/-- Create a task and put its first turn at the end of the queue. -/
def create (s : Session) (source : Text) : Session :=
  { s with tasks := s.tasks ++ [{ source }], queue := s.queue ++ [.task s.tasks.length] }

/-- Create the tasks that hooks have asked for. -/
def adopt (s : Session) : Session :=
  s.scheduler.launched.foldl create { s with scheduler := { s.scheduler with launched := [] } }

def onScheduler {α : Type} (step : Step Scheduler α) : Step Session α :=
  Step.within scheduler (fun s scheduler => ({ s with scheduler } : Session).adopt) step

def enqueue (s : Session) (t : Turn) : Session := { s with queue := s.queue ++ [t] }

def update (s : Session) (number : Nat) (f : Task → Task) : Session :=
  { s with tasks := s.tasks.modify number f }

/-- End a task; the script is woken if it waits for it. -/
def finish (s : Session) (number : Nat) (outcome : Except Error (Option RunResult)) : Session :=
  let s := s.update number fun t => { t with stage := .ended outcome }
  if s.awaited = some number then { s.enqueue .script with awaited := none } else s

/-- Note how a turn of a task ended. -/
def settle (s : Session) (number : Nat) : Option Advance → Session
  | none => s.finish number (.ok none)
  | some (.finished result) => s.finish number (.ok (some result))
  | some (.suspended program) =>
    (s.update number fun t => { t with stage := .suspended program }).enqueue (.task number)

/-- Carry out a turn of the scheduler for a task. -/
def giveTurn (s : Session) (number : Nat) (step : Step Scheduler (Option Advance)) : Session :=
  match onScheduler step s with
  | .ok advance s' => s'.settle number advance
  | .error e s' => s'.finish number (.error e)

def advance (s : Session) (number : Nat) : Session :=
  match s.tasks[number]? with
  | none => s
  | some t =>
    match t.stage, t.cancelled with
    | .ended _, _ => s
    | .fresh, true => s.finish number (.error .cancelled)
    | .suspended _, true =>
      ({ s with scheduler := s.scheduler.release } : Session).finish number (.error .cancelled)
    | .fresh, false => s.giveTurn number (Scheduler.begin t.source)
    | .suspended program, false => s.giveTurn number (some <$> Scheduler.resume program)

/-! ## Rounds -/

/-- Give the turns in a list, up to the script's; the rest of the list stays in front of the queue.
The answer says whether the script's turn has come. -/
def giveTurns : List Turn → Session → Bool × Session
  | [], s => (false, s)
  | .script :: rest, s => (true, { s with queue := rest ++ s.queue })
  | .task number :: rest, s => giveTurns rest (s.advance number)

/-- Give every turn in the queue, up to the script's. -/
def round (s : Session) : Bool × Session := giveTurns s.queue { s with queue := [] }

/-- Repeat rounds until the script's turn comes. -/
def rounds : Nat → Session → Bool × Session
  | 0, s => (false, s)
  | bound + 1, s =>
    match s.round with
    | (true, s') => (true, s')
    | (false, s') => rounds bound s'

/-- Rounds granted beyond one for each line of a program. -/
def spareRounds : Nat := 1 <<< 40

/-- The number of rounds after which a program is given up. -/
def patience (source : Text) : Nat := (Text.lines source).length + spareRounds

/-- Wait until the script's turn comes. -/
def await (bound : Nat) : Step Session Unit := fun s =>
  match rounds bound s with
  | (true, s') => .ok () s'
  | (false, s') => .error .starved s'

/-- Pass the turn: the script goes to the end of the queue. -/
def pass : Step Session Unit := do
  modify (·.enqueue .script)
  await 1

/-! ## The script -/

/-- Go on with the script's own run, passing the turn at each suspension. -/
def continueRun : Nat → Program → Step Session RunResult
  | 0, _ => throw .starved
  | bound + 1, program => do
    pass
    match ← onScheduler (Scheduler.resume program) with
    | .finished result => return result
    | .suspended program => continueRun bound program

/-- Run a program to its end, in the script's turns. -/
def run (source : Text) : Step Session (Option RunResult) := do
  match ← onScheduler (Scheduler.begin source) with
  | none => return none
  | some (.finished result) => return some result
  | some (.suspended program) => return some (← continueRun (patience source) program)

def cancelAll (s : Session) : Session :=
  { s with tasks := s.tasks.map fun t => { t with cancelled := true } }

/-- Close the loop: turns already in the queue are given, then every task still there is cancelled.
-/
def close (s : Session) : Session := (s.round.2.cancelAll.round).2

/-- Open or close the loop for tasks. -/
def setLoop (loop : Bool) (s : Session) : Session :=
  { s with scheduler := { s.scheduler with loop } }

/-- Run a program on a loop of its own. -/
def runAlone (source : Text) : Step Session (Option RunResult) := fun s =>
  match run source (setLoop true s) with
  | .ok result s' => .ok result (setLoop false s'.close)
  | .error e s' => .error e (setLoop false s'.close)

def join (number : Nat) : Step Session (Option RunResult) := do
  match (← get).tasks[number]? with
  | none => throw .starved
  | some t =>
    match t.stage with
    | .ended outcome => Step.ofExcept outcome
    | _ => do
      modify fun s => { s with awaited := some number }
      await (patience t.source)
      match ((← get).tasks[number]?).map Task.stage with
      | some (.ended outcome) => Step.ofExcept outcome
      | _ => throw .starved

/-- Ask a task to end, and wait for it; a task that has ended is not changed. -/
def cancel (number : Nat) : Step Session (Option RunResult) := do
  modify (·.update number fun t => { t with cancelled := true })
  join number

def passTimes : Nat → Step Session Unit
  | 0 => pure ()
  | n + 1 => do
    pass
    passTimes n

def perform : Command → Step Session Reply
  | .control request => do return .control (← onScheduler (Scheduler.control request))
  | .run source => do return .run (← run source)
  | .runAlone source => do return .run (← runAlone source)
  | .start source => do
    let number := (← get).tasks.length
    modify (·.create source)
    return .task number
  | .pass times => do passTimes times; return .done
  | .join task => do return .run (← join task)
  | .cancel task => do return .run (← cancel task)

end Session
end Asm16

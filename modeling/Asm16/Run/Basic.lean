import Asm16.Program.Operation
import Asm16.Program.Basic

/-!
# Runs

The vocabulary of running a whole program.

* `RunState` — what the scheduler is doing.  It is busy in `running` and `stopping`, and
  `RunState.next` lists the run states that may come after each.
* `Standing` — the run state and the counters, which everybody may look at.
* `RunStatus`, `Failure`, `RunResult` — how a run ended.  `executed` counts instructions,
  `processed` counts lines.
* `HookKind`, `Hook`, `Hooks` — what a host may attach to a run: a hook for snapshots, one for
  progress and one for a failed line.  A hook is told of an event and answers with actions, which
  may depend on the event and on how many calls of its kind came before.
* `Control` — the requests that a host and its hooks can make of a scheduler.
* `Event` — the record of what hooks and watchers were told.
-/

namespace Asm16

inductive RunState
  /-- No run, and none that ended by itself since the last reset. -/
  | idle
  /-- A run is in progress. -/
  | running
  /-- A run is in progress and was asked to stop. -/
  | stopping
  | haltedOk
  | haltedError
  deriving DecidableEq, Repr

/-- A run is in progress. -/
def RunState.isBusy : RunState → Bool
  | .running | .stopping => true
  | _ => false

/-- The run states that may come next.  A request to stop is never taken back, and a run that was
asked to stop does not come to its end any more. -/
def RunState.next : RunState → List RunState
  | .idle => [.running]
  | .running => [.stopping, .haltedOk, .haltedError, .idle]
  | .stopping => [.haltedError, .idle]
  | .haltedOk | .haltedError => [.running, .idle]

/-- Where a scheduler stands: its run state, the instructions executed, the lines processed and the
lines of the program. -/
structure Standing where
  runState : RunState := .idle
  executed : Nat := 0
  processed : Int := 0
  total : Nat := 0
  deriving DecidableEq, Repr

inductive RunStatus
  | completed
  | cancelled
  | failed
  deriving DecidableEq, Repr

/-- The line that ended a run, counted from one, and what was wrong with it. -/
structure Failure where
  line : Int
  fault : Fault
  deriving DecidableEq, Repr

/-- The account of a finished run. -/
structure RunResult where
  status : RunStatus
  executed : Nat
  processed : Int
  total : Nat
  failure : Option Failure := none
  labels : LabelTable
  deriving DecidableEq, Repr

/-- What hooks and watchers are told, in the order in which they are told. -/
inductive Event
  /-- The machine after an instruction, at the start of a run, after a reset or at a failure, with
  the memory and the standing that the hook could see at that moment. -/
  | state (snapshot : Snapshot) (cells : Cells) (standing : Standing)
  /-- So many lines of so many are done. -/
  | progress (processed : Int) (total : Nat)
  | failure (line : Int) (message : Text)
  /-- A hook tried a reset that was refused. -/
  | refusedReset
  /-- A watcher of memory was told of a change. -/
  | notice (n : Notice)

/-- What a host can ask of a scheduler at any time. -/
inductive Control
  | stop
  | reset
  | isBusy
  | setRegister (name : Text) (value : Int)
  | setBatchSize (size : Int)
  /-- Carry out a source line outside any run. -/
  | line (source : Text)
  /-- Read memory through the last snapshot that was published. -/
  | peek (indexes : List Int)
  | memory (request : Memory.Request)

inductive Control.Reply
  | done
  | truth (b : Bool)
  | instruction (i : Option Instruction)
  | memory (reply : Memory.Reply)
  deriving DecidableEq, Repr

/-- What a hook may do when it is called. -/
inductive HookAction
  | control (request : Control)
  /-- Give up; the error goes through the run. -/
  | refuse (error : Error)
  | detach
  /-- Reset, and take note if that is refused. -/
  | tryReset
  /-- Ask for a task that runs another program. -/
  | launch (source : Text)

/-- The actions at each call, by the number of calls of the same kind before it and by the event. -/
abbrev Hook := Nat → Event → List HookAction

/-- What a hook is called for. -/
inductive HookKind
  | state
  | progress
  | failure
  deriving DecidableEq, Repr

/-- Something for each kind of hook. -/
structure PerHook (α : Type) where
  state : α
  progress : α
  failure : α

namespace PerHook

variable {α : Type}

def get (p : PerHook α) : HookKind → α
  | .state => p.state
  | .progress => p.progress
  | .failure => p.failure

def set (p : PerHook α) (kind : HookKind) (a : α) : PerHook α :=
  match kind with
  | .state => { p with state := a }
  | .progress => { p with progress := a }
  | .failure => { p with failure := a }

theorem get_set (p : PerHook α) (kind other : HookKind) (a : α) :
    (p.set kind a).get other = if other = kind then a else p.get other := by
  cases kind <;> cases other <;> rfl

end PerHook

/-- The hooks that are attached. -/
abbrev Hooks := PerHook (Option Hook)

def Hooks.none : Hooks := ⟨Option.none, Option.none, Option.none⟩

abbrev HookCalls := PerHook Nat

end Asm16

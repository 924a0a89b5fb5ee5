import Asm16.Run.Basic

/-!
# The scheduler

A scheduler runs one program at a time on its machine, in batches of lines.  After each instruction
it publishes a snapshot, after each batch it reports progress and suspends itself, so that whoever
shares the loop with it gets a turn.  A request to stop is honoured at those suspensions only.

* `Scheduler.publish` — hand a snapshot to the state hook.
* `Scheduler.control` — answer a request.
* `Scheduler.begin` — accept a program, or refuse it when a run is in progress, and go on to the
  first suspension.
* `Scheduler.resume` — go on from a suspension to the next one.
* `Scheduler.release` — leave a run that was cut short.

A hook may make requests of its own, and a reset publishes a snapshot in turn, so publishing nests;
a bound on the depth keeps it total.

The standing of the scheduler is shared by all who hold it: counters are not put back when a run is
cut short, and the result of a run is read off them when it ends.  Every change of the run state
goes through `Scheduler.enter`, which keeps the trail of them.
-/

namespace Asm16

/-- A machine, the standing of the run on it, and the host's hooks. -/
structure Scheduler extends Standing where
  machine : Machine
  batchSize : Int
  lastResult : Option RunResult := none
  hooks : Hooks := .none
  calls : HookCalls := ⟨0, 0, 0⟩
  /-- Programs that hooks want run as tasks, until the loop takes them over. -/
  launched : List Text := []
  /-- A loop is there that can take tasks. -/
  loop : Bool := true
  /-- What hooks and watchers were told, the latest first. -/
  told : List Event := []
  /-- What was logged, the latest first. -/
  logged : Log := []
  /-- The standing after each change of the run state, oldest first. -/
  trail : List Standing := [{}]

/-- How a turn of a run ended. -/
inductive Advance
  /-- The run waits for its next turn. -/
  | suspended (program : Program)
  | finished (result : RunResult)

namespace Scheduler

def defaultBatchSize : Nat := 100

/-- How deeply resets and hooks may set each other off. -/
def nestingLimit : Nat := 1000

/-- A scheduler for a machine; a batch has at least one line. -/
def make (machine : Machine) (batchSize : Int) (hooks : Hooks) : Except Error Scheduler :=
  if batchSize < 1 then .error (.badBatchSize batchSize) else .ok { machine, batchSize, hooks }

/-- A run is in progress. -/
def isBusy (s : Scheduler) : Bool := s.runState.isBusy

/-! ## Records -/

/-- What hooks and watchers were told, in order. -/
def events (s : Scheduler) : List Event := s.told.reverse

def log (s : Scheduler) : Log := s.logged.reverse

def record (s : Scheduler) (e : Event) : Scheduler := { s with told := e :: s.told }

def write (s : Scheduler) (entries : Log) : Scheduler :=
  { s with logged := entries.reverse ++ s.logged }

/-- Take over a machine after a step, and move what its watchers were told to the events. -/
def absorb (s : Scheduler) (m : Machine) : Scheduler :=
  { s with
    machine := { m with memory := { m.memory with journal := [] } }
    told := (m.memory.journal.map Event.notice).reverse ++ s.told }

@[simp] theorem events_record (s : Scheduler) (e : Event) :
    (s.record e).events = s.events ++ [e] := by
  simp [record, events]

@[simp] theorem log_write (s : Scheduler) (entries : Log) :
    (s.write entries).log = s.log ++ entries := by
  simp [write, log]

@[simp] theorem events_absorb (s : Scheduler) (m : Machine) :
    (s.absorb m).events = s.events ++ m.memory.journal.map .notice := by
  simp [absorb, events]

def onMachine {α : Type} (step : Step Machine α) : Step Scheduler α :=
  Step.within machine absorb step

def executeLine (line : Text) : Step Scheduler (Option Instruction) := do
  modify (·.write (lineAnnouncement line))
  onMachine (Machine.executeLine line)

/-! ## Run states -/

/-- Go over to a run state; the trail grows only if that is a change. -/
def enter (r : RunState) (s : Scheduler) : Scheduler :=
  if s.runState = r then s
  else { s with runState := r, trail := s.trail ++ [{ s.toStanding with runState := r }] }

@[simp] theorem runState_enter (r : RunState) (s : Scheduler) : (s.enter r).runState = r := by
  unfold enter
  split
  · assumption
  · rfl

/-! ## Requests -/

/-- Ask the run to stop; without a run, or with one that is stopping already, nothing happens. -/
def stop (s : Scheduler) : Scheduler :=
  if s.runState = .running then (s.write [⟨.info, text "Stop requested"⟩]).enter .stopping else s

/-- The scheduler after a reset; the last result and the hooks stay. -/
def cleared (s : Scheduler) : Scheduler :=
  enter .idle { s with machine := s.machine.reset, executed := 0, processed := 0, total := 0 }

/-- Reset machine and counters, and publish that; refused during a run. -/
def resetWith (publish : Step Scheduler Unit) : Step Scheduler Unit := do
  if (← get).isBusy then throw .busy
  else
    modify cleared
    publish

def controlWith (publish : Step Scheduler Unit) : Control → Step Scheduler Control.Reply
  | .stop => do modify stop; return .done
  | .reset => do resetWith publish; return .done
  | .isBusy => do return .truth (← get).isBusy
  | .setRegister name value => do onMachine (Machine.setRegister name value); return .done
  | .setBatchSize size => do modify fun s => { s with batchSize := size }; return .done
  | .line source => do return .instruction (← executeLine source)
  | .peek indexes => do
    if (← get).calls.state = 0 then return .done
    else
      let bytes ← Step.ofExcept ((← get).machine.memory.viewBytes indexes)
      return .memory (.bytes bytes)
  | .memory request => do return .memory (← onMachine (Machine.onMemory (Memory.answer request)))

/-! ## Hooks -/

def act (publish : Step Scheduler Unit) (kind : HookKind) : HookAction → Step Scheduler Unit
  | .control request => do let _ ← controlWith publish request
  | .refuse error => throw error
  | .detach => modify fun s => { s with hooks := s.hooks.set kind none }
  | .tryReset => fun s =>
    match resetWith publish s with
    | .error .busy s' => .ok () (s'.record .refusedReset)
    | outcome => outcome
  | .launch source => do
    if (← get).loop then modify fun s => { s with launched := s.launched ++ [source] }
    else throw .noLoop

/-- Call the hook of a kind, if it is attached: record the event, then carry out the actions. -/
def callHook (publish : Step Scheduler Unit) (kind : HookKind) (event : Event) :
    Step Scheduler Unit := do
  match (← get).hooks.get kind with
  | none => pure ()
  | some hook =>
    let count := (← get).calls.get kind
    modify fun s => { s.record event with calls := s.calls.set kind (count + 1) }
    (hook count event).forM (act publish kind)

/-- Publish a snapshot, with a bound on the depth. -/
def publishWithin : Nat → Step Scheduler Unit
  | 0 => do if (← get).hooks.state.isNone then pure () else throw .nestedTooDeeply
  | depth + 1 => do
    let s ← get
    callHook (publishWithin depth) .state
      (.state s.machine.snapshot s.machine.memory.cells s.toStanding)

def publish : Step Scheduler Unit := publishWithin nestingLimit

def control (request : Control) : Step Scheduler Control.Reply := controlWith publish request

/-! ## Ends of a run -/

/-- The account of a run, read off the counters. -/
def result (s : Scheduler) (program : Program) (status : RunStatus) (failure : Option Failure) :
    RunResult :=
  { status, failure, executed := s.executed, processed := s.processed, total := s.total,
    labels := program.labels }

/-- What a failed line leaves in the log. -/
def failureLog (s : Scheduler) (f : Failure) : Log :=
  [⟨.error, text "Line " ++ signedDecimal f.line ++ text ": " ++ f.fault.message⟩,
   ⟨.debug, text "Registers at failure:\n" ++ s.machine.dump⟩,
   ⟨.debug, text "Stack at failure:\n" ++ s.machine.memory.cells.dump (s.machine.valueAt .sp) 32⟩]

/-- End a run at a failed line: the hooks hear of it after the run is over, and the account is made
after the hooks. -/
def fail (program : Program) (f : Failure) : Step Scheduler RunResult := do
  modify fun s => (s.write (s.failureLog f)).enter .haltedError
  publish
  callHook publish .failure (.failure f.line f.fault.message)
  return (← get).result program .failed (some f)

/-- End a run that was asked to stop. -/
def finishCancelled (program : Program) : Step Scheduler RunResult := do
  modify fun s =>
    (s.write [⟨.info, text "Run cancelled after " ++ decimal s.executed ++ text " instructions"⟩])
      |>.enter .idle
  return (← get).result program .cancelled none

/-- End a run that has no lines left. -/
def finishCompleted (program : Program) : Step Scheduler RunResult := do
  modify fun s =>
    (s.write
        [⟨.info, text "Run completed: " ++ decimal s.executed ++ text " instructions executed"⟩,
         ⟨.debug, text "Final registers:\n" ++ s.machine.dump⟩])
      |>.enter .haltedOk
  return (← get).result program .completed none

/-! ## Batches -/

/-- Carry out the line at an index; the answer is the account of the run if that line ends it. -/
def runLine (program : Program) (i : Int) : Step Scheduler (Option RunResult) := do
  match program.line? i with
  | none => throw (.noSuchLine i)
  | some line =>
    match ← Step.attempt (executeLine line) with
    | .error fault => do
      modify fun s => { s with processed := i }
      return some (← fail program ⟨i + 1, fault⟩)
    | .ok none => return none
    | .ok (some _) => do
      modify fun s => { s with executed := s.executed + 1 }
      publish
      return none

/-- Carry out lines up to the first that ends the run. -/
def runLines (program : Program) : List Int → Step Scheduler (Option RunResult)
  | [] => return none
  | i :: rest => do
    match ← runLine program i with
    | some result => return some result
    | none => runLines program rest

def indexes (start stop : Int) : List Int :=
  (List.range (stop - start).toNat).map fun (k : Nat) => start + k

/-- Carry out a batch and report progress; the answer is the account of the run if it ended. -/
def runBatch (program : Program) : Step Scheduler (Option RunResult) := do
  let s ← get
  let stop := min (s.processed + s.batchSize) s.total
  match ← runLines program (indexes s.processed stop) with
  | some result => return some result
  | none => do
    modify fun s => { s with processed := stop }
    let s ← get
    callHook publish .progress (.progress s.processed s.total)
    return none

/-! ## Turns of a run -/

/-- Go on to the next suspension or to the end of the run. -/
def proceed (program : Program) : Step Scheduler Advance := do
  let s ← get
  if s.processed < s.total && s.runState == .running then
    match ← runBatch program with
    | some result => return .finished result
    | none => return .suspended program
  else if s.runState == .stopping then return .finished (← finishCancelled program)
  else return .finished (← finishCompleted program)

/-- Load a program and set the counters for it. -/
def load (source : Text) : Step Scheduler Program := do
  let lines := Text.lines source
  let program := Program.ofLines lines
  modify fun s =>
    { s.write (Program.loadLog lines ++
        [⟨.info, text "Run started: " ++ decimal program.size ++ text " lines, " ++
          decimal program.labels.length ++ text " labels"⟩])
      with executed := 0, processed := 0, total := program.size }
  return program

/-- The first turn of a run: the machine is reset and published before the program is read. -/
def firstTurn (source : Text) : Step Scheduler Advance := do
  modify fun s => { s with machine := s.machine.reset }
  publish
  proceed (← load source)

/-- Leave a run that was cut short, so that another one can begin. -/
def release (s : Scheduler) : Scheduler :=
  if s.isBusy then s.enter .idle else s

@[simp] theorem isBusy_release (s : Scheduler) : s.release.isBusy = false := by
  unfold release
  split
  · simp [isBusy, RunState.isBusy]
  · next h => simpa using h

/-- A turn of a run.  If it ends in an error the run is left, and the error comes out of it; if the
run is over its account is kept. -/
def turn (step : Step Scheduler Advance) : Step Scheduler Advance := fun s =>
  match step s with
  | .ok (.finished result) s' => .ok (.finished result) { s'.release with lastResult := some result }
  | .ok (.suspended program) s' => .ok (.suspended program) s'
  | .error e s' => .error e.outOfRun s'.release

/-- Begin to run a program; `none` when a run is in progress. -/
def begin (source : Text) : Step Scheduler (Option Advance) := do
  if (← get).isBusy then
    modify (·.write [⟨.warning, text "Run rejected: a program is already running"⟩])
    return none
  else
    modify (enter .running)
    return some (← turn (firstTurn source))

/-- Go on with a run from its suspension. -/
def resume (program : Program) : Step Scheduler Advance := turn (proceed program)

end Scheduler
end Asm16

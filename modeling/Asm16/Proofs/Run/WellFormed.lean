import Asm16.Proofs.Machine.WellFormed
import Asm16.Proofs.Run.Loop

/-!
# Machines of schedulers stay well formed

Whatever runs on a scheduler, and whatever hooks, tasks and scripts do with it, reaches the machine
through a handful of requests, and each of these leaves it sane.

* `Scheduler.keeps_publish`, `throughout_sane` — runs, with any hooks.
* `Session.keeps_perform` — scripts, with any tasks beside them.
* `Deed`, `Machine.after` — what a host can do with a machine, and the machine after a list of such
  deeds.
* `Machine.well_formed_after` — the result.
-/

namespace Asm16

open Step (Keeps)

variable {size : Nat}

/-! ## Schedulers -/

namespace Scheduler

abbrev Sane (size : Nat) (s : Scheduler) : Prop := s.machine.Sane size

lemma keeps_onMachine {α : Type} {step : Step Machine α} (h : Keeps (Machine.Sane size) step) :
    Keeps (Sane size) (onMachine step) :=
  h.within (fun _ hs => hs) fun _ _ _ ht => ⟨ht.added, ht.cells⟩

/-- A change of the scheduler that leaves its machine alone. -/
lemma keeps_modify {f : Scheduler → Scheduler} (h : ∀ s, (f s).machine = s.machine) :
    Keeps (Sane size) (modify f : Step Scheduler PUnit) :=
  .modify fun s hs => by rwa [Sane, h s]

lemma machine_enter (r : RunState) (s : Scheduler) : (s.enter r).machine = s.machine := by
  rw [enter]
  split <;> rfl

lemma machine_stop (s : Scheduler) : s.stop.machine = s.machine := by
  rw [stop]
  split
  · rw [machine_enter]
    rfl
  · rfl

lemma machine_release (s : Scheduler) : s.release.machine = s.machine := by
  rw [release]
  split
  · rw [machine_enter]
  · rfl

lemma machine_cleared (s : Scheduler) : s.cleared.machine = s.machine.reset := by
  rw [cleared, machine_enter]

lemma keeps_executeLine (line : Text) : Keeps (Sane size) (executeLine line) :=
  (keeps_modify fun _ => by rfl).bind fun _ => keeps_onMachine (Machine.keeps_executeLine line)

/-! ## Hooks -/

section Hooks

variable {publish : Step Scheduler Unit} (hpublish : Keeps (Sane size) publish)
include hpublish

lemma keeps_resetWith : Keeps (Sane size) (resetWith publish) := by
  refine Keeps.get.bind fun s => ?_
  split
  · exact .throw _
  · refine (Keeps.modify fun s hs => ?_).bind fun _ => hpublish
    rw [Sane, machine_cleared]
    exact Machine.Sane.reset hs

/-- **Whatever is asked of a scheduler.** -/
lemma keeps_controlWith (request : Control) : Keeps (Sane size) (controlWith publish request) := by
  cases request with
  | stop => exact (keeps_modify machine_stop).bind fun _ => .pure _
  | reset => exact (keeps_resetWith hpublish).bind fun _ => .pure _
  | isBusy => exact Keeps.get.bind fun _ => .pure _
  | setRegister name value =>
      exact (keeps_onMachine (Machine.keeps_setRegister name value)).bind fun _ => .pure _
  | setBatchSize n => exact (keeps_modify fun _ => by rfl).bind fun _ => .pure _
  | line source => exact (keeps_executeLine source).bind fun _ => .pure _
  | peek indexes =>
      refine Keeps.get.bind fun s => ?_
      split
      · exact .pure _
      · exact Keeps.get.bind fun _ => (Keeps.ofExcept _).bind fun _ => .pure _
  | memory request =>
      exact (keeps_onMachine (Machine.keeps_onMemory (Memory.keeps_answer request))).bind fun _ =>
        .pure _

/-- Whatever a hook does. -/
lemma keeps_act (kind : HookKind) (action : HookAction) :
    Keeps (Sane size) (act publish kind action) := by
  cases action with
  | control request => exact (keeps_controlWith hpublish request).bind fun _ => .pure _
  | refuse e => exact .throw e
  | detach => exact keeps_modify fun _ => by rfl
  | tryReset =>
      intro s hs
      have hreset := keeps_resetWith hpublish s hs
      rw [Step.final] at hreset ⊢
      simp only [act]
      cases hr : resetWith publish s with
      | ok u t => rw [hr] at hreset; exact hreset
      | error e t =>
          rw [hr] at hreset
          cases e <;> exact hreset
  | launch source =>
      refine Keeps.get.bind fun s => ?_
      split
      · exact keeps_modify fun _ => by rfl
      · exact .throw _

lemma keeps_callHook (kind : HookKind) (event : Event) :
    Keeps (Sane size) (callHook publish kind event) := by
  refine Keeps.get.bind fun s => ?_
  cases s.hooks.get kind with
  | none => exact .pure _
  | some hook =>
      refine Keeps.get.bind fun s' => (keeps_modify fun _ => by rfl).bind fun _ => ?_
      exact Keeps.forM (keeps_act hpublish kind) _

end Hooks

/-- Snapshots are published, by induction on the depth. -/
lemma keeps_publishWithin : ∀ depth, Keeps (Sane size) (publishWithin depth)
  | 0 => by
      refine Keeps.get.bind fun s => ?_
      split
      · exact .pure _
      · exact .throw _
  | depth + 1 => Keeps.get.bind fun _ => keeps_callHook (keeps_publishWithin depth) _ _

lemma keeps_publish : Keeps (Sane size) publish := keeps_publishWithin nestingLimit

lemma keeps_control (request : Control) : Keeps (Sane size) (control request) :=
  keeps_controlWith keeps_publish request

/-! ## Runs -/

/-- **Every part of a run**, and so each of its turns. -/
lemma throughout_sane : Throughout (Sane size) where
  line := keeps_executeLine
  publish := keeps_publish
  call := keeps_callHook keeps_publish
  between := by
    rintro s t hs - - (h | h) <;> rw [Sane, h]
    · exact hs
    · exact Machine.Sane.reset hs

end Scheduler

/-! ## Sessions -/

namespace Session

abbrev Sane (size : Nat) (s : Session) : Prop := s.scheduler.machine.Sane size

lemma sane_adopt {s : Session} (h : s.Sane size) : s.adopt.Sane size := by
  rw [Sane, scheduler_adopt]
  exact h

lemma keeps_onScheduler {α : Type} {step : Step Scheduler α}
    (h : Keeps (Scheduler.Sane size) step) : Keeps (Sane size) (onScheduler step) :=
  h.within (fun _ hs => hs) fun _ _ _ ht => sane_adopt ht

lemma sane_finish {s : Session} (h : s.Sane size) (number : Nat)
    (outcome : Except Error (Option RunResult)) : (s.finish number outcome).Sane size := by
  simp only [finish]
  split <;> exact h

lemma sane_settle {s : Session} (h : s.Sane size) (number : Nat) (advance : Option Advance) :
    (s.settle number advance).Sane size := by
  rcases advance with _ | _ | _
  · exact sane_finish h number _
  · exact h
  · exact sane_finish h number _

lemma sane_giveTurn {s : Session} (h : s.Sane size) (number : Nat)
    {step : Step Scheduler (Option Advance)} (hstep : Keeps (Scheduler.Sane size) step) :
    (s.giveTurn number step).Sane size := by
  have hturn := keeps_onScheduler hstep s h
  rw [Step.final] at hturn
  rw [giveTurn]
  cases hr : onScheduler step s with
  | ok advance t => rw [hr] at hturn; exact sane_settle hturn number advance
  | error e t => rw [hr] at hturn; exact sane_finish hturn number _

/-- A turn of a task. -/
lemma sane_advance {s : Session} (h : s.Sane size) (number : Nat) : (s.advance number).Sane size := by
  rw [advance]
  split
  · exact h
  · split
    · exact h
    · exact sane_finish h number _
    · refine sane_finish ?_ number _
      rw [Sane, Scheduler.machine_release]
      exact h
    · exact sane_giveTurn h number (Scheduler.throughout_sane.begin _)
    · exact sane_giveTurn h number ((Scheduler.throughout_sane.resume _).map some)

lemma sane_giveTurns : ∀ (turns : List Turn) {s : Session}, s.Sane size →
    (giveTurns turns s).2.Sane size
  | [], _, h => h
  | .script :: _, _, h => h
  | .task number :: rest, _, h => sane_giveTurns rest (sane_advance h number)

lemma sane_round {s : Session} (h : s.Sane size) : s.round.2.Sane size := sane_giveTurns s.queue h

lemma sane_rounds : ∀ (bound : Nat) {s : Session}, s.Sane size → (rounds bound s).2.Sane size
  | 0, _, h => h
  | bound + 1, s, h => by
      have hround := sane_round h
      rw [rounds]
      split
      next s' hs' => rwa [hs'] at hround
      next s' hs' =>
        rw [hs'] at hround
        exact sane_rounds bound hround

lemma keeps_await (bound : Nat) : Keeps (Sane size) (await bound) := by
  intro s h
  have hrounds := sane_rounds bound h
  rw [Step.final, await]
  generalize rounds bound s = outcome at hrounds
  obtain ⟨come, t⟩ := outcome
  cases come <;> exact hrounds

/-- A change of the session that leaves the scheduler's machine alone. -/
lemma keeps_modify {f : Session → Session}
    (h : ∀ s, (f s).scheduler.machine = s.scheduler.machine) :
    Keeps (Sane size) (modify f : Step Session PUnit) :=
  .modify fun s hs => by rwa [Sane, h s]

lemma keeps_pass : Keeps (Sane size) pass :=
  (keeps_modify fun _ => by rfl).bind fun _ => keeps_await 1

lemma keeps_continueRun : ∀ (bound : Nat) (program : Program),
    Keeps (Sane size) (continueRun bound program)
  | 0, _ => .throw _
  | bound + 1, program => by
      refine keeps_pass.bind fun _ =>
        (keeps_onScheduler (Scheduler.throughout_sane.resume program)).bind fun advance => ?_
      cases advance with
      | finished result => exact .pure _
      | suspended program => exact keeps_continueRun bound program

lemma keeps_run (source : Text) : Keeps (Sane size) (run source) := by
  refine (keeps_onScheduler (Scheduler.throughout_sane.begin source)).bind fun advance? => ?_
  rcases advance? with _ | advance
  · exact .pure _
  · cases advance with
    | finished result => exact .pure _
    | suspended program => exact (keeps_continueRun _ program).bind fun _ => .pure _

lemma sane_close {s : Session} (h : s.Sane size) : s.close.Sane size :=
  sane_round (s := s.round.2.cancelAll) (sane_round h)

lemma keeps_runAlone (source : Text) : Keeps (Sane size) (runAlone source) := by
  intro s h
  have hrun := keeps_run source (setLoop true s) h
  rw [Step.final] at hrun ⊢
  rw [runAlone]
  cases hr : run source (setLoop true s) with
  | ok result t => rw [hr] at hrun; exact sane_close hrun
  | error e t => rw [hr] at hrun; exact sane_close hrun

lemma keeps_join (number : Nat) : Keeps (Sane size) (join number) := by
  refine Keeps.get.bind fun s => ?_
  split
  · exact .throw _
  · split
    · exact .ofExcept _
    · refine (keeps_modify fun _ => by rfl).bind fun _ => (keeps_await _).bind fun _ =>
        Keeps.get.bind fun t => ?_
      split
      · exact .ofExcept _
      · exact .throw _

lemma keeps_passTimes : ∀ times, Keeps (Sane size) (passTimes times)
  | 0 => .pure _
  | times + 1 => keeps_pass.bind fun _ => keeps_passTimes times

/-- **Whatever a script asks for.** -/
lemma keeps_perform (command : Command) : Keeps (Sane size) (perform command) := by
  cases command with
  | control request =>
      exact (keeps_onScheduler (Scheduler.keeps_control request)).bind fun _ => .pure _
  | run source => exact (keeps_run source).bind fun _ => .pure _
  | runAlone source => exact (keeps_runAlone source).bind fun _ => .pure _
  | start source =>
      exact Keeps.get.bind fun _ => (keeps_modify fun _ => by rfl).bind fun _ => .pure _
  | pass times => exact (keeps_passTimes times).bind fun _ => .pure _
  | join task => exact (keeps_join task).bind fun _ => .pure _
  | cancel task =>
      exact ((keeps_modify fun _ => by rfl).bind fun _ => keeps_join task).bind fun _ => .pure _

/-- A script, command by command. -/
lemma sane_play : ∀ (commands : List Command) {s : Session}, s.Sane size → (s.play commands).Sane size
  | [], _, h => h
  | command :: rest, _, h => sane_play rest (keeps_perform command _ h)

end Session

/-! ## Machines -/

/-- What a host can do with a machine. -/
inductive Deed
  | line (source : Text)
  | instruction (i : Instruction)
  | setRegister (name : Text) (value : Int)
  /-- The value is a truth value already; how a host reads other values as truth is its own affair. -/
  | setFlag (flag : Flag) (value : Bool)
  | updateFlags (result : Int) (carry overflow : Bool)
  | memory (request : Memory.Request)
  | reset
  /-- Put the machine under a new scheduler, and carry out a script there. -/
  | script (batchSize : Int) (hooks : Hooks) (commands : List Session.Command)

namespace Machine

/-- The machine that a deed leaves, whether it succeeds or not. -/
def done (m : Machine) : Deed → Machine
  | .line source => Step.final (executeLine source) m
  | .instruction i => Step.final (execute i) m
  | .setRegister name value => Step.final (setRegister name value) m
  | .setFlag flag value => m.setFlag flag.name value
  | .updateFlags result carry overflow => m.updateFlags result carry overflow
  | .memory request => Step.final (onMemory (Memory.answer request)) m
  | .reset => m.reset
  | .script batchSize hooks commands =>
    (Session.play { scheduler := { machine := m, batchSize, hooks } } commands).scheduler.machine

def after (m : Machine) (deeds : List Deed) : Machine := deeds.foldl done m

/-- The nine registers hold words, there are the seven flags and no other, and there are so many
cells that hold bytes, with nothing behind them.  A flag is a truth value. -/
structure WellFormed (size : Nat) (m : Machine) : Prop where
  registers : m.registers.entries.map Prod.fst = Register.all.map Register.name
  words : ∀ entry ∈ m.registers.entries, entry.2.toNat ≤ 0xFFFF
  flags : m.flags.entries.map Prod.fst = Flag.all.map Flag.name
  cells : m.memory.cells.Bounded size
  bytes : ∀ c, (m.memory.cells.byte c).toNat ≤ 0xFF

lemma Sane.wellFormed {m : Machine} (h : m.Sane size) : m.WellFormed size where
  registers := by simp [Registers.entries, Function.comp_def]
  words entry _ := Nat.le_of_lt_succ entry.2.isLt
  flags := by simp [Flags.entries, h.added, Function.comp_def]
  cells := h.cells
  bytes c := Nat.le_of_lt_succ (m.memory.cells.byte c).isLt

/-- One deed, whichever it is. -/
lemma sane_done {m : Machine} (h : m.Sane size) (deed : Deed) : (m.done deed).Sane size := by
  cases deed with
  | line source => exact keeps_executeLine source m h
  | instruction i => exact keeps_execute i m h
  | setRegister name value => exact keeps_setRegister name value m h
  | setFlag flag value => exact h.setFlag flag value
  | updateFlags result carry overflow => exact h.updateFlags result carry overflow
  | memory request => exact keeps_onMemory (Memory.keeps_answer request) m h
  | reset => exact h.reset
  | script batchSize hooks commands => exact Session.sane_play commands h

/-- Many deeds, by induction on the list of them. -/
lemma sane_after : ∀ (deeds : List Deed) {m : Machine}, m.Sane size → (m.after deeds).Sane size
  | [], _, h => h
  | deed :: rest, _, h => sane_after rest (sane_done h deed)

/-- **Machines stay well formed**, whatever is done with them, in any order and whether it succeeds
or not: lines and instructions, registers and flags that are set, accesses to memory with any
watchers, resets, and whole scripts on a scheduler with any hooks. -/
theorem well_formed_after (size : Nat) (deeds : List Deed) :
    ((initial size).after deeds).WellFormed size :=
  (sane_after deeds (sane_initial size)).wellFormed

end Machine
end Asm16

import Asm16.Proofs.Machine.Interpretation
import Asm16.Proofs.Run.Hook

/-!
# A line of a run

A run carries out a line on its machine and then does one of four things: it goes on, it publishes
the machine, it fails, or it lets an error through.  Which of them is decided by the plain
interpretation of that line, and `runLine_cases` says so once, with everything a line can do to the
scheduler.  What courteous or recording hooks make of it is derived from there, never from the
definition.
-/

namespace Asm16
namespace Scheduler

/-! ## Carrying out a line -/

/-- What carrying out a line on the machine does to the rest of the scheduler: watchers' notices are
told and the log grows. -/
structure Carried (s t : Scheduler) : Prop where
  standing : t.toStanding = s.toStanding
  batchSize : t.batchSize = s.batchSize
  lastResult : t.lastResult = s.lastResult
  hooks : t.hooks = s.hooks
  calls : t.calls = s.calls
  launched : t.launched = s.launched
  told : ∃ notices : List Notice, t.told = notices.map .notice ++ s.told

lemma executeLine_apply (line : Text) (s : Scheduler) :
    executeLine line s =
      match Machine.executeLine line s.machine with
      | .ok i? m => .ok i? ((s.write (lineAnnouncement line)).absorb m)
      | .error e m => .error e ((s.write (lineAnnouncement line)).absorb m) := by
  simp only [executeLine, Step.bind_apply, Step.modify_apply, onMachine, Step.within]
  have hmachine : (s.write (lineAnnouncement line)).machine = s.machine := rfl
  rw [hmachine]
  cases Machine.executeLine line s.machine <;> rfl

/-- A line of a run, in terms of how the line itself ends. -/
lemma runLine_apply {program : Program} {i : Nat} {line : Text}
    (hline : program.lines[i]? = some line) (s : Scheduler) :
    runLine program i s =
      match executeLine line s with
      | .ok none s' => .ok none s'
      | .ok (some _) s' =>
        (do publish; return none : Step Scheduler (Option RunResult))
          { s' with executed := s'.executed + 1 }
      | .error (.fault fault) s' =>
        (do return some (← fail program ⟨i + 1, fault⟩) : Step Scheduler (Option RunResult))
          { s' with processed := i }
      | .error e s' => .error e s' := by
  have hi : program.line? i = some line := by rw [Program.line?_natCast, hline]
  simp only [runLine, hi, Step.bind_apply, Step.attempt]
  cases executeLine line s with
  | ok i? s' => cases i? <;> simp only [Step.bind_apply, Step.modify_apply, Step.pure_apply]
  | error e s' => cases e <;> simp only [Step.bind_apply, Step.modify_apply, Step.pure_apply]

lemma carried_absorb (line : Text) (s : Scheduler) (m : Machine) :
    Carried s ((s.write (lineAnnouncement line)).absorb m) :=
  ⟨rfl, rfl, rfl, rfl, rfl, rfl, m.memory.journal.reverse, by
    rw [List.map_reverse]; rfl⟩

/-- **All that a line of a run can do.**  The machine becomes what plain interpretation of the line
leaves, and the way it ends decides what the run does next. -/
theorem runLine_cases {program : Program} {i : Nat} {line : Text}
    (hline : program.lines[i]? = some line) (s : Scheduler) :
    ∃ s', Carried s s' ∧ s'.machine = (s.machine.interpretLine i line).machine ∧
      ((s.machine.interpretLine i line = { machine := s'.machine } ∧
          runLine program i s = .ok none s') ∨
        (s.machine.interpretLine i line =
            { machine := s'.machine, executed := 1, shown := [s'.machine.view] } ∧
          runLine program i s =
            (do publish; return none : Step Scheduler (Option RunResult))
              { s' with executed := s.executed + 1 }) ∨
        (∃ fault, s.machine.interpretLine i line =
            { machine := s'.machine, shown := [s'.machine.view], ending := .failed i fault } ∧
          runLine program i s =
            (do return some (← fail program ⟨i + 1, fault⟩) : Step Scheduler (Option RunResult))
              { s' with processed := i }) ∨
        (∃ e, s.machine.interpretLine i line = { machine := s'.machine, ending := .escaped e } ∧
          runLine program i s = .error e s')) := by
  rw [runLine_apply hline, executeLine_apply, Machine.interpretLine]
  cases Machine.executeLine line s.machine with
  | ok i? m =>
      refine ⟨_, carried_absorb line s m, ?_⟩
      cases i? with
      | none => exact ⟨rfl, .inl ⟨rfl, rfl⟩⟩
      | some instruction => exact ⟨rfl, .inr (.inl ⟨rfl, rfl⟩)⟩
  | error e m =>
      refine ⟨_, carried_absorb line s m, ?_⟩
      cases e with
      | fault f => exact ⟨rfl, .inr (.inr (.inl ⟨f, rfl, rfl⟩))⟩
      | _ => exact ⟨rfl, .inr (.inr (.inr ⟨_, rfl, rfl⟩))⟩

end Scheduler
end Asm16

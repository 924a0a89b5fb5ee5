import Asm16.Program.Operation
import Asm16.Run.Basic
import Asm16.Proofs.Step
import Mathlib.Tactic.SplitIfs

/-!
# Plain interpretation of a list of lines

The reference for every statement about runs: lines are carried out one after the other, on a
machine and nothing else.  There are no batches, no hooks, no run states and no counters that
outlive the list.

* `Machine.interpretFrom` — carry out lines up to the first that fails, and show the machine after
  each instruction and after a failure.
* `Machine.interpret` — the same from a machine that was reset and shown first.
* `Interpretation.answer` — what a run of the lines has to answer.
* `Machine.upTo` — the interpretation of the first lines of a program.

A list of lines can be interpreted in pieces (`interpretFrom_append`).  That is all a run has to use
to be free in the choice of its batches.
-/

namespace Asm16

/-- What a hook for snapshots gets to see of a machine. -/
abbrev View := Snapshot × Cells

namespace Machine

/-- The machine once its watchers' notices of the last line have been handed out. -/
def settled (m : Machine) : Machine := { m with memory := { m.memory with journal := [] } }

def view (m : Machine) : View := (m.snapshot, m.memory.cells)

end Machine

/-- How the interpretation of a list of lines came to its end. -/
inductive Ending
  | done
  | failed (index : Nat) (fault : Fault)
  /-- A line ended in an error that is no fault. -/
  | escaped (error : Error)
  deriving DecidableEq

/-- The account of an interpretation: the machine it ended with, the number of instructions carried
out, the machine as it was shown from time to time, and how it ended. -/
structure Interpretation where
  machine : Machine
  executed : Nat := 0
  shown : List View := []
  ending : Ending := .done

namespace Interpretation

/-- One interpretation, then another that went on from it. -/
def followedBy (i j : Interpretation) : Interpretation :=
  { machine := j.machine
    executed := i.executed + j.executed
    shown := i.shown ++ j.shown
    ending := j.ending }

/-- What a run of the program has to answer. -/
def answer (i : Interpretation) (program : Program) : Except Error RunResult :=
  match i.ending with
  | .done => .ok
      { status := .completed
        executed := i.executed
        processed := program.size
        total := program.size
        labels := program.labels }
  | .failed index fault => .ok
      { status := .failed
        executed := i.executed
        processed := index
        total := program.size
        failure := some ⟨index + 1, fault⟩
        labels := program.labels }
  | .escaped error => .error error

end Interpretation

namespace Machine

def interpretLine (index : Nat) (line : Text) (m : Machine) : Interpretation :=
  match executeLine line m with
  | .ok none m' => { machine := m'.settled }
  | .ok (some _) m' => { machine := m'.settled, executed := 1, shown := [m'.view] }
  | .error (.fault fault) m' =>
    { machine := m'.settled, shown := [m'.view], ending := .failed index fault }
  | .error error m' => { machine := m'.settled, ending := .escaped error }

/-- Carry out lines up to the first that fails, the first line having the given index. -/
def interpretFrom (first : Nat) : List Text → Machine → Interpretation
  | [], m => { machine := m }
  | line :: rest, m =>
    let i := interpretLine first line m
    if i.ending = .done then i.followedBy (interpretFrom (first + 1) rest i.machine) else i

/-- Reset the machine and show it, then carry out lines up to the first that fails. -/
def interpret (lines : List Text) (m : Machine) : Interpretation :=
  Interpretation.followedBy { machine := m.reset, shown := [m.reset.view] }
    (interpretFrom 0 lines m.reset)

/-- The interpretation of the first lines. -/
def upTo (m : Machine) (lines : List Text) (count : Nat) : Interpretation :=
  interpretFrom 0 (lines.take count) m

end Machine

/-! ## In pieces -/

namespace Interpretation

@[simp] lemma followedBy_machine (i j : Interpretation) : (i.followedBy j).machine = j.machine := rfl

@[simp] lemma followedBy_executed (i j : Interpretation) :
    (i.followedBy j).executed = i.executed + j.executed := rfl

@[simp] lemma followedBy_shown (i j : Interpretation) :
    (i.followedBy j).shown = i.shown ++ j.shown := rfl

@[simp] lemma followedBy_ending (i j : Interpretation) : (i.followedBy j).ending = j.ending := rfl

lemma followedBy_assoc (i j k : Interpretation) :
    (i.followedBy j).followedBy k = i.followedBy (j.followedBy k) := by
  simp [followedBy, Nat.add_assoc]

lemma nil_followedBy (m : Machine) (i : Interpretation) :
    ({ machine := m } : Interpretation).followedBy i = i := by
  simp [followedBy]

lemma followedBy_nil {i : Interpretation} (h : i.ending = .done) :
    i.followedBy { machine := i.machine } = i := by
  obtain ⟨machine, executed, shown, ending⟩ := i
  subst h
  simp [followedBy]

end Interpretation

namespace Machine

@[simp] lemma interpretFrom_nil (first : Nat) (m : Machine) :
    interpretFrom first [] m = { machine := m } := rfl

@[simp] lemma interpretFrom_singleton (first : Nat) (line : Text) (m : Machine) :
    interpretFrom first [line] m = interpretLine first line m := by
  simp only [interpretFrom]
  split_ifs with h
  · exact Interpretation.followedBy_nil h
  · rfl

/-- **Lines in pieces.**  If the first piece is carried out to its end, the second goes on from the
machine it leaves; if not, the second does not begin. -/
theorem interpretFrom_append (ys : List Text) :
    ∀ (xs : List Text) (first : Nat) (m : Machine),
      interpretFrom first (xs ++ ys) m =
        if (interpretFrom first xs m).ending = .done then
          (interpretFrom first xs m).followedBy
            (interpretFrom (first + xs.length) ys (interpretFrom first xs m).machine)
        else interpretFrom first xs m
  | [], first, m => by simp [Interpretation.nil_followedBy]
  | line :: xs, first, m => by
      have hadd : first + (line :: xs).length = first + 1 + xs.length := by
        rw [List.length_cons]; omega
      rw [List.cons_append, hadd]
      simp only [interpretFrom]
      by_cases hline : (interpretLine first line m).ending = .done
      · simp only [if_pos hline, interpretFrom_append ys xs]
        split_ifs <;> simp_all [Interpretation.followedBy_assoc]
      · simp only [if_neg hline]

/-- One more line, when those before it were carried out. -/
lemma upTo_succ {m : Machine} {lines : List Text} {i : Nat} {line : Text}
    (hline : lines[i]? = some line) (hdone : (m.upTo lines i).ending = .done) :
    m.upTo lines (i + 1) =
      (m.upTo lines i).followedBy (interpretLine i line (m.upTo lines i).machine) := by
  obtain ⟨hi, -⟩ := List.getElem?_eq_some_iff.1 hline
  simp only [upTo] at hdone ⊢
  rw [List.take_add_one, hline, Option.toList_some, interpretFrom_append, if_pos hdone,
    List.length_take, Nat.min_eq_left (by omega), Nat.zero_add, interpretFrom_singleton]

/-- A line that is not carried out ends the interpretation. -/
lemma interpretFrom_of_stopped {m : Machine} {lines : List Text} {i : Nat} {line : Text}
    (hline : lines[i]? = some line) (hdone : (m.upTo lines i).ending = .done)
    (hstop : (interpretLine i line (m.upTo lines i).machine).ending ≠ .done) :
    interpretFrom 0 lines m =
      (m.upTo lines i).followedBy (interpretLine i line (m.upTo lines i).machine) := by
  have hsucc := upTo_succ hline hdone
  have hended : (interpretFrom 0 (lines.take (i + 1)) m).ending ≠ .done := by
    have h : (m.upTo lines (i + 1)).ending ≠ .done := by rw [hsucc]; exact hstop
    exact h
  have happend := interpretFrom_append (lines.drop (i + 1)) (lines.take (i + 1)) 0 m
  rw [List.take_append_drop, if_neg hended] at happend
  rw [← hsucc, happend]
  rfl

/-- Where an interpretation stops, there is a line that stops it. -/
theorem exists_of_stopped : ∀ (lines : List Text) (first : Nat) (m : Machine),
    (interpretFrom first lines m).ending ≠ .done →
      ∃ i line, lines[i]? = some line ∧ (interpretFrom first (lines.take i) m).ending = .done ∧
        (interpretLine (first + i) line (interpretFrom first (lines.take i) m).machine).ending =
          (interpretFrom first lines m).ending
  | [], _, _, h => absurd rfl h
  | line :: rest, first, m, h => by
      simp only [interpretFrom] at h ⊢
      by_cases hline : (interpretLine first line m).ending = .done
      · rw [if_pos hline] at h ⊢
        obtain ⟨i, other, hother, hdone, hstop⟩ := exists_of_stopped rest (first + 1) _ h
        refine ⟨i + 1, other, hother, ?_, ?_⟩
        · rw [List.take_succ_cons, interpretFrom, if_pos hline]
          exact hdone
        · rw [List.take_succ_cons, interpretFrom, if_pos hline]
          have hadd : first + (i + 1) = first + 1 + i := by omega
          rw [hadd]
          exact hstop
      · rw [if_neg hline]
        exact ⟨0, line, rfl, rfl, rfl⟩

@[simp] lemma upTo_zero (m : Machine) (lines : List Text) :
    m.upTo lines 0 = { machine := m } := rfl

lemma upTo_length (m : Machine) (lines : List Text) :
    m.upTo lines lines.length = interpretFrom 0 lines m := by
  rw [upTo, List.take_length]

/-! ## Counting instructions -/

end Machine

/-- The line holds an instruction: it is not blank, not a comment only, and not a label. -/
def holdsInstruction (line : Text) : Bool :=
  !(stripComment line).isEmpty && !isLabel (stripComment line)

/-- A line that can be read yields an instruction just if it holds one. -/
lemma Instruction.isSome_of_decode {line : Text} {i? : Option Instruction}
    (h : Instruction.decode line = .ok i?) : i?.isSome = holdsInstruction line := by
  rw [Instruction.decode] at h
  by_cases hempty : (stripComment line).isEmpty || isLabel (stripComment line)
  · rw [if_pos hempty] at h
    cases h
    rw [holdsInstruction]
    revert hempty
    cases (stripComment line).isEmpty <;> simp
  · rw [if_neg hempty] at h
    cases hparse : Instruction.parse (stripComment line) with
    | error e => rw [hparse] at h; cases h
    | ok i =>
        rw [hparse] at h
        cases h
        simpa [holdsInstruction] using hempty

namespace Machine

lemma executeLine_apply (line : Text) (m : Machine) :
    executeLine line m =
      match Instruction.decode line with
      | .error e => .error e m
      | .ok none => .ok none m
      | .ok (some i) =>
        match execute i m with
        | .ok () m' => .ok (some i) m'
        | .error e m' => .error e m' := by
  rw [executeLine, Step.bind_apply]
  cases Instruction.decode line with
  | error e => rfl
  | ok i? =>
      cases i? with
      | none => rfl
      | some i =>
          simp only [Step.ofExcept_ok, Step.pure_apply, Step.bind_apply]
          cases execute i m <;> rfl

/-- A line that is carried out answers with an instruction just if it holds one. -/
lemma isSome_of_executeLine {line : Text} {m m' : Machine} {i? : Option Instruction}
    (h : executeLine line m = .ok i? m') : i?.isSome = holdsInstruction line := by
  rw [executeLine_apply] at h
  cases hd : Instruction.decode line with
  | error e => rw [hd] at h; cases h
  | ok j? =>
      rw [← Instruction.isSome_of_decode hd]
      rw [hd] at h
      cases j? with
      | none => cases h; rfl
      | some i =>
          simp only at h
          cases he : execute i m with
          | ok u m'' => rw [he] at h; cases h; rfl
          | error e m'' => rw [he] at h; cases h

lemma executed_interpretLine {index : Nat} {line : Text} {m : Machine}
    (h : (interpretLine index line m).ending = .done) :
    (interpretLine index line m).executed = if holdsInstruction line then 1 else 0 := by
  rw [interpretLine] at h ⊢
  cases he : executeLine line m with
  | error e m' => rw [he] at h; cases e <;> cases h
  | ok i? m' =>
      rw [← isSome_of_executeLine he]
      cases i? <;> rfl

/-- **Instructions are counted once each.**  When every line was carried out, the count is the
number of lines that hold an instruction. -/
theorem executed_interpretFrom : ∀ (lines : List Text) (first : Nat) (m : Machine),
    (interpretFrom first lines m).ending = .done →
      (interpretFrom first lines m).executed = lines.countP holdsInstruction
  | [], first, m, _ => rfl
  | line :: rest, first, m, h => by
      simp only [interpretFrom] at h ⊢
      by_cases hline : (interpretLine first line m).ending = .done
      · rw [if_pos hline] at h ⊢
        have ih := executed_interpretFrom rest (first + 1) _ h
        rw [Interpretation.followedBy_executed, executed_interpretLine hline, ih,
          List.countP_cons, Nat.add_comm]
      · rw [if_neg hline] at h
        exact absurd h hline

end Machine
end Asm16

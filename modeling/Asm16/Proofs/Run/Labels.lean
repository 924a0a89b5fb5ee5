import Asm16.Proofs.Program.Labels
import Asm16.Proofs.Run.Failure

/-!
# The labels in an account

Every account that a run ends with has the labels of the program that was to be run, however the run
ends and whatever hooks and others do to the scheduler meanwhile.

* `Advance.IsOf` — where a turn of a run of this program may lead.
* `Scheduler.gives_begin`, `gives_resume` — every turn of a run leads there.
* `Scheduler.labels_of_lines` — label lines, the table that is made of them, and the accounts that
  have it.
-/

namespace Asm16

open Step (Gives)

/-- The turn is one of a run of this program: the run waits with it, or ends with its labels. -/
def Advance.IsOf (program : Program) : Advance → Prop
  | .suspended p => p = program
  | .finished result => result.labels = program.labels

namespace Scheduler

/-- If there is an account, it has the labels of the program. -/
def Labelled (program : Program) (result? : Option RunResult) : Prop :=
  ∀ result, result? = some result → result.labels = program.labels

lemma labelled_none (program : Program) : Labelled program none := fun _ h => by cases h

lemma labelled_some {program : Program} {result : RunResult}
    (h : result.labels = program.labels) : Labelled program (some result) := fun _ hr => by
  cases hr
  exact h

/-! ## Turns -/

lemma gives_fail (program : Program) (failure : Failure) :
    Gives (fun result => result.labels = program.labels) (fail program failure) :=
  Gives.any.bind fun _ _ => Gives.any.bind fun _ _ => Gives.any.bind fun _ _ =>
    Gives.any.bind fun _ _ => .pure rfl

lemma gives_runLine (program : Program) (i : Int) : Gives (Labelled program) (runLine program i) := by
  rw [runLine]
  cases program.line? i with
  | none => exact .throw _
  | some line =>
      refine Gives.any.bind fun outcome _ => ?_
      cases outcome with
      | error fault =>
          exact Gives.any.bind fun _ _ => (gives_fail program _).bind fun _ hresult =>
            .pure (labelled_some hresult)
      | ok i? =>
          cases i? with
          | none => exact .pure (labelled_none program)
          | some i =>
              exact Gives.any.bind fun _ _ => Gives.any.bind fun _ _ => .pure (labelled_none program)

/-- Lines in a row, by induction on the list of them. -/
lemma gives_runLines (program : Program) : ∀ rows, Gives (Labelled program) (runLines program rows)
  | [] => .pure (labelled_none program)
  | i :: rest => by
      refine (gives_runLine program i).bind fun result? hresult => ?_
      cases result? with
      | some result => exact .pure hresult
      | none => exact gives_runLines program rest

lemma gives_runBatch (program : Program) : Gives (Labelled program) (runBatch program) := by
  refine Gives.any.bind fun s _ => (gives_runLines program _).bind fun result? hresult => ?_
  cases result? with
  | some result => exact .pure hresult
  | none =>
      exact Gives.any.bind fun _ _ => Gives.any.bind fun _ _ => Gives.any.bind fun _ _ =>
        .pure (labelled_none program)

lemma gives_proceed (program : Program) : Gives (Advance.IsOf program) (proceed program) := by
  refine Gives.any.bind fun s _ => ?_
  split
  · refine (gives_runBatch program).bind fun result? hresult => ?_
    cases result? with
    | some result => exact .pure (hresult result rfl)
    | none => exact .pure rfl
  · have hfinished : ∀ {finish : Step Scheduler RunResult},
        Gives (fun result => result.labels = program.labels) finish →
          Gives (Advance.IsOf program) (do return .finished (← finish)) :=
      fun h => h.bind fun _ hresult => .pure hresult
    split
    · exact hfinished (Gives.any.bind fun _ _ => Gives.any.bind fun _ _ => .pure rfl)
    · exact hfinished (Gives.any.bind fun _ _ => Gives.any.bind fun _ _ => .pure rfl)

lemma gives_turn {program : Program} {step : Step Scheduler Advance}
    (h : Gives (Advance.IsOf program) step) : Gives (Advance.IsOf program) (turn step) := by
  intro s a t ha
  rw [turn] at ha
  cases hs : step s with
  | error e u => rw [hs] at ha; cases ha
  | ok b u =>
      have hb := h s b u hs
      rw [hs] at ha
      cases b <;> cases ha <;> exact hb

/-- **The first turn of a run.** -/
lemma gives_begin (source : Text) :
    Gives (fun a? => ∀ a, a? = some a → a.IsOf (Program.load source)) (begin source) := by
  refine Gives.any.bind fun s _ => ?_
  split
  · exact Gives.any.bind fun _ _ => .pure fun a ha => by cases ha
  · have hfirst : Gives (Advance.IsOf (Program.load source)) (firstTurn source) := by
      have hload : Gives (fun p => p = Program.load source) (load source) :=
        Gives.any.bind fun _ _ => .pure rfl
      exact Gives.any.bind fun _ _ => Gives.any.bind fun _ _ => hload.bind fun p hp => by
        rw [hp]
        exact gives_proceed _
    refine Gives.any.bind fun _ _ => (gives_turn hfirst).bind fun a ha => .pure fun b hb => ?_
    cases hb
    exact ha

/-- **A further turn of a run.** -/
lemma gives_resume (program : Program) : Gives (Advance.IsOf program) (resume program) :=
  gives_turn (gives_proceed program)

/-! ## Whole runs -/

lemma gives_carryOn (program : Program) : ∀ others : List (List Demand),
    Gives (Advance.IsOf program) (carryOn program others)
  | [] => .pure rfl
  | demands :: rest => by
      refine Gives.any.bind fun _ _ => (gives_resume program).bind fun a ha => ?_
      cases a with
      | finished result => exact .pure ha
      | suspended p =>
          obtain rfl : p = program := ha
          exact gives_carryOn p rest

/-- A run, with whatever others ask for, ends with the labels of its own program. -/
lemma gives_runAmid (source : Text) (others : List (List Demand)) :
    Gives (fun a? => ∀ a, a? = some a → a.IsOf (Program.load source)) (runAmid source others) := by
  refine (gives_begin source).bind fun a? ha => ?_
  cases a? with
  | none => exact .pure fun a h => by cases h
  | some a =>
      cases a with
      | finished result => exact .pure ha
      | suspended p =>
          obtain rfl : p = Program.load source := ha _ rfl
          exact (gives_carryOn _ others).bind fun a ha => .pure fun b hb => by
            cases hb
            exact ha

/-- **Loading and decoding agree on the labels, and the last definition wins.**  While the table is
made, a line is entered just if it holds no instruction although there is text on it.  So a label is
never carried out, and no line that is carried out or fails is one.  The table has the names of these
lines, each with the last of them and in the order of the first, and there is one warning for each
line whose name was there before.  Every account of a run, however it ends, has the table of the lines
of its text. -/
theorem labels_of_lines (lines : List Text) :
    (∀ i, (∃ name, (name, i) ∈ LabelTable.ofLines (lines.take (i + 1))) ↔
        ∃ line, lines[i]? = some line ∧ Instruction.decode line = .ok none ∧
          stripComment line ≠ []) ∧
      (∀ i name, Defines lines i name → ∃ line, lines[i]? = some line ∧
        ∀ m, Machine.executeLine line m = .ok none m) ∧
      LabelTable.Lists lines (LabelTable.ofLines lines) ∧
      (∃ again, LabelTable.Again lines again ∧
        ((Program.loadLog lines).filter fun entry => entry.level = .warning) =
          again.map LabelTable.redefinition) ∧
      ∀ (source : Text) (others : List (List Demand)) (s t : Scheduler) (result : RunResult),
        runAmid source others s = .ok (some (.finished result)) t →
          result.labels = LabelTable.ofLines (Text.lines source) := by
  refine ⟨fun i => ?_, fun i name h => ?_, LabelTable.lists_ofLines lines, ?_,
    fun source others s t result h => gives_runAmid source others s _ t h _ rfl⟩
  · rw [LabelTable.mem_ofLines_take_iff]
    constructor
    · rintro ⟨name, line, hline, hdecode, htext, -⟩
      exact ⟨line, hline, hdecode, htext⟩
    · rintro ⟨line, hline, hdecode, htext⟩
      exact ⟨_, line, hline, hdecode, htext, rfl⟩
  · obtain ⟨line, hline, hname⟩ := defines_iff.1 h
    exact ⟨line, hline, executeLine_of_label hname⟩
  · obtain ⟨again, hagain, hwarnings⟩ := LabelTable.exists_again lines
    refine ⟨again, hagain, ?_⟩
    rw [Program.loadLog, List.filter_append, ← hwarnings]
    exact List.append_nil _

/-- The first and the third line define the same label, and the second fails. -/
def definesTwice : Text :=
  ['A', ':', '\n', 'p', 'o', 'p', ' ', 'z', '\n', 'a', ' ', ':', ';', '\n', 'b', ':']

/-- The run fails behind the first definition, and has the second in its account. -/
theorem labels_of_definesTwice :
    (∃ r t, runAmid definesTwice [[], []] (listening []) = .ok (some (.finished r)) t ∧
        r.status = .failed ∧ r.labels = [(['a'], 2), (['b'], 3)]) ∧
      ∃ again, LabelTable.Again (Text.lines definesTwice) again ∧
        again.map LabelTable.redefinition =
          [⟨.warning, text "Label a redefined on line 3"⟩] := by
  have htable : LabelTable.ofLines (Text.lines definesTwice) = [(['a'], 2), (['b'], 3)] := by
    decide +kernel
  have hended : (ended? (runAmid definesTwice [[], []] (listening []))).map
      (fun last => last.1.status) = some .failed := by decide +kernel
  obtain ⟨r, t, hrun, hfailed⟩ := exists_of_ended? hended
  obtain ⟨-, -, -, ⟨again, hagain, hwarnings⟩, haccount⟩ := labels_of_lines (Text.lines definesTwice)
  refine ⟨⟨r, t, hrun, hfailed, (haccount _ _ _ _ _ hrun).trans htable⟩, again, hagain, ?_⟩
  rw [← hwarnings]
  decide +kernel

end Scheduler
end Asm16

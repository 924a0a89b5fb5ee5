import Asm16.Proofs.Machine.Check
import Asm16.Proofs.Machine.Interpretation

/-!
# Machines without watchers

Watchers of memory can change what a line does: they may store further bytes or give up.  Without
them a line depends on registers, flags and cells only, and changes nothing else.

* `Machine.Twins` — two machines that nobody watches, with the same registers, flags and cells.
* `Machine.agree_executeLine` — a line does the same on both.
* `Machine.Twins.interpretFrom` — and so does a list of lines, with the same account of it.
* `Machine.Twins.reset` — after a reset all that machines can differ in is the size of their memory.
* `Machine.isExpected_of_escaped` — only the error about a long numeral can end a list of lines there.
-/

namespace Asm16

/-- Two machines that nobody watches, with the same registers, flags and cells. -/
structure Machine.Twins (m m' : Machine) : Prop where
  registers : m.registers = m'.registers
  flags : m.flags = m'.flags
  cells : m.memory.cells = m'.memory.cells
  unwatched : m.memory.subscribed = []
  unwatched' : m'.memory.subscribed = []

namespace Machine.Twins

variable {m m' : Machine}

lemma refl (h : m.memory.subscribed = []) : Twins m m := ⟨rfl, rfl, rfl, h, h⟩

lemma valueAt (h : Twins m m') (r : Register) : m.valueAt r = m'.valueAt r := by
  rw [Machine.valueAt, Machine.valueAt, h.registers]

lemma view (h : Twins m m') : m.view = m'.view := by
  rw [Machine.view, Machine.view, snapshot, snapshot, h.registers, h.flags, h.cells]

lemma put (h : Twins m m') (r : Register) (n : Int) : Twins (m.put r n) (m'.put r n) :=
  ⟨congrArg (Registers.set · r (wordOfInt n)) h.registers, h.flags, h.cells, h.unwatched,
    h.unwatched'⟩

lemma withFlags (h : Twins m m') (f : Flags → Flags) :
    Twins { m with flags := f m.flags } { m' with flags := f m'.flags } :=
  ⟨h.registers, congrArg f h.flags, h.cells, h.unwatched, h.unwatched'⟩

lemma updateFlags (h : Twins m m') (result : Int) (carry overflow : Bool) :
    Twins (m.updateFlags result carry overflow) (m'.updateFlags result carry overflow) :=
  h.withFlags (·.afterResult result carry overflow)

lemma settled (h : Twins m m') : Twins m.settled m'.settled :=
  ⟨h.registers, h.flags, h.cells, h.unwatched, h.unwatched'⟩

/-- A reset puts back all but the size of memory. -/
lemma reset (h : m.memory.subscribed = []) (h' : m'.memory.subscribed = [])
    (hsize : m.memory.cells.size = m'.memory.cells.size) : Twins m.reset m'.reset :=
  ⟨rfl, rfl, congrArg Cells.blank hsize, h, h'⟩

end Machine.Twins

open Machine (Twins)

/-! ## Operations -/

namespace Operation

lemma value_eq {m m' : Machine} (h : Twins m m') (operand : Operand) :
    value m operand = value m' operand := by
  cases operand with
  | register r => exact congrArg Except.ok (h.valueAt r)
  | immediate n => rfl
  | memory a => rfl

lemma agree_valueOf (token : Text) : Step.Agree Twins (valueOf token) (valueOf token) := by
  refine (Step.Agree.ofExcept _).bind fun operand => Step.Agree.get_bind fun m m' h => ?_
  rw [value_eq h]
  exact Step.Agree.ofExcept _ m m' h

lemma agree_load (a : Int) : Step.Agree Twins (load a) (load a) := by
  refine Step.Agree.bind (fun m m' h => ?_) fun _ => Step.Agree.pure _
  rw [Machine.onMemory_apply, Machine.onMemory_apply, Memory.readWord_apply, Memory.readWord_apply,
    h.cells]
  split_ifs
  · exact .ok ⟨h.registers, h.flags, h.cells, h.unwatched, h.unwatched'⟩
  · exact .error ⟨h.registers, h.flags, h.cells, h.unwatched, h.unwatched'⟩

lemma agree_save (a n : Int) : Step.Agree Twins (save a n) (save a n) := by
  intro m m' h
  rw [save, Machine.onMemory_apply, Machine.onMemory_apply,
    Memory.writeWord_of_no_watchers h.unwatched,
    Memory.writeWord_of_no_watchers h.unwatched', h.cells]
  split_ifs
  · refine .ok ⟨h.registers, h.flags, ?_, h.unwatched, h.unwatched'⟩
    simp only [Memory.put, h.cells]
  · exact .error ⟨h.registers, h.flags, h.cells, h.unwatched, h.unwatched'⟩

lemma agree_put (r : Register) (n : Int) :
    Step.Agree Twins (modify (·.put r n)) (modify (·.put r n)) :=
  Step.Agree.modify fun _ _ h => h.put r n

lemma agree_move (dest src : Text) : Step.Agree Twins (move dest src) (move dest src) := by
  refine (Step.Agree.ofExcept _).bind fun source => ?_
  split_ifs
  · refine (Step.Agree.ofExcept _).bind fun a => Step.Agree.get_bind fun m m' h => ?_
    rw [value_eq h]
    exact (Step.Agree.ofExcept _).bind (fun n => agree_save a n) m m' h
  · refine (Step.Agree.ofExcept _).bind fun r => ?_
    cases source with
    | memory a => exact (agree_load a).bind fun n => agree_put r n
    | register q =>
        refine Step.Agree.get_bind fun m m' h => ?_
        rw [value_eq h]
        exact (Step.Agree.ofExcept _).bind (fun n => agree_put r n) m m' h
    | immediate n => exact Step.Agree.get_bind fun m m' h => agree_put r n m m' h

lemma agree_pushWord (src : Text) : Step.Agree Twins (pushWord src) (pushWord src) := by
  refine (agree_valueOf src).bind fun n => ?_
  refine (Step.Agree.modify fun m m' h => ?_).bind fun _ => Step.Agree.get_bind fun m m' h => ?_
  · rw [h.valueAt]
    exact h.put _ _
  · rw [h.valueAt]
    exact agree_save _ n m m' h

lemma agree_popWord (dest : Text) : Step.Agree Twins (popWord dest) (popWord dest) := by
  refine (Step.Agree.ofExcept _).bind fun r => Step.Agree.get_bind fun m m' h => ?_
  rw [h.valueAt]
  refine (agree_load _).bind (fun n => Step.Agree.modify fun m m' h => ?_) m m' h
  exact (h.put _ _).put r n

lemma agree_combine (dest src : Text) (adding : Bool) :
    Step.Agree Twins (combine dest src adding) (combine dest src adding) := by
  refine (agree_valueOf src).bind fun b => (Step.Agree.ofExcept _).bind fun r =>
    Step.Agree.get_bind fun m m' h => ?_
  rw [h.valueAt]
  exact Step.Agree.modify (fun m m' h => (h.put r _).updateFlags _ _ _) m m' h

lemma agree_multiply (src : Text) : Step.Agree Twins (multiply src) (multiply src) := by
  refine (agree_valueOf src).bind fun b => Step.Agree.get_bind fun m m' h => ?_
  rw [h.valueAt]
  exact Step.Agree.modify
    (fun m m' h => (h.put .ax _).withFlags fun f => (f.put .cf _).put .of _) m m' h

lemma agree_divide (src : Text) : Step.Agree Twins (divide src) (divide src) := by
  refine (agree_valueOf src).bind fun b => ?_
  simp only
  split_ifs
  · exact Step.Agree.throw _
  · refine Step.Agree.get_bind fun m m' h => ?_
    rw [h.valueAt]
    split_ifs
    · exact Step.Agree.throw _ m m' h
    · exact Step.Agree.modify (fun m m' h => (h.put .ax _).put .dx _) m m' h

/-- **An operation does the same on twins.** -/
theorem agree_perform : ∀ operation : Operation,
    Step.Agree Twins operation.perform operation.perform
  | .mov dest src => agree_move dest src
  | .push src => agree_pushWord src
  | .pop dest => agree_popWord dest
  | .add dest src => agree_combine dest src true
  | .sub dest src => agree_combine dest src false
  | .mul src => agree_multiply src
  | .div src => agree_divide src

end Operation

/-! ## Lines -/

namespace Machine

/-- **A line does the same on twins.** -/
theorem agree_executeLine (line : Text) : Step.Agree Twins (executeLine line) (executeLine line) := by
  refine (Step.Agree.ofExcept _).bind fun i? => ?_
  cases i? with
  | none => exact Step.Agree.pure _
  | some i =>
      refine Step.Agree.bind ?_ fun _ => Step.Agree.pure _
      exact (Step.Agree.ofExcept _).bind Operation.agree_perform

end Machine

/-- Two accounts of interpretations that are the same, save for the watchers that the machines know.
-/
structure Interpretation.Same (i j : Interpretation) : Prop where
  machine : Twins i.machine j.machine
  executed : i.executed = j.executed
  shown : i.shown = j.shown
  ending : i.ending = j.ending

namespace Interpretation

lemma Same.followedBy {i i' j j' : Interpretation} (hi : i.Same i') (hj : j.Same j') :
    (i.followedBy j).Same (i'.followedBy j') where
  machine := hj.machine
  executed := by simp only [followedBy_executed, hi.executed, hj.executed]
  shown := by simp only [followedBy_shown, hi.shown, hj.shown]
  ending := hj.ending

lemma Same.answer {i j : Interpretation} (h : i.Same j) (program : Program) :
    i.answer program = j.answer program := by
  simp only [Interpretation.answer]
  rw [h.ending, h.executed]

end Interpretation

namespace Machine

variable {m m' : Machine}

lemma Twins.interpretLine (h : Twins m m') (index : Nat) (line : Text) :
    (m.interpretLine index line).Same (m'.interpretLine index line) := by
  have hagree := agree_executeLine line m m' h
  simp only [Machine.interpretLine]
  generalize executeLine line m = r, executeLine line m' = r' at hagree
  cases hagree with
  | @ok i? n n' related =>
      cases i? with
      | none => exact ⟨related.settled, rfl, rfl, rfl⟩
      | some i => exact ⟨related.settled, rfl, congrArg (fun v => [v]) related.view, rfl⟩
  | @error e n n' related =>
      cases e with
      | fault f => exact ⟨related.settled, rfl, congrArg (fun v => [v]) related.view, rfl⟩
      | _ => exact ⟨related.settled, rfl, rfl, rfl⟩

/-- **Lines do the same on twins.** -/
theorem Twins.interpretFrom : ∀ (lines : List Text) (first : Nat) {m m' : Machine}, Twins m m' →
    (m.interpretFrom first lines).Same (m'.interpretFrom first lines)
  | [], _, _, _, h => ⟨h, rfl, rfl, rfl⟩
  | line :: rest, first, m, m', h => by
      have hline := h.interpretLine first line
      simp only [Machine.interpretFrom, hline.ending]
      split_ifs
      · exact hline.followedBy (Twins.interpretFrom rest (first + 1) hline.machine)
      · exact hline

/-- **What came before a reset is forgotten**, apart from the size of memory. -/
theorem same_interpret (h : m.memory.subscribed = []) (h' : m'.memory.subscribed = [])
    (hsize : m.memory.cells.size = m'.memory.cells.size) (lines : List Text) :
    (m.interpret lines).Same (m'.interpret lines) := by
  have hreset := Twins.reset h h' hsize
  have hfirst : Interpretation.Same { machine := m.reset, shown := [m.reset.view] }
      { machine := m'.reset, shown := [m'.reset.view] } :=
    ⟨hreset, rfl, congrArg (fun v => [v]) hreset.view, rfl⟩
  exact hfirst.followedBy (Twins.interpretFrom lines 0 hreset)

/-- No error of a host's own ends lines on a machine that nobody watches. -/
lemma isExpected_of_escaped (h : m.memory.subscribed = []) {lines : List Text} {first : Nat}
    {e : Error} (hending : (m.interpretFrom first lines).ending = .escaped e) : e.IsExpected := by
  obtain ⟨i, line, -, -, hstop⟩ :=
    exists_of_stopped lines first m (by rw [hending]; exact Ending.noConfusion)
  have hunwatched := ((Twins.refl h).interpretFrom (lines.take i) first).machine.unwatched
  rw [hending, interpretLine] at hstop
  cases hr : executeLine line (m.interpretFrom first (lines.take i)).machine with
  | ok i? m' =>
      rw [hr] at hstop
      cases i? <;> cases hstop
  | error e' m' =>
      rw [hr] at hstop
      rcases error_of_executeLine hunwatched hr with hfault | ⟨rfl, -⟩
      · cases e' with
        | fault fault => cases hstop
        | _ => exact absurd hfault id
      · cases hstop
        trivial

end Machine
end Asm16

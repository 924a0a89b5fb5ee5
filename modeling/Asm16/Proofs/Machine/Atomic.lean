import Asm16.Proofs.Machine.Interpretation
import Asm16.Proofs.Memory.Echo

/-!
# What a failed line leaves behind

Nothing is rolled back when a line fails.  It would hardly be needed: an operation looks at all its
operands before it changes anything, so what fails has not begun to change the machine.  A push is
the one exception, because the stack pointer moves before the store is tried.

* `Step.Spares` — a step that fails in a state leaves that state as it was.  It goes through
  sequencing as long as the steps in front only look.
* `Memory.Undisturbed` — no watcher gives up on a store.
* `Operation.spares_of_not_stores` — what stores nothing spares the machine, whoever watches.
* `Operation.spares_perform`, `Operation.pushWord_of_no_room` — all operations but a push, and a push.
* `Machine.PushesBeyond`, `failed_line_spares_machine` — the exception, and the result for lines.
-/

namespace Asm16
namespace Step

variable {σ α β : Type}

/-- If the step fails in this state, it leaves the state as it was. -/
def Spares (s : σ) (step : Step σ α) : Prop := ∀ e s', step s = .error e s' → s' = s

variable {s : σ} {step : Step σ α} {next : α → Step σ β}

/-- What cannot fail spares every state. -/
lemma Spares.modify (f : σ → σ) : Spares s (modify f) := fun _ _ he => by cases he

lemma Spares.throw (e : Error) : Spares s (throw e : Step σ α) := fun _ _ he => by cases he; rfl

/-- Behind a step that only looks, a step that spares. -/
lemma Spares.bind (hlook : final step s = s) (h : ∀ a, Spares s (next a)) :
    Spares s (step >>= next) := by
  intro e s' he
  rw [bind_apply] at he
  cases hs : step s with
  | ok a t =>
      rw [hs] at he
      obtain rfl : t = s := (final_of_ok hs).symm.trans hlook
      exact h a e s' he
  | error e' t =>
      rw [hs] at he
      cases he
      exact (final_of_error hs).symm.trans hlook

/-- Behind a step that spares, what cannot fail. -/
lemma Spares.then_ok (h : Spares s step) (hnext : ∀ a s', ∃ b s'', next a s' = .ok b s'') :
    Spares s (step >>= next) := by
  intro e s' he
  rw [bind_apply] at he
  cases hs : step s with
  | ok a t =>
      obtain ⟨b, u, hu⟩ := hnext a t
      rw [hs] at he
      simp only [hu] at he
      cases he
  | error e' t =>
      rw [hs] at he
      cases he
      exact h _ _ hs

end Step

/-! ## Watchers that do not give up -/

namespace Memory

/-- No watcher gives up on the store of a word, wherever in memory it is. -/
def Undisturbed (m : Memory) : Prop :=
  ∀ a n, m.cells.fits a 2 = true → ∃ m', writeWord a n m = .ok () m'

/-- Watchers that do nothing disturb nothing. -/
lemma undisturbed_of_no_reactions {m : Memory} (h : ∀ name change, m.reactions name change = []) :
    m.Undisturbed := by
  intro a n hfits
  obtain ⟨m₁, hm₁, h₁⟩ := store_of_no_reactions h a.toNat (lowByte n)
  obtain ⟨m₂, hm₂, -⟩ := store_of_no_reactions h₁ (a.toNat + 1) (highByte n)
  refine ⟨m₂, ?_⟩
  simp only [writeWord, Step.bind_apply, require_apply, hfits, if_true, hm₁, hm₂]

lemma writeWord_of_not_fits {m : Memory} {a : Int} (h : m.cells.fits a 2 = false) (n : Int) :
    writeWord a n m = .error (outOfRange a) m := by
  simp only [writeWord, Step.bind_apply, require_apply, h, Bool.false_eq_true, if_false]

end Memory

/-! ## Operations -/

namespace Operation

open Step (Spares)

variable {m : Machine}

lemma final_valueOf (token : Text) (m : Machine) : Step.final (valueOf token) m = m := by
  rw [valueOf, Step.final_bind]
  cases resolve token with
  | error e => rfl
  | ok operand => exact Step.final_ofExcept (value m operand) m

lemma final_load (a : Int) (m : Machine) : Step.final (load a) m = m := by
  rw [load, Step.final_bind_pure, Step.final, Machine.onMemory_apply, Memory.readWord_apply]
  split_ifs <;> rfl

lemma final_resolved {α : Type} (r : Except Error α) (m : Machine) :
    Step.final (Step.ofExcept r : Step Machine α) m = m := Step.final_ofExcept r m

lemma save_of_fits (h : m.memory.Undisturbed) {a : Int} (hfits : m.memory.cells.fits a 2 = true)
    (n : Int) : ∃ m', save a n m = .ok () m' := by
  obtain ⟨memory, hmemory⟩ := h a n hfits
  refine ⟨{ m with memory }, ?_⟩
  rw [save, Machine.onMemory_apply, hmemory]

lemma save_of_not_fits {a : Int} (hfits : m.memory.cells.fits a 2 = false) (n : Int) :
    save a n m = .error (Memory.outOfRange a) m := by
  rw [save, Machine.onMemory_apply, Memory.writeWord_of_not_fits hfits]

/-- A store fails before it has begun. -/
lemma spares_save (h : m.memory.Undisturbed) (a n : Int) : Spares m (save a n) := by
  intro e m' he
  cases hfits : m.memory.cells.fits a 2 with
  | true =>
      obtain ⟨m₁, hm₁⟩ := save_of_fits h hfits n
      rw [hm₁] at he
      cases he
  | false =>
      rw [save_of_not_fits hfits] at he
      cases he
      rfl

/-- A word for a register has been found before anything is written. -/
lemma spares_move_register {dest : Text} (hdest : isBracketed dest = false) (src : Text) :
    Spares m (move dest src) := by
  refine Spares.bind (final_resolved _ m) fun source => ?_
  rw [if_neg (by rw [hdest]; exact Bool.false_ne_true)]
  refine Spares.bind (final_resolved _ m) fun r => ?_
  cases source with
  | memory a => exact Spares.bind (final_load a m) fun n => .modify _
  | register q =>
      exact Spares.bind rfl fun m₀ => Spares.bind (final_resolved _ m) fun n => .modify _
  | immediate n => exact Spares.bind rfl fun m₀ => .modify _

lemma spares_move_cell (h : m.memory.Undisturbed) {dest : Text} (hdest : isBracketed dest = true)
    (src : Text) : Spares m (move dest src) := by
  refine Spares.bind (final_resolved _ m) fun source => ?_
  rw [if_pos hdest]
  refine Spares.bind (final_resolved _ m) fun a => ?_
  refine Spares.bind rfl fun m₀ => ?_
  exact Spares.bind (final_resolved _ m) fun n => spares_save h a n

lemma spares_popWord (dest : Text) : Spares m (popWord dest) := by
  refine Spares.bind (final_resolved _ m) fun r => Spares.bind rfl fun m₀ => ?_
  exact Spares.bind (final_load _ m) fun n => .modify _

lemma spares_combine (dest src : Text) (adding : Bool) : Spares m (combine dest src adding) := by
  refine Spares.bind (final_valueOf src m) fun b => Spares.bind (final_resolved _ m) fun r => ?_
  exact Spares.bind rfl fun m₀ => .modify _

lemma spares_multiply (src : Text) : Spares m (multiply src) := by
  refine Spares.bind (final_valueOf src m) fun b => ?_
  exact Spares.bind rfl fun m₀ => .modify _

/-- The divisor and the quotient are judged before anything is written. -/
lemma spares_divide (src : Text) : Spares m (divide src) := by
  refine Spares.bind (final_valueOf src m) fun b => ?_
  simp only
  split_ifs
  · exact .throw _
  · refine Spares.bind rfl fun m₀ => ?_
    split_ifs
    · exact .throw _
    · exact .modify _

/-- The operation stores a word, if it succeeds. -/
def stores : Operation → Bool
  | .mov dest _ => isBracketed dest
  | .push _ => true
  | .pop _ | .add _ _ | .sub _ _ | .mul _ | .div _ => false

/-- Whoever watches memory, an operation that stores nothing leaves the machine as it was when it
fails. -/
lemma spares_of_not_stores : ∀ {operation : Operation}, operation.stores = false →
    Spares m operation.perform
  | .mov _ src, h => spares_move_register h src
  | .push _, h => Bool.noConfusion h
  | .pop dest, _ => spares_popWord dest
  | .add dest src, _ => spares_combine dest src true
  | .sub dest src, _ => spares_combine dest src false
  | .mul src, _ => spares_multiply src
  | .div src, _ => spares_divide src

/-- **All operations but a push** leave the machine as it was when they fail. -/
theorem spares_perform (h : m.memory.Undisturbed) {operation : Operation}
    (hpush : ∀ src, operation ≠ .push src) : Spares m operation.perform := by
  cases hstores : operation.stores with
  | false => exact spares_of_not_stores hstores
  | true =>
      cases operation with
      | mov dest src => exact spares_move_cell h hstores src
      | push src => exact absurd rfl (hpush src)
      | _ => cases hstores

/-- A token has a value on a machine, or an error in its place. -/
lemma valueOf_cases (token : Text) (m : Machine) :
    (∃ n, valueOf token m = .ok n m) ∨ ∃ e, valueOf token m = .error e m := by
  have hfinal := final_valueOf token m
  cases hv : valueOf token m with
  | ok n m₀ =>
      obtain rfl : m₀ = m := (Step.final_of_ok hv).symm.trans hfinal
      exact .inl ⟨n, rfl⟩
  | error e m₀ =>
      obtain rfl : m₀ = m := (Step.final_of_error hv).symm.trans hfinal
      exact .inr ⟨e, rfl⟩

end Operation

/-! ## Pushing -/

namespace Machine

/-- Where the stack pointer goes when a word is pushed. -/
def pushedTo (m : Machine) : Int := (m.valueAt .sp - 2) % 65536

end Machine

namespace Operation

variable {m : Machine} {src : Text} {n : Int}

lemma fits_pushedTo (m : Machine) :
    m.memory.cells.fits m.pushedTo 2 = decide (m.pushedTo + 2 ≤ m.memory.cells.size) := by
  have hnonneg : 0 ≤ m.pushedTo := Int.emod_nonneg _ (by decide)
  simp [Cells.fits, hnonneg]

/-- A source without a value is not pushed, and the stack pointer stays. -/
lemma pushWord_of_error {e : Error} (h : valueOf src m = .error e m) :
    pushWord src m = .error e m := by
  simp only [pushWord, Step.bind_apply, h]

lemma pushWord_of_ok (h : valueOf src m = .ok n m) :
    pushWord src m = save m.pushedTo n (m.put .sp (m.valueAt .sp - 2)) := by
  simp only [pushWord, Step.bind_apply, h, Step.modify_apply, Step.get_apply,
    Machine.valueAt_put_self]
  rfl

/-- Where there is room, a push succeeds. -/
lemma pushWord_of_room (hcalm : m.memory.Undisturbed) (h : valueOf src m = .ok n m)
    (hroom : m.pushedTo + 2 ≤ m.memory.cells.size) : ∃ m', pushWord src m = .ok () m' := by
  rw [pushWord_of_ok h]
  exact save_of_fits (m := m.put .sp (m.valueAt .sp - 2)) hcalm
    ((fits_pushedTo m).trans (decide_eq_true hroom)) n

/-- Where there is no room, a push fails when the stack pointer has moved. -/
lemma pushWord_of_no_room (h : valueOf src m = .ok n m)
    (hroom : ¬ m.pushedTo + 2 ≤ m.memory.cells.size) :
    pushWord src m =
      .error (Memory.outOfRange m.pushedTo) (m.put .sp (m.valueAt .sp - 2)) := by
  rw [pushWord_of_ok h]
  exact save_of_not_fits (m := m.put .sp (m.valueAt .sp - 2))
    ((fits_pushedTo m).trans (decide_eq_false hroom)) n

end Operation

/-! ## Lines -/

namespace Machine

/-- The line pushes a source that has a value, and there is no room for a word where the stack
pointer goes. -/
def PushesBeyond (m : Machine) (line : Text) : Prop :=
  ∃ i src n, Instruction.decode line = .ok (some i) ∧ Operation.of i = .ok (.push src) ∧
    Operation.valueOf src m = .ok n m ∧ ¬ m.pushedTo + 2 ≤ m.memory.cells.size

variable {m m' : Machine} {line : Text} {e : Error}

/-- The operation of a line that fails has failed, if there is one. -/
lemma error_of_executeLine_cases (h : executeLine line m = .error e m') :
    m' = m ∧ (∀ i operation, Instruction.decode line = .ok (some i) →
        Operation.of i ≠ .ok operation) ∨
      ∃ i operation, Instruction.decode line = .ok (some i) ∧ Operation.of i = .ok operation ∧
        operation.perform m = .error e m' := by
  rw [executeLine_apply] at h
  cases hd : Instruction.decode line with
  | error e' =>
      rw [hd] at h
      cases h
      exact .inl ⟨rfl, fun i operation hi => by cases hi⟩
  | ok i? =>
      rw [hd] at h
      cases i? with
      | none => cases h
      | some i =>
          simp only [execute, Step.bind_apply] at h
          cases ho : Operation.of i with
          | error e' =>
              rw [ho] at h
              cases h
              refine .inl ⟨rfl, fun j operation hj => ?_⟩
              cases hj
              rw [ho]
              exact nofun
          | ok operation =>
              refine .inr ⟨i, operation, rfl, ho, ?_⟩
              rw [ho] at h
              simp only [Step.ofExcept_ok, Step.pure_apply] at h
              cases hp : operation.perform m with
              | ok u m₁ => rw [hp] at h; cases h
              | error e' m₁ => rw [hp] at h; cases h; rfl

/-- **A line that fails** has either changed nothing, or is a push that found no room. -/
theorem spared_or_pushed (hcalm : m.memory.Undisturbed) (h : executeLine line m = .error e m') :
    m' = m ∧ ¬ m.PushesBeyond line ∨
      m' = m.put .sp (m.valueAt .sp - 2) ∧ m.PushesBeyond line := by
  rcases error_of_executeLine_cases h with ⟨hm, hnone⟩ | ⟨i, operation, hdecode, hof, hperform⟩
  · refine .inl ⟨hm, ?_⟩
    rintro ⟨i, src, n, hdecode, hof, -⟩
    exact hnone i _ hdecode hof
  · have hown : ∀ j src, Instruction.decode line = .ok (some j) → Operation.of j = .ok (.push src) →
        operation = .push src := by
      intro j src hj hsrc
      rw [hdecode] at hj
      cases hj
      rw [hof] at hsrc
      cases hsrc
      rfl
    by_cases hpush : ∃ src, operation = .push src
    · obtain ⟨src, rfl⟩ := hpush
      have hpushed : Operation.pushWord src m = .error e m' := hperform
      rcases Operation.valueOf_cases src m with ⟨n, hn⟩ | ⟨e', he'⟩
      · by_cases hroom : m.pushedTo + 2 ≤ m.memory.cells.size
        · obtain ⟨m₁, hm₁⟩ := Operation.pushWord_of_room hcalm hn hroom
          rw [hm₁] at hpushed
          cases hpushed
        · rw [Operation.pushWord_of_no_room hn hroom] at hpushed
          cases hpushed
          exact .inr ⟨rfl, i, src, n, hdecode, hof, hn, hroom⟩
      · rw [Operation.pushWord_of_error he'] at hpushed
        cases hpushed
        refine .inl ⟨rfl, ?_⟩
        rintro ⟨j, src', n, hj, hsrc, hvalue, -⟩
        cases hown j src' hj hsrc
        rw [he'] at hvalue
        cases hvalue
    · have hspares := Operation.spares_perform hcalm fun src hsrc => hpush ⟨src, hsrc⟩
      refine .inl ⟨hspares e m' hperform, ?_⟩
      rintro ⟨j, src, n, hj, hsrc, -⟩
      exact hpush ⟨src, hown j src hj hsrc⟩

/-- A push that finds no room fails, and only the stack pointer has moved. -/
lemma executeLine_of_pushesBeyond (h : m.PushesBeyond line) :
    executeLine line m =
      .error (Memory.outOfRange m.pushedTo) (m.put .sp (m.valueAt .sp - 2)) := by
  obtain ⟨i, src, n, hdecode, hof, hvalue, hroom⟩ := h
  have hpush := Operation.pushWord_of_no_room hvalue hroom
  rw [executeLine_apply, hdecode]
  simp only [execute, Step.bind_apply, hof, Step.ofExcept_ok, Step.pure_apply, Operation.perform,
    hpush]

/-- A memory that holds every word address has room for every push. -/
lemma not_pushesBeyond (hsize : 65537 ≤ m.memory.cells.size) (line : Text) :
    ¬ m.PushesBeyond line := by
  rintro ⟨i, src, n, -, -, -, hroom⟩
  have hbound : m.pushedTo < 65536 := Int.emod_lt_of_pos _ (by decide)
  omega

/-- **Failing lines are atomic, but for one kind of push.**  Whatever a line fails with, flags and
memory are as they were, and so are the registers, unless the line pushes a source that has a value
to where there is no room for a word.  Such a push does fail, and then the stack pointer alone has
moved.  A memory of 65537 cells has room for every push. -/
theorem failed_line_spares_machine (hcalm : m.memory.Undisturbed) (line : Text) :
    (∀ e m', executeLine line m = .error e m' →
        m'.flags = m.flags ∧ m'.memory = m.memory ∧
          (¬ m.PushesBeyond line → m' = m) ∧
          (m.PushesBeyond line →
            m'.valueAt .sp = m.pushedTo ∧ ∀ r ≠ .sp, m'.valueAt r = m.valueAt r)) ∧
      (m.PushesBeyond line → ∃ e m', executeLine line m = .error e m') ∧
      (65537 ≤ m.memory.cells.size → ∀ e m', executeLine line m = .error e m' → m' = m) := by
  refine ⟨fun e m' h => ?_, fun hbeyond => ⟨_, _, executeLine_of_pushesBeyond hbeyond⟩,
    fun hsize e m' h => ?_⟩
  · rcases spared_or_pushed hcalm h with ⟨rfl, hnot⟩ | ⟨rfl, hbeyond⟩
    · exact ⟨rfl, rfl, fun _ => rfl, fun hbeyond => absurd hbeyond hnot⟩
    · refine ⟨rfl, rfl, fun hnot => absurd hbeyond hnot, fun _ => ⟨?_, fun r hr => ?_⟩⟩
      · exact valueAt_put_self m .sp _
      · exact valueAt_put_of_ne m hr _
  · rcases spared_or_pushed hcalm h with ⟨rfl, -⟩ | ⟨-, hbeyond⟩
    · rfl
    · exact absurd hbeyond (not_pushesBeyond hsize line)

/-- A machine of two cells, with a watcher that takes note of every store. -/
def cramped : Machine :=
  { memory := (Memory.blank 2).subscribe (Watcher.recorder ['l', 'o', 'g']) }

lemma undisturbed_cramped : cramped.memory.Undisturbed := by
  refine Memory.undisturbed_of_no_reactions (Memory.reactions_eq_nil fun w hw _ => ?_)
  obtain rfl := List.mem_singleton.1 hw
  rfl

lemma pushesBeyond_cramped : cramped.PushesBeyond ['p', 'u', 's', 'h', ' ', 'a', 'x'] :=
  ⟨⟨['p', 'u', 's', 'h'], [['a', 'x']]⟩, ['a', 'x'], 0, by rfl, by rfl, by rfl, by decide⟩

/-- On that machine a push has no room, and it leaves the stack pointer moved. -/
theorem failed_push_moves_stack_pointer :
    ∃ e m', executeLine ['p', 'u', 's', 'h', ' ', 'a', 'x'] cramped = .error e m' ∧
      m'.flags = cramped.flags ∧ m'.memory = cramped.memory ∧ m'.valueAt .sp = 0xFFEE := by
  obtain ⟨hfails, hbeyond, -⟩ :=
    failed_line_spares_machine undisturbed_cramped ['p', 'u', 's', 'h', ' ', 'a', 'x']
  obtain ⟨e, m', h⟩ := hbeyond pushesBeyond_cramped
  obtain ⟨hflags, hmemory, -, hmoved⟩ := hfails e m' h
  exact ⟨e, m', h, hflags, hmemory, (hmoved pushesBeyond_cramped).1⟩

end Machine
end Asm16

import Asm16.Proofs.Machine.Frame
import Asm16.Proofs.Memory.Journal

/-!
# Memory as its watchers tell it, under instructions

An instruction comes to memory through at most one store of a word, so that a recorder in front of
all other watchers hears what instructions store as it hears what a host writes.

* `Operation.perform_cases` — an operation leaves memory alone, or ends as the store of a word does.
* `Machine.Job`, `Machine.Does` — bytes and words to write, instructions and lines to carry out, and
  a list of these one after the other.
* `Machine.Job.ends` — the same of jobs.
* `Machine.journal_is_complete` — the result.
-/

namespace Asm16

namespace Operation

variable {dest : Text}

/-- A move between brackets looks at its operands, and what is left is the store. -/
lemma move_cases (hbracketed : isBracketed dest = true) (src : Text) (m : Machine) :
    Step.final (move dest src) m = m ∨ ∃ a n, move dest src m = save a n m := by
  cases hsrc : resolve src with
  | error e => exact .inl (by simp [Step.final, move, Step.bind_apply, hsrc])
  | ok o =>
      cases hdest : addressOf dest with
      | error e => exact .inl (by simp [Step.final, move, Step.bind_apply, hsrc, hbracketed, hdest])
      | ok a =>
          cases hn : value m o with
          | error e =>
              exact .inl (by simp [Step.final, move, Step.bind_apply, hsrc, hbracketed, hdest, hn])
          | ok n =>
              exact .inr ⟨a, n, by simp [move, Step.bind_apply, hsrc, hbracketed, hdest, hn]⟩

/-- **An operation leaves memory alone, or ends as the store of a word does.** -/
theorem perform_cases (operation : Operation) (m : Machine) :
    (Step.final operation.perform m).memory = m.memory ∨
      ∃ a n m₁, m₁.memory = m.memory ∧ operation.perform m = save a n m₁ := by
  cases hstores : operation.stores with
  | false => exact .inl ((Machine.bears_memory m hstores).perform m rfl)
  | true =>
      cases operation with
      | mov dest src =>
          rcases move_cases hstores src m with hm | ⟨a, n, hsave⟩
          · exact .inl (congrArg Machine.memory hm)
          · exact .inr ⟨a, n, m, rfl, hsave⟩
      | push src =>
          rcases valueOf_cases src m with ⟨n, hn⟩ | ⟨e, he⟩
          · exact .inr ⟨_, n, m.put .sp (m.valueAt .sp - 2), rfl, pushWord_of_ok hn⟩
          · exact .inl (congrArg Machine.memory (Step.final_of_error (pushWord_of_error he)))
      | pop | add | sub | mul | div => cases hstores

end Operation

namespace Memory

variable {m : Memory}

/-- Watchers return from every write that stays inside memory. -/
structure Returning (m : Memory) : Prop where
  byte : ∀ a v, m.cells.fits a 1 = true → ∃ m', writeByte a v m = .ok () m'
  word : m.Undisturbed

lemma returning_of_mild (hm : m.IsMild) : m.Returning where
  byte a v hfits := by
    obtain ⟨m', hstore, -⟩ := store_of_mild hm a.toNat (lowByte v)
    exact ⟨m', by simp only [writeByte, Step.bind_apply, require_apply, hfits, if_true, hstore]⟩
  word a n hfits := by
    obtain ⟨m₁, hlow, hmild, -⟩ := store_of_mild hm a.toNat (lowByte n)
    obtain ⟨m₂, hhigh, -⟩ := store_of_mild hmild (a.toNat + 1) (highByte n)
    refine ⟨m₂, ?_⟩
    simp only [writeWord, Step.bind_apply, require_apply, hfits, if_true, hlow, hhigh]

/-- A write that fails has stored nothing. -/
lemma Writes.spares {write : Step Memory Unit} (hwrite : Writes write) (h : m.Returning) :
    Step.Spares m write := by
  intro e m' herror
  cases hwrite with
  | byte a v =>
      cases hfits : m.cells.fits a 1 with
      | true =>
          obtain ⟨m₁, hm₁⟩ := h.byte a v hfits
          rw [hm₁] at herror
          cases herror
      | false =>
          simp only [writeByte, Step.bind_apply, require_apply, hfits, Bool.false_eq_true,
            if_false] at herror
          cases herror
          rfl
  | word a n =>
      cases hfits : m.cells.fits a 2 with
      | true =>
          obtain ⟨m₁, hm₁⟩ := h.word a n hfits
          rw [hm₁] at herror
          cases herror
      | false =>
          rw [writeWord_of_not_fits hfits] at herror
          cases herror
          rfl

end Memory

namespace Machine

open Memory (Writes)

variable {m m' m'' : Machine} {recorder : Text}

/-- A write that succeeds, or fails, does so on memory. -/
lemma exists_of_onMemory_eq_ok {write : Step Memory Unit} (h : onMemory write m = .ok () m') :
    ∃ memory, write m.memory = .ok () memory ∧ { m with memory } = m' := by
  rw [onMemory_apply] at h
  cases hwritten : write m.memory with
  | ok _ memory => rw [hwritten] at h; cases h; exact ⟨memory, rfl, rfl⟩
  | error e memory => rw [hwritten] at h; cases h

lemma exists_of_onMemory_eq_error {write : Step Memory Unit} {e : Error}
    (h : onMemory write m = .error e m') :
    ∃ memory, write m.memory = .error e memory ∧ { m with memory } = m' := by
  rw [onMemory_apply] at h
  cases hwritten : write m.memory with
  | ok _ memory => rw [hwritten] at h; cases h
  | error e' memory => rw [hwritten] at h; cases h; exact ⟨memory, rfl, rfl⟩

/-! ## Jobs -/

/-- What a host can have done that may store bytes. -/
inductive Job
  | byte (a value : Int)
  | word (a value : Int)
  | instruction (i : Instruction)
  | line (source : Text)

/-- The cells that an instruction stores into, if it succeeds. -/
def cellsOf (m : Machine) (i : Instruction) : List Int :=
  match Operation.of i with
  | .ok operation => operation.cells m
  | .error _ => []

namespace Job

def step : Job → Step Machine Unit
  | .byte a v => onMemory (Memory.writeByte a v)
  | .word a v => onMemory (Memory.writeWord a v)
  | .instruction i => execute i
  | .line source => do
    let _ ← executeLine source
    return ()

/-- The cells that a job stores into, if it succeeds. -/
def cells (m : Machine) : Job → List Int
  | .byte a _ => [a]
  | .word a _ => [a, a + 1]
  | .instruction i => m.cellsOf i
  | .line source =>
    match Instruction.decode source with
    | .ok (some i) => m.cellsOf i
    | _ => []

/-- How a job is done: as a write, as an operation, or without any change. -/
inductive Way (m : Machine) : Job → Prop
  | byte (a v : Int) : Way m (.byte a v)
  | word (a v : Int) : Way m (.word a v)
  | operation {job : Job} {operation : Operation} (hcells : job.cells m = operation.cells m)
    (hstep : job.step m = operation.perform m) : Way m job
  | idle {job : Job} (hcells : job.cells m = []) (hstep : Step.final job.step m = m) : Way m job

lemma way_instruction (i : Instruction) (m : Machine) : Way m (.instruction i) := by
  cases hof : Operation.of i with
  | ok operation =>
      have hcells : cells m (.instruction i) = operation.cells m := by
        simp only [cells, cellsOf, hof]
      refine .operation hcells ?_
      simp only [step, execute, hof, Step.ofExcept_ok, Step.bind_apply, Step.pure_apply]
  | error e =>
      refine .idle (by simp only [cells, cellsOf, hof]) ?_
      simp [Step.final, step, execute, hof, Step.bind_apply]

/-- A line that holds an instruction is done as the instruction is. -/
lemma step_line {source : Text} {i : Instruction}
    (hdecode : Instruction.decode source = .ok (some i)) (m : Machine) :
    step (.line source) m = step (.instruction i) m := by
  simp only [step, executeLine, hdecode, Step.ofExcept_ok, Step.bind_apply, Step.pure_apply]
  cases execute i m <;> rfl

lemma way_line (source : Text) (m : Machine) : Way m (.line source) := by
  cases hdecode : Instruction.decode source with
  | error e =>
      refine .idle (by simp only [cells, hdecode]) ?_
      simp [Step.final, step, executeLine, hdecode, Step.bind_apply]
  | ok i? =>
      cases i? with
      | none =>
          refine .idle (by simp only [cells, hdecode]) ?_
          simp [Step.final, step, executeLine, hdecode, Step.bind_apply]
      | some i =>
          have hstep := step_line hdecode m
          have hcells : cells m (.line source) = cells m (.instruction i) := by
            simp only [cells, hdecode]
          cases way_instruction i m with
          | operation hcells' hstep' => exact .operation (hcells.trans hcells') (hstep.trans hstep')
          | idle hcells' hstep' =>
              refine .idle (hcells.trans hcells') ?_
              rw [Step.final, hstep]
              exact hstep'

lemma way (m : Machine) : ∀ job, Way m job
  | .byte a v => .byte a v
  | .word a v => .word a v
  | .instruction i => way_instruction i m
  | .line source => way_line source m

/-- How a job comes to memory: not at all, or with one write. -/
inductive Ends (m : Machine) (job : Job) : Prop
  | still (h : (Step.final job.step m).memory = m.memory) : Ends m job
  | write {write : Step Memory Unit} (hwrite : Writes write) {m₁ : Machine}
    (hm₁ : m₁.memory = m.memory) (h : job.step m = onMemory write m₁) : Ends m job

/-- **A job comes to memory with one write at most.** -/
theorem ends (m : Machine) (job : Job) : job.Ends m := by
  cases way m job with
  | byte a v => exact .write (.byte a v) rfl rfl
  | word a v => exact .write (.word a v) rfl rfl
  | idle _ hstep => exact .still (congrArg Machine.memory hstep)
  | @operation _ operation _ hstep =>
      rcases operation.perform_cases m with hstill | ⟨a, n, m₁, hm₁, hsave⟩
      · refine .still ?_
        rw [Step.final, hstep]
        exact hstill
      · exact .write (.word a n) hm₁ (hstep.trans hsave)

/-- The recorder hears all that a job stores. -/
lemma tells (job : Job) : Step.Unless .nestedTooDeeply
    (fun m m' => m.memory.LedBy recorder → Memory.Hears recorder m.memory m'.memory) job.step := by
  intro m hends hled
  cases ends m job with
  | still h =>
      rw [h]
      exact Memory.hears_refl _ hled
  | @write write hwrite m₁ hm₁ h =>
      -- a push begins its write when the stack pointer has moved, so not on `m` itself
      have hwritten := (hwrite.tells recorder).within Machine.memory
        (fun m memory => { m with memory }) (fun _ _ => rfl)
      have hheard := hwritten.of_eq h hends
      rw [hm₁] at hheard
      exact hheard hled

/-- Mild watchers stay mild. -/
lemma keeps_isMild (job : Job) : Step.Keeps (fun m => m.memory.IsMild) job.step := by
  intro m hmild
  cases ends m job with
  | still h =>
      rw [h]
      exact hmild
  | @write write hwrite m₁ hm₁ h =>
      have hwritten := hwrite.keeps_isMild m₁.memory (by rwa [hm₁])
      rw [Step.final, h, ← Step.final, onMemory, Step.final_within]
      exact hwritten

end Job

/-- The machine is given one job after the other, and becomes another machine.  No job is given up
because stores nest too deeply. -/
inductive Does : Machine → List Job → Machine → Prop
  | nil (m : Machine) : Does m [] m
  | cons {m m' : Machine} {job : Job} {jobs : List Job}
    (returns : Step.outcome job.step m ≠ .error .nestedTooDeeply)
    (rest : Does (Step.final job.step m) jobs m') : Does m (job :: jobs) m'

/-- The recorder hears all that the jobs store, by induction on the list of them. -/
lemma Does.hears {jobs : List Job} (h : Does m jobs m') (hled : m.memory.LedBy recorder) :
    Memory.Hears recorder m.memory m'.memory := by
  induction h with
  | nil m => exact Memory.hears_refl m.memory hled
  | cons returns _ ih =>
      have hjob := Job.tells _ _ returns hled
      exact hjob.trans (ih hjob.led)

lemma Does.isMild {jobs : List Job} (h : Does m jobs m') (hmild : m.memory.IsMild) :
    m'.memory.IsMild := by
  induction h with
  | nil => exact hmild
  | cons _ _ ih => exact ih (Job.keeps_isMild _ _ hmild)

/-! ## Jobs that fail -/

/-- A job that fails has failed before anything was stored. -/
lemma Job.memory_of_error (h : m.memory.Returning) {job : Job} {e : Error}
    (herror : job.step m = .error e m') : m'.memory = m.memory := by
  cases ends m job with
  | still hstill => rwa [Step.final_of_error herror] at hstill
  | @write write hwrite m₁ hm₁ hstep =>
      obtain ⟨memory, hwritten, rfl⟩ := exists_of_onMemory_eq_error (hstep.symm.trans herror)
      exact (hwrite.spares (by rwa [hm₁]) _ _ hwritten).trans hm₁

/-! ## Jobs that succeed -/

/-- The recorder has heard of one store into each of the cells, in order. -/
def Adds (recorder : Text) (m m' : Machine) (cells : List Int) : Prop :=
  ∃ changes, m'.memory.heard recorder = m.memory.heard recorder ++ changes ∧
    changes.map (fun change => (change.address : Int)) = cells

lemma adds_nil (h : m'.memory = m.memory) : Adds recorder m m' [] :=
  ⟨[], by rw [h, List.append_nil], rfl⟩

section Success

variable (hmild : m.memory.IsMild) (hled : m.memory.LedBy recorder)
include hmild hled

lemma adds_of_byte {a v : Int} (h : onMemory (Memory.writeByte a v) m = .ok () m') :
    Adds recorder m m' [a] := by
  obtain ⟨memory, hwritten, rfl⟩ := exists_of_onMemory_eq_ok h
  exact Memory.heard_of_writeByte hmild hled hwritten

lemma adds_of_word {a n : Int} (h : onMemory (Memory.writeWord a n) m = .ok () m') :
    Adds recorder m m' [a, a + 1] := by
  obtain ⟨memory, hwritten, rfl⟩ := exists_of_onMemory_eq_ok h
  exact Memory.heard_of_writeWord hmild hled hwritten

/-- A move into memory and a push store two cells, all other operations none. -/
lemma adds_of_effect {operation : Operation} (he : Operation.Effect m operation m') :
    Adds recorder m m' (operation.cells m) := by
  cases he with
  | store hdest _ hstored =>
      obtain ⟨hbracketed, ha⟩ := means_memory_iff.1 hdest
      rw [Operation.cells, if_pos hbracketed, ha]
      exact adds_of_word hmild hled hstored
  | push _ hstored =>
      exact adds_of_word (m := m.put .sp (m.valueAt .sp - 2)) hmild hled hstored
  | move hdest _ | load hdest _ _ =>
      rw [Operation.cells, if_neg (by simp [(resolved_register hdest).1])]
      exact adds_nil rfl
  | _ => exact adds_nil rfl

/-- **A job that succeeds** tells the recorder of its own cells, once each. -/
lemma adds_of_job {job : Job} (h : job.step m = .ok () m') :
    Adds recorder m m' (job.cells m) := by
  cases Job.way m job with
  | byte a v => exact adds_of_byte hmild hled h
  | word a v => exact adds_of_word hmild hled h
  | operation hcells hstep =>
      rw [hcells]
      exact adds_of_effect hmild hled (Operation.perform_eq_ok_iff.1 (hstep.symm.trans h))
  | idle hcells hstep =>
      rw [hcells]
      rw [Step.final_of_ok h] at hstep
      exact adds_nil (congrArg Machine.memory hstep)

end Success

/-- **The journal is complete.**  A recorder that is in front of all other watchers hears, on the way
through any jobs, changes that replay into the cells as they are then, each with what its cell had
at that moment; other watchers may come, go and store bytes as they like, as long as nobody touches
the recorder's subscription and no job is given up because stores nest too deeply.  At any point on
the way, a job that fails leaves memory and journal as they were if watchers return from what is
written.  Watchers that only come and go do return; then a job that succeeds is heard of as one
store into each of its own cells: for a move into memory or a push two cells, one after the other,
and for all other instructions none. -/
theorem journal_is_complete {jobs : List Job} (hled : m.memory.LedBy recorder)
    (hdone : Does m jobs m') :
    (∃ changes, m'.memory.heard recorder = m.memory.heard recorder ++ changes ∧
        m.memory.cells.Replays changes m'.memory.cells) ∧
      (m'.memory.Returning → ∀ job e m'', Job.step job m' = .error e m'' →
        m''.memory = m'.memory) ∧
      (m.memory.IsMild → m'.memory.Returning ∧
        ∀ job m'', Job.step job m' = .ok () m'' → Adds recorder m' m'' (job.cells m')) := by
  have hhears := hdone.hears hled
  refine ⟨hhears.replays, fun hreturning job e m'' => Job.memory_of_error hreturning,
    fun hmild => ?_⟩
  have hstays := hdone.isMild hmild
  exact ⟨Memory.returning_of_mild hstays, fun job m'' => adds_of_job hstays hhears.led⟩

/-- Memory of sixteen cells.  Behind the recorder is a watcher that stores a byte two cells further
on whenever it hears of a store. -/
def echoing : Machine :=
  { memory := ((Memory.blank 16).subscribe (Watcher.recorder ['l', 'o', 'g'])).subscribe
      (Watcher.echo ['e'] 2 8) }

/-- Behind the recorder are a watcher that leaves at once and one that brings another. -/
def visited : Machine :=
  { memory := (((Memory.blank 16).subscribe (Watcher.recorder ['l', 'o', 'g'])).subscribe
      (Watcher.once ['o'])).subscribe (Watcher.recruiter ['r'] ['s']) }

lemma shuns_echo : ∀ change, ∀ reaction ∈ (Watcher.echo ['e'] 2 8).react change,
    reaction.Shuns ['l', 'o', 'g'] := by
  intro change reaction hreaction
  simp only [Watcher.echo] at hreaction
  split at hreaction
  · simp only [List.mem_cons, List.not_mem_nil, or_false] at hreaction
    rcases hreaction with rfl | rfl | rfl
    · exact .unsubscribe (by decide)
    · exact .write _ _
    · exact .subscribe (by decide) (by simp)
  · cases hreaction

lemma led_blank (size : Nat) (recorder : Text) :
    ((Memory.blank size).subscribe (Watcher.recorder recorder)).LedBy recorder where
  first := ⟨[], rfl, List.not_mem_nil⟩
  silent change := Memory.reactions_eq_nil (fun w hw _ => by
    obtain rfl := List.mem_singleton.1 hw
    rfl) _ _
  shunned := Memory.reactions_of_known fun w hw change => by
    obtain rfl := List.mem_singleton.1 hw
    simp [Watcher.recorder]

lemma led_echoing : echoing.memory.LedBy ['l', 'o', 'g'] :=
  (led_blank 16 _).subscribe (by decide) shuns_echo

lemma led_visited : visited.memory.LedBy ['l', 'o', 'g'] := by
  refine ((led_blank 16 _).subscribe (by decide) ?_).subscribe (by decide) ?_
  · simp only [Watcher.once, List.mem_singleton, forall_eq]
    exact fun _ => .unsubscribe (by decide)
  · simp only [Watcher.recruiter, List.mem_singleton, forall_eq]
    exact fun _ => .subscribe (by decide) (by simp)

lemma mild_visited : visited.memory.IsMild := by
  refine Memory.reactions_of_known fun w hw change reaction hreaction => ?_
  have hknown : visited.memory.known =
      [Watcher.recorder ['l', 'o', 'g'], Watcher.once ['o'], Watcher.recruiter ['r'] ['s']] := rfl
  simp only [hknown, List.mem_cons, List.not_mem_nil, or_false] at hw
  rcases hw with rfl | rfl | rfl
  · simp [Watcher.recorder] at hreaction
  · simp only [Watcher.once, List.mem_singleton] at hreaction
    rw [hreaction]
    exact .unsubscribe _
  · simp only [Watcher.recruiter, List.mem_singleton] at hreaction
    rw [hreaction]
    exact .subscribe (by simp)

/-- A move into memory, a byte that is beyond its end, and a word. -/
def errands : List Job :=
  [.line ['m', 'o', 'v', ' ', '[', '0', ']', ',', '5', '1', '3'], .byte 16 0, .word 6 (-1)]

/-- What the other watcher stores is heard between the two bytes of a word; watchers that come and
go change nothing. -/
theorem stores_under_watchers_are_heard :
    (∃ m', Does echoing errands m' ∧
        m'.memory.heard ['l', 'o', 'g'] =
          [⟨0, 0, 1⟩, ⟨2, 0, 2⟩, ⟨1, 0, 2⟩, ⟨3, 0, 3⟩, ⟨6, 0, 255⟩, ⟨7, 0, 255⟩] ∧
        (Cells.blank 16).Replays (m'.memory.heard ['l', 'o', 'g']) m'.memory.cells) ∧
      (∃ m', Job.step (.line ['m', 'o', 'v', ' ', '[', '4', ']', ',', 'a', 'x']) visited =
          .ok () m' ∧ Adds ['l', 'o', 'g'] visited m' [4, 5]) ∧
      ∃ e m', Job.step (.word 15 7) visited = .error e m' ∧ m'.memory = visited.memory := by
  have hdone : Does echoing errands _ :=
    .cons (by exact nofun) (.cons (by exact nofun) (.cons (by exact nofun) (.nil _)))
  obtain ⟨⟨changes, hheard, hreplays⟩, -⟩ := journal_is_complete led_echoing hdone
  obtain ⟨-, hfailing, hmild⟩ := journal_is_complete led_visited (.nil visited)
  obtain ⟨hreturning, hadds⟩ := hmild mild_visited
  refine ⟨⟨_, hdone, rfl, ?_⟩,
    ⟨_, rfl, hadds (.line ['m', 'o', 'v', ' ', '[', '4', ']', ',', 'a', 'x']) _ rfl⟩,
    ⟨_, _, rfl, hfailing hreturning (.word 15 7) _ _ rfl⟩⟩
  rw [hheard]
  exact hreplays

end Machine
end Asm16

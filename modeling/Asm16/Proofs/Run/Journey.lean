import Asm16.Proofs.Run.Move
import Asm16.Proofs.Run.Course
import Asm16.Proofs.Run.Place

/-!
# Wherever a run comes to

Two invariants of a run among courteous hooks and courteous others, each kept by a leg and by the
demands met at a suspension, and so true of every place that the run comes to.

* `Unmoved` — what neither hooks nor lines touch is as it was when the run was accepted
  (`unmoved_leg`, `Demand.unmoved_meetAll`).
* `StandsAt` — machine and counters are those of plain interpretation of the first lines, and how
  many these are can be told from the place (`StandsAt.onward`, `StandsAt.waits`).
* `Comes.standsAt` — both, wherever a run comes to.
-/

namespace Asm16
namespace Scheduler

variable {source : Text} {s t u : Scheduler} {place next : Place} {met : List (List Demand)}

/-! ## What is untouched -/

/-- The demand is for what a scheduler offers to everybody. -/
def Demand.IsCourteous : Demand → Prop
  | .run _ => True
  | .control request => (HookAction.control request).IsCourteous

/-- All that courteous demands come to while a run is in progress. -/
lemma Demand.meet_of_busy {demand : Demand} (hdemand : demand.IsCourteous) (hb : s.isBusy = true) :
    demand.meet s = s ∨ demand.meet s = s.stop ∨ demand.meet s = s.write rejectedEntries := by
  cases demand with
  | run source => exact .inr (.inr (Step.final_of_ok (begin_of_busy source hb)))
  | control request =>
      cases request with
      | stop => exact .inr (.inl rfl)
      | reset =>
          have hreset : Scheduler.control .reset s = .error .busy s := by
            simp only [Scheduler.control, controlWith, Step.bind_apply, resetWith_of_busy hb]
          exact .inl (Step.final_of_error hreset)
      | isBusy => exact .inl rfl
      | _ => exact absurd hdemand id

lemma Demand.steered_meet {P : Event → Prop} {demand : Demand} (hdemand : demand.IsCourteous)
    (hb : s.isBusy = true) : Steered P s (demand.meet s) := by
  rcases meet_of_busy hdemand hb with h | h | h <;> rw [h]
  · exact .refl s
  · exact .stop s
  · exact ⟨rfl, rfl, rfl, rfl, rfl, rfl, .refl _, .inl rfl, .of_told_eq rfl⟩

lemma Demand.steered_meetAll {P : Event → Prop} : ∀ (demands : List Demand) {s : Scheduler},
    (∀ demand ∈ demands, demand.IsCourteous) → s.isBusy = true → Steered P s (meetAll demands s)
  | [], s, _, _ => .refl s
  | demand :: rest, s, hdemands, hb => by
      have hmeet := steered_meet (P := P) (hdemands demand (by simp)) hb
      exact hmeet.trans (steered_meetAll rest (fun other hother => hdemands other (by simp [hother]))
        (hmeet.isBusy hb))

variable {allowed : HookAction → Prop}

lemma Demand.unmoved_meetAll : ∀ (demands : List Demand) {s : Scheduler},
    (∀ demand ∈ demands, demand.IsCourteous) → s.isBusy = true →
      Unmoved allowed s (meetAll demands s)
  | [], s, _, _ => .refl s
  | demand :: rest, s, hdemands, hb => by
      have hdemand := hdemands demand (by simp)
      have hmeet : Unmoved allowed s (demand.meet s) := by
        rcases meet_of_busy hdemand hb with h | h | h <;> rw [h]
        · exact .refl s
        · exact .stop s
        · exact .of_eq rfl rfl rfl rfl rfl
      have hbusy := (steered_meet (P := fun _ => True) hdemand hb).isBusy hb
      exact hmeet.trans
        (unmoved_meetAll rest (fun other hother => hdemands other (by simp [hother])) hbusy)

lemma failures_absorb (s : Scheduler) (m : Machine) : (s.absorb m).failures = s.failures := by
  have hnone : (m.memory.journal.map Event.notice).filterMap Event.failure? = [] := by
    rw [List.filterMap_map]
    exact List.filterMap_eq_nil_iff.2 fun _ _ => rfl
  rw [failures, events_absorb, List.filterMap_append, hnone, List.append_nil, failures]

lemma carried_executeLine (line : Text) (s : Scheduler) :
    Carried s (Step.final (executeLine line) s) := by
  rw [Step.final, executeLine_apply]
  cases Machine.executeLine line s.machine <;> exact carried_absorb line s _

variable (allowed) in
lemma unmoved_executeLine (line : Text) (s : Scheduler) :
    Unmoved allowed s (Step.final (executeLine line) s) := by
  have habsorb : ∀ m, Unmoved allowed s ((s.write (lineAnnouncement line)).absorb m) := fun m =>
    .of_eq rfl rfl rfl rfl (failures_absorb _ _)
  rw [Step.final, executeLine_apply]
  cases Machine.executeLine line s.machine <;> exact habsorb _

variable (allowed) in
/-- A line that ends in an error ends in it on the machine, and the rest is as after any line. -/
lemma exists_of_executeLine_error {line : Text} {e : Error} (h : executeLine line s = .error e t) :
    ∃ m, Machine.executeLine line s.machine = .error e m ∧ Carried s t ∧ Unmoved allowed s t := by
  have hcarried := carried_executeLine line s
  have hunmoved := unmoved_executeLine allowed line s
  rw [Step.final_of_error h] at hcarried hunmoved
  rw [executeLine_apply] at h
  cases hm : Machine.executeLine line s.machine with
  | ok i? m => rw [hm] at h; cases h
  | error e' m => rw [hm] at h; cases h; exact ⟨m, rfl, hcarried, hunmoved⟩

/-- A line of the program is a line of its source. -/
lemma lines_of_line? {i : Nat} {line : Text} (h : (Program.load source).line? i = some line) :
    (Text.lines source)[i]? = some line := by
  rw [Program.line?_natCast] at h
  rw [← h]
  exact Array.getElem?_toList

/-- A line of a run, with all that follows it. -/
lemma runLine_of_line? {program : Program} {i : Int} {line : Text}
    (hline : program.line? i = some line) (s : Scheduler) :
    runLine program i s =
      match executeLine line s with
      | .ok none t => .ok none t
      | .ok (some _) t =>
        match publish { t with executed := t.executed + 1 } with
        | .ok () u => .ok none u
        | .error e u => .error e u
      | .error (.fault fault) t =>
        match fail program ⟨i + 1, fault⟩ { t with processed := i } with
        | .ok result u => .ok (some result) u
        | .error e u => .error e u
      | .error e t => .error e t := by
  simp only [runLine, hline, Step.bind_apply, Step.attempt]
  cases executeLine line s with
  | ok i? t =>
      cases i? with
      | none => rfl
      | some instruction =>
          simp only [Step.bind_apply, Step.modify_apply]
          generalize publish _ = r
          cases r <;> rfl
  | error e t =>
      cases e with
      | fault fault =>
          simp only [Step.bind_apply, Step.modify_apply]
          generalize fail program _ _ = r
          cases r <;> rfl
      | _ => rfl

lemma runLine_of_no_line {program : Program} {i : Int} (hline : program.line? i = none)
    (s : Scheduler) : runLine program i s = .error (.noSuchLine i) s := by
  simp only [runLine, hline, Step.throw_apply]

/-- A line after which the run goes on. -/
lemma exists_of_runLine {program : Program} {i : Int} (h : runLine program i s = .ok none t) :
    ∃ line i? u, program.line? i = some line ∧ executeLine line s = .ok i? u ∧
      (i? = none ∧ t = u ∨
        i?.isSome = true ∧ publish { u with executed := u.executed + 1 } = .ok () t) := by
  cases hline : program.line? i with
  | none => rw [runLine_of_no_line hline] at h; cases h
  | some line =>
      rw [runLine_of_line? hline] at h
      cases he : executeLine line s with
      | error e u =>
          rw [he] at h
          cases e with
          | fault fault => simp only at h; split at h <;> cases h
          | _ => cases h
      | ok i? u =>
          rw [he] at h
          cases i? with
          | none => cases h; exact ⟨line, none, _, rfl, he, .inl ⟨rfl, rfl⟩⟩
          | some instruction =>
              simp only at h
              split at h <;> cases h
              next hp => exact ⟨line, some instruction, u, rfl, he, .inr ⟨rfl, hp⟩⟩

/-- The run is over at a failed line, and hooks are yet to hear of it. -/
def failing (f : Failure) (s : Scheduler) : Scheduler :=
  (s.write (s.failureLog f)).enter .haltedError

lemma failing_eq (f : Failure) (s : Scheduler) :
    ∃ logged trail, s.failing f = { s with runState := .haltedError, logged, trail } := by
  rw [failing, enter_eq]
  exact ⟨_, _, rfl⟩

variable (allowed) in
lemma unmoved_failing (f : Failure) (s : Scheduler) : Unmoved allowed s (s.failing f) := by
  obtain ⟨logged, trail, h⟩ := failing_eq f s
  rw [h]
  exact .of_eq rfl rfl rfl rfl rfl

/-- A failure is published, then it is reported, and then the account is made. -/
lemma fail_eq (program : Program) (f : Failure) (s : Scheduler) :
    fail program f s =
      match publish (s.failing f) with
      | .ok () t =>
        match callHook publish .failure (.failure f.line f.fault.message) t with
        | .ok () u => .ok (u.result program .failed (some f)) u
        | .error e u => .error e u
      | .error e t => .error e t := by
  simp only [fail, Step.bind_apply, Step.modify_apply, Step.get_apply, Step.pure_apply]
  rw [← failing]
  cases publish (s.failing f) with
  | error e t => rfl
  | ok _ t =>
      simp only
      generalize callHook publish .failure _ t = r
      cases r <;> rfl

/-- What a leg is made of, as long as the run goes on. -/
inductive Piece : Scheduler → Scheduler → Prop
  | shown {s t : Scheduler} (h : publish s = .ok () t) : Piece s t
  | reported {s t : Scheduler} {done : Int} {total : Nat}
      (h : callHook publish .progress (.progress done total) s = .ok () t) : Piece s t
  | carried {s t : Scheduler} {line : Text} {i? : Option Instruction}
      (h : executeLine line s = .ok i? t) : Piece s t
  /-- Counters are set and the log is written. -/
  | counted (s : Scheduler) (executed : Nat) (processed : Int) (total : Nat) (logged : Log) :
      Piece s { s with executed, processed, total, logged }

/-- **A leg after which the run goes on** is made of pieces. -/
theorem pieces_leg {l : Leg} (hleg : place.leg source s = .ok l t)
    (hgoes : ∀ result, l ≠ .ended result) : Relation.ReflTransGen Piece s t := by
  cases Place.passes_of_leg hleg with
  | opened hp => exact .tail (.single (.shown hp)) (.counted ..)
  | begun => exact .refl
  | cancelled | completed | failed => exact absurd rfl (hgoes _)
  | carried _ hr =>
      obtain ⟨line, i?, v, -, hv, ⟨-, rfl⟩ | ⟨-, hp⟩⟩ := exists_of_runLine hr
      · exact .single (.carried hv)
      · exact .tail (.tail (.single (.carried hv)) (.counted ..)) (.shown hp)
  | batchDone _ he => exact .tail (.single (.counted s s.executed _ s.total s.logged)) (.reported he)

variable (hcourteous : ∀ a, allowed a → a.IsCourteous)

include hcourteous in
lemma Piece.unmoved (h : s.hooks.Only allowed) (hpiece : Piece s t) : Unmoved allowed s t := by
  cases hpiece with
  | shown hp =>
      have hheard := heard_publish hcourteous h
      rw [Step.final_of_ok hp] at hheard
      exact hheard.unmoved rfl
  | @reported _ done total hr =>
      have hheard := heard_callHook hcourteous .progress (.progress done total) h
      rw [Step.final_of_ok hr] at hheard
      exact hheard.unmoved rfl
  | @carried _ line i? he =>
      have hunmoved := unmoved_executeLine allowed line s
      rw [Step.final_of_ok he] at hunmoved
      exact hunmoved
  | counted => exact .of_eq rfl rfl rfl rfl rfl

include hcourteous in
/-- A leg after which the run goes on leaves untouched what hooks and lines do not touch. -/
lemma unmoved_leg (h : s.hooks.Only allowed) {l : Leg} (hleg : place.leg source s = .ok l t)
    (hgoes : ∀ result, l ≠ .ended result) : Unmoved allowed s t := by
  have hpieces := pieces_leg hleg hgoes
  clear hleg
  induction hpieces with
  | refl => exact .refl s
  | tail _ hpiece ih => exact ih.trans (hpiece.unmoved hcourteous (h.of_within ih.hooks))

/-! ## Where machine and counters stand -/

/-- A line takes the machine one line further on its course, however it ends. -/
lemma OnCourse.machine_executeLine {start : Machine} {i : Nat} {line : Text}
    (h : OnCourse start (Program.load source) i t)
    (hline : (Program.load source).line? i = some line) :
    (Step.final (executeLine line) t).machine =
      (start.upTo (Text.lines source) (i + 1)).machine := by
  have hmachine : t.machine = (start.upTo (Text.lines source) i).machine := h.machine
  rw [Machine.upTo_succ (lines_of_line? hline) h.done, ← hmachine,
    Interpretation.followedBy_machine, Machine.interpretLine, Step.final, executeLine_apply]
  cases Machine.executeLine line t.machine with
  | ok i? m => cases i? <;> rfl
  | error e m => cases e <;> rfl

/-- The number of lines in the first batches. -/
def linesIn (program : Program) (size : Int) (batches : Nat) : Nat :=
  min program.size (batches * size.toNat)

lemma linesIn_zero (program : Program) (size : Int) : linesIn program size 0 = 0 := by
  rw [linesIn, Nat.zero_mul, Nat.min_zero]

lemma linesIn_le (program : Program) (size : Int) (batches : Nat) :
    linesIn program size batches ≤ program.size := Nat.min_le_left _ _

/-- In a batch there is a line to be carried out. -/
lemma exists_line_of_lt {program : Program} {size : Int} {batches i : Nat}
    (hlt : (i : Int) < linesIn program size batches) : ∃ line, program.line? i = some line := by
  have hi : i < program.size := by
    have := linesIn_le program size batches
    omega
  rw [Program.line?_natCast]
  exact ⟨_, Array.getElem?_eq_getElem hi⟩

/-- One more batch. -/
lemma linesIn_succ (program : Program) {size : Int} (hsize : 1 ≤ size) (batches : Nat) :
    (linesIn program size (batches + 1) : Int) =
      min (linesIn program size batches + size) program.size := by
  have hbatches : (batches + 1) * size.toNat = batches * size.toNat + size.toNat := Nat.succ_mul _ _
  simp only [linesIn, hbatches]
  omega

/-- Where machine and counters of a run stand at a place, with so many batches done. -/
def StandsAt (start : Machine) (program : Program) (size : Int) (batches : Nat) :
    Place → Scheduler → Prop
  | .opening, t => batches = 0 ∧ t.runState = .running ∧ t.hooks.Courteous ∧ t.machine = start
  | .pause, t => OnCourse start program (linesIn program size batches) t ∧
      t.processed = linesIn program size batches
  | .line next stop, t => ∃ i : Nat, next = i ∧ stop = linesIn program size (batches + 1) ∧
      linesIn program size batches ≤ i ∧ i ≤ linesIn program size (batches + 1) ∧
      OnCourse start program i t ∧ (t.runState = .stopping → linesIn program size batches < i)

variable {start : Machine} {size : Int} {batches : Nat}

lemma StandsAt.isBusy (h : StandsAt start (Program.load source) size batches place t) :
    t.isBusy = true := by
  cases place with
  | opening => rw [Scheduler.isBusy, h.2.1]; rfl
  | pause => exact h.1.busy
  | line next stop =>
      obtain ⟨i, -, -, -, -, hcourse, -⟩ := h
      exact hcourse.busy

lemma StandsAt.courteous (h : StandsAt start (Program.load source) size batches place t) :
    t.hooks.Courteous := by
  cases place with
  | opening => exact h.2.2.1
  | pause => exact h.1.courteous
  | line next stop =>
      obtain ⟨i, -, -, -, -, hcourse, -⟩ := h
      exact hcourse.courteous

/-- **A leg takes a run on its course.** -/
theorem StandsAt.onward (hsize : 1 ≤ size) (hbatch : t.batchSize = size)
    (h : StandsAt start (Program.load source) size batches place t)
    (hleg : place.leg source t = .ok (.onward next) u) :
    StandsAt start (Program.load source) size batches next u := by
  cases Place.passes_of_leg hleg with
  | opened hp =>
      obtain ⟨rfl, hrunning, hc, rfl⟩ := h
      have hb : t.isBusy = true := by rw [Scheduler.isBusy, hrunning]; rfl
      have hsteered := steered_publish (P := fun _ => True) trivial trivial hb hc
      rw [Step.final_of_ok hp] at hsteered
      rw [StandsAt, linesIn_zero]
      have hhooks := hc.of_within hsteered.hooks
      exact ⟨⟨hsteered.isBusy hb, hhooks, rfl, rfl, hsteered.machine, rfl⟩, rfl⟩
  | begun hleft hrunning =>
      obtain ⟨hcourse, hprocessed⟩ := h
      refine ⟨linesIn (Program.load source) size batches, hprocessed, ?_, Nat.le_refl _, ?_, hcourse,
        fun hstopping => ?_⟩
      · rw [linesIn_succ _ hsize, hprocessed, hcourse.total, hbatch]
      · have := linesIn_succ (Program.load source) hsize batches
        have := linesIn_le (Program.load source) size batches
        omega
      · rw [hrunning] at hstopping
        cases hstopping
  | carried hlt hr =>
      obtain ⟨i, rfl, hstop, hfirst, hlast, hcourse, hstopping⟩ := h
      have hi : i < linesIn (Program.load source) size (batches + 1) := by omega
      have hline := runLine_onCourse (Nat.lt_of_lt_of_le hi (linesIn_le _ _ _)) hcourse (.refl t)
      rw [hr] at hline
      exact ⟨i + 1, by omega, hstop, by omega, by omega, hline.1, fun _ => by omega⟩

/-- **The end of a batch** has one more batch done. -/
theorem StandsAt.waits (h : StandsAt start (Program.load source) size batches place t)
    (hleg : place.leg source t = .ok .waits u) :
    StandsAt start (Program.load source) size (batches + 1) .pause u := by
  cases Place.passes_of_leg hleg with
  | batchDone hle he =>
      obtain ⟨i, rfl, rfl, hfirst, hlast, hcourse, -⟩ := h
      obtain rfl : i = linesIn (Program.load source) size (batches + 1) := by omega
      set counted := { t with processed := (linesIn (Program.load source) size (batches + 1) : Int) }
      have hcourse' : OnCourse start (Program.load source)
          (linesIn (Program.load source) size (batches + 1)) counted :=
        ⟨hcourse.busy, hcourse.courteous, hcourse.total, hcourse.done, hcourse.machine,
          hcourse.executed⟩
      have hsteered : Steered (fun _ => True) counted
          (Step.final (endBatch (linesIn (Program.load source) size (batches + 1))) t) :=
        steered_callHook trivial _ trivial publish .progress hcourse'.busy hcourse'.courteous
      rw [Step.final_of_ok he] at hsteered
      exact ⟨hcourse'.steered hsteered, hsteered.processed⟩

/-- Others do not divert a run that waits. -/
lemma StandsAt.meetAll (h : StandsAt start (Program.load source) size batches .pause t)
    {demands : List Demand} (hdemands : ∀ demand ∈ demands, demand.IsCourteous) :
    StandsAt start (Program.load source) size batches .pause (Demand.meetAll demands t) := by
  have hsteered := Demand.steered_meetAll (P := fun _ => True) demands hdemands h.1.busy
  exact ⟨h.1.steered hsteered, hsteered.processed.trans h.2⟩

/-! ## Whole runs -/

variable (allowed) in
lemma unmoved_accepted (s : Scheduler) :
    Unmoved allowed s { s.enter .running with machine := s.machine.reset } :=
  (Unmoved.enter .running s).trans (.of_eq rfl rfl rfl rfl rfl)

include hcourteous in
/-- **Wherever a run comes to**, it stands on its course, and what neither hooks nor lines touch is as
it was when the run was accepted. -/
theorem Comes.standsAt (h : Comes source s met place t) (hhooks : s.hooks.Only allowed)
    (hsize : 1 ≤ s.batchSize) (hmet : ∀ demands ∈ met, ∀ demand ∈ demands, demand.IsCourteous) :
    StandsAt s.machine.reset (Program.load source) s.batchSize met.length place t ∧
      Unmoved allowed s t := by
  induction h with
  | accepted =>
      have hunmoved := unmoved_accepted allowed s
      have hc : s.hooks.Courteous := hhooks.mono hcourteous
      exact ⟨⟨rfl, runState_enter _ _, hc.of_within hunmoved.hooks, rfl⟩, hunmoved⟩
  | onward _ hleg ih =>
      obtain ⟨hstands, hunmoved⟩ := ih hmet
      have hhere := hhooks.of_within hunmoved.hooks
      exact ⟨hstands.onward hsize hunmoved.batchSize hleg,
        hunmoved.trans (unmoved_leg hcourteous hhere hleg (by simp))⟩
  | resumed demands _ hleg ih =>
      obtain ⟨hstands, hunmoved⟩ := ih fun ds hds => hmet ds (by simp [hds])
      have hhere := hhooks.of_within hunmoved.hooks
      have hdemands := hmet demands (by simp)
      have hwaits := hstands.waits hleg
      rw [List.length_append, List.length_singleton]
      exact ⟨hwaits.meetAll hdemands,
        (hunmoved.trans (unmoved_leg hcourteous hhere hleg (by simp))).trans
          (Demand.unmoved_meetAll demands hdemands hwaits.isBusy)⟩

end Scheduler
end Asm16

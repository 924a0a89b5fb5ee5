import Asm16.Proofs.Run.Call
import Asm16.Proofs.Run.Failure
import Asm16.Proofs.Run.Loop

/-!
# Counters at rest

Instructions are counted one by one, lines at the end of a batch and at a line that fails.  So the
counters are in step between two batches and after every run that comes to an end, but not in the
middle of a batch, and an error that goes through the run there leaves them as it finds them.

* `Standing.Counts` — what the counters of a standing count; `Standing.InStep`, if it is the same
  lines, and `Standing.Tidy`, if they are in the order in which everybody expects them.
* `Tallies`, `Tallies.onward` — counters and place of a run within a turn, which a leg keeps.
* `Cuts`, `Cuts.counts` — a batch that is cut short, and the counters that it leaves.
* `Tallies.cases_of_last`, `Shared.reckoned`, `Shared.reckoned_after` — what a turn, a happening and
  any number of them make of the counters.
* `counters_at_rest` — the result: counters are out of order just where a cut batch left them so.
-/

namespace Asm16

/-! ## What counters say -/

namespace Standing

variable {s t : Standing} {lines : List Text} {done carried : Nat}

/-- The numbers of instructions executed, of lines processed, and of lines in all. -/
def counters (t : Standing) : Nat × Int × Nat := (t.executed, t.processed, t.total)

/-- No more instructions are counted than lines, and no more lines than there are. -/
def Tidy (t : Standing) : Prop := (t.executed : Int) ≤ t.processed ∧ t.processed ≤ t.total

instance (t : Standing) : Decidable t.Tidy := inferInstanceAs (Decidable (_ ∧ _))

/-- Of these lines the first `done` are counted, and the instructions in the first `carried`. -/
structure Counts (t : Standing) (lines : List Text) (done carried : Nat) : Prop where
  done_le : done ≤ carried
  carried_le : carried ≤ lines.length
  counters : t.counters = ((lines.take carried).countP holdsInstruction, (done : Int), lines.length)

/-- Lines and instructions are counted of the same lines. -/
def InStep (t : Standing) : Prop := ∃ lines done, t.Counts lines done done

lemma tidy_congr (h : t.counters = s.counters) : t.Tidy ↔ s.Tidy := by
  simp only [counters, Prod.mk.injEq] at h
  simp only [Tidy, h]

lemma Counts.congr (h : s.Counts lines done carried) (hsame : t.counters = s.counters) :
    t.Counts lines done carried := ⟨h.done_le, h.carried_le, hsame.trans h.counters⟩

lemma InStep.congr (h : s.InStep) (hsame : t.counters = s.counters) : t.InStep := by
  obtain ⟨lines, done, h⟩ := h
  exact ⟨lines, done, h.congr hsame⟩

lemma Counts.values (h : t.Counts lines done carried) :
    t.executed = (lines.take carried).countP holdsInstruction ∧ t.processed = done ∧
      t.total = lines.length := by
  simpa only [Standing.counters, Prod.mk.injEq] using h.counters

/-- The counters are tidy unless there are more instructions than counted lines. -/
lemma Counts.tidy_iff (h : t.Counts lines done carried) :
    t.Tidy ↔ (lines.take carried).countP holdsInstruction ≤ done := by
  obtain ⟨hexecuted, hprocessed, htotal⟩ := h.values
  have hdone := h.done_le.trans h.carried_le
  rw [Tidy, hexecuted, hprocessed, htotal]
  omega

lemma Counts.executed_le (h : t.Counts lines done carried) : t.executed ≤ carried := by
  rw [h.values.1]
  exact List.countP_le_length.trans (List.length_take_le _ _)

/-- The counters count no more lines and no more instructions than there are lines, and of these no
more than a batch ahead of those. -/
def Bounded (size : Int) (t : Standing) : Prop :=
  0 ≤ t.processed ∧ t.processed ≤ t.total ∧ t.executed ≤ t.total ∧ t.executed ≤ t.processed + size

lemma Tidy.bounded {size : Int} (hsize : 1 ≤ size) (h : t.Tidy) : t.Bounded size := by
  obtain ⟨hexecuted, hprocessed⟩ := h
  refine ⟨?_, hprocessed, ?_, ?_⟩ <;> omega

lemma Counts.bounded {size : Int} (hbatch : (carried : Int) ≤ done + size)
    (h : t.Counts lines done carried) : t.Bounded size := by
  obtain ⟨-, hprocessed, htotal⟩ := h.values
  have hexecuted := h.executed_le
  have hdone := h.done_le
  have hcarried := h.carried_le
  refine ⟨?_, ?_, ?_, ?_⟩ <;> omega

lemma InStep.tidy (h : t.InStep) : t.Tidy := by
  obtain ⟨lines, done, h⟩ := h
  exact h.tidy_iff.2 (h.values.1 ▸ h.executed_le)

/-- How counters come about: they are what they were, or they are in step, or a batch was cut short
in the given way. -/
inductive Reckoned (before : Nat × Int × Nat) (cut : Text → Nat → Nat → Prop) (t : Standing) : Prop
  | kept (h : t.counters = before)
  | inStep (h : t.InStep)
  | cut {source : Text} {done carried : Nat} (hcut : cut source done carried)
      (h : t.Counts (Text.lines source) done carried)

lemma Reckoned.mono {before : Nat × Int × Nat} {cut cut' : Text → Nat → Nat → Prop}
    (himp : ∀ source done carried, cut source done carried → cut' source done carried)
    (h : t.Reckoned before cut) : t.Reckoned before cut' := by
  cases h with
  | kept h => exact .kept h
  | inStep h => exact .inStep h
  | cut hcut h => exact .cut (himp _ _ _ hcut) h

lemma Reckoned.congr {before : Nat × Int × Nat} {cut : Text → Nat → Nat → Prop}
    (h : s.Reckoned before cut) (hsame : t.counters = s.counters) : t.Reckoned before cut := by
  cases h with
  | kept h => exact .kept (hsame.trans h)
  | inStep h => exact .inStep (h.congr hsame)
  | cut hcut h => exact .cut hcut (h.congr hsame)

end Standing

namespace Scheduler

variable {source : Text} {start : Machine} {size : Int} {batches : Nat} {before : Nat × Int × Nat}
  {s t u v : Scheduler} {place next : Place} {call : Call} {allowed : HookAction → Prop}

/-! ## What leaves the counters alone -/

@[simp] lemma counters_enter (r : RunState) (s : Scheduler) :
    (s.enter r).counters = s.counters := by
  rw [enter_eq]
  rfl

@[simp] lemma counters_release (s : Scheduler) : s.release.counters = s.counters := by
  rw [release]
  split_ifs
  · exact counters_enter _ s
  · rfl

lemma Steered.counters {P : Event → Prop} (h : Steered P s t) : t.counters = s.counters := by
  simp only [Standing.counters, h.executed, h.processed, h.total]

lemma Carried.counters (h : Carried s t) : t.counters = s.counters := by
  rw [h.standing]

/-- What is done on the way out of a run leaves the counters alone. -/
lemma counters_turn (step : Step Scheduler Advance) (s : Scheduler) :
    (Step.final (turn step) s).counters = (Step.final step s).counters := by
  rw [Step.final, Step.final, turn]
  cases step s with
  | error e t => exact counters_release t
  | ok a t =>
      cases a with
      | suspended program => rfl
      | finished result => exact counters_release t

lemma Rests.counters (h : Rests allowed s t) :
    t.counters = s.counters ∨ t.counters = (0, 0, 0) := by
  rcases h.kept with ⟨hstanding, -⟩ | ⟨-, hcleared, -⟩
  · exact .inl (by rw [hstanding])
  · exact .inr (by rw [hcleared]; rfl)

/-- A reset leaves the counters in step, with no line to count. -/
lemma inStep_of_counters_eq_zero (h : t.counters = (0, 0, 0)) : t.InStep :=
  ⟨[], 0, Nat.le_refl 0, Nat.le_refl 0, h⟩

lemma Rests.inStep (h : Rests allowed s t) (hs : s.InStep) : t.InStep := by
  rcases h.counters with hsame | hcleared
  · exact hs.congr hsame
  · exact inStep_of_counters_eq_zero hcleared

/-- A call of a hook during a run leaves the counters alone. -/
lemma steered_make (call : Call) (hb : s.isBusy = true) (hc : s.hooks.Courteous) :
    Steered (fun _ => True) s (Step.final call.make s) := by
  cases call with
  | opened | carried | failed => exact steered_publish trivial trivial hb hc
  | reported | progressed => exact steered_callHook trivial _ trivial publish _ hb hc

/-! ## Counters of a run in its turn -/

/-- Instructions are counted up to the line that a run on its course has come to. -/
lemma OnCourse.counts {done i : Nat} (h : OnCourse start (Program.load source) i t)
    (hdone : done ≤ i) (hi : i ≤ (Program.load source).size)
    (hcounters : u.counters = (t.executed, (done : Int), t.total)) :
    u.Counts (Text.lines source) done i := by
  have hexecuted : t.executed = ((Text.lines source).take i).countP holdsInstruction := h.executed_eq
  have htotal : t.total = (Text.lines source).length := h.total
  rw [hexecuted, htotal] at hcounters
  exact ⟨hdone, hi, hcounters⟩

/-- An instruction is counted as soon as its line has been carried out. -/
lemma OnCourse.counts_carried {done i : Nat} {line : Text} {instruction : Instruction}
    (h : OnCourse start (Program.load source) i t)
    (hline : (Program.load source).line? i = some line)
    (hcarry : executeLine line t = .ok (some instruction) u) (hprocessed : t.processed = done)
    (hdone : done ≤ i) (hi : i < (Program.load source).size) :
    Standing.Counts { u with executed := u.executed + 1 }.toStanding (Text.lines source) done
      (i + 1) := by
  have hcarried := carried_executeLine line t
  rw [Step.final_of_ok hcarry] at hcarried
  have hcounts : u.Counts (Text.lines source) done i :=
    h.counts hdone (Nat.le_of_lt hi) (by rw [hcarried.counters, Standing.counters, hprocessed])
  obtain ⟨hexecuted, hprocessed', htotal⟩ := hcounts.values
  have hholds : holdsInstruction line = true := by
    rw [executeLine_apply] at hcarry
    cases hm : Machine.executeLine line t.machine <;> rw [hm] at hcarry <;> cases hcarry
    exact (Machine.isSome_of_executeLine hm).symm
  have htake : (Text.lines source).take (i + 1) = (Text.lines source).take i ++ [line] := by
    rw [List.take_add_one, lines_of_line? hline, Option.toList_some]
  refine ⟨Nat.le_succ_of_le hdone, hi, ?_⟩
  simp only [Standing.counters, hexecuted, hprocessed', htotal, htake, List.countP_append,
    List.countP_singleton, hholds, if_true]

/-- From a place and a state a leg leads onward to others. -/
def Onward (source : Text) (p q : Place × Scheduler) : Prop :=
  p.1.leg source p.2 = .ok (.onward q.1) q.2

/-- In the middle of a batch the lines before it are counted; before the run is opened the counters
are those that it found. -/
def Tally (before : Nat × Int × Nat) (done : Nat) : Place → Scheduler → Prop
  | .opening, t => t.counters = before
  | .pause, _ => True
  | .line _ _, t => t.processed = done

/-- Where a run stands at a place in its turn, and how far the lines are counted. -/
structure Tallies (source : Text) (start : Machine) (size : Int) (batches : Nat)
    (before : Nat × Int × Nat) (place : Place) (t : Scheduler) : Prop where
  stands : StandsAt start (Program.load source) size batches place t
  batchSize : t.batchSize = size
  tally : Tally before (linesIn (Program.load source) size batches) place t

/-- A line after which the run goes on is not counted yet. -/
lemma processed_of_runLine {program : Program} {i : Int} (hb : t.isBusy = true)
    (hc : t.hooks.Courteous) (h : runLine program i t = .ok none u) :
    u.processed = t.processed := by
  obtain ⟨line, i?, v, -, hline, hgoes⟩ := exists_of_runLine h
  have hcarried := carried_executeLine line t
  rw [Step.final_of_ok hline] at hcarried
  have hprocessed : v.processed = t.processed := congrArg Standing.processed hcarried.standing
  rcases hgoes with ⟨-, rfl⟩ | ⟨-, hpublish⟩
  · exact hprocessed
  · have hbusy : v.isBusy = true := by rw [isBusy, hcarried.standing]; exact hb
    have hsteered := steered_publish (P := fun _ => True)
      (s := { v with executed := v.executed + 1 }) trivial trivial hbusy (hcarried.hooks ▸ hc)
    rw [Step.final_of_ok hpublish] at hsteered
    exact hsteered.processed.trans hprocessed

/-- **A leg onward keeps the tally.** -/
theorem Tallies.onward (hsize : 1 ≤ size) (h : Tallies source start size batches before place t)
    (hleg : place.leg source t = .ok (.onward next) u) :
    Tallies source start size batches before next u := by
  have hunmoved := unmoved_leg (fun _ => id) h.stands.courteous hleg (by simp)
  refine ⟨h.stands.onward hsize h.batchSize hleg, hunmoved.batchSize.trans h.batchSize, ?_⟩
  cases Place.passes_of_leg hleg with
  | opened => trivial
  | begun => exact h.stands.2
  | carried _ hr => exact (processed_of_runLine h.stands.isBusy h.stands.courteous hr).trans h.tally

lemma Tallies.onwards (hsize : 1 ≤ size) {p q : Place × Scheduler}
    (h : Tallies source start size batches before p.1 p.2)
    (hpath : Relation.ReflTransGen (Onward source) p q) :
    Tallies source start size batches before q.1 q.2 := by
  induction hpath with
  | refl => exact h
  | tail _ hleg ih => exact ih.onward hsize hleg

/-- A turn ends as what is left of it after some legs. -/
lemma final_of_onwards {p q : Place × Scheduler}
    (hpath : Relation.ReflTransGen (Onward source) p q) :
    Step.final (p.1.remainder source) p.2 = Step.final (q.1.remainder source) q.2 := by
  induction hpath with
  | refl => rfl
  | tail _ hleg ih =>
      rw [Onward] at hleg
      rw [ih, Step.final, Place.remainder_eq, hleg]
      rfl

/-- Every turn comes to a last leg. -/
lemma exists_last_leg (source : Text) (p : Place × Scheduler) :
    ∃ q, Relation.ReflTransGen (Onward source) p q ∧ ∀ r, ¬ Onward source q r := by
  by_cases hlast : ∀ r, ¬ Onward source p r
  · exact ⟨p, .refl, hlast⟩
  · obtain ⟨r, hleg⟩ := not_forall_not.1 hlast
    have hlater := Place.later_of_onward hleg
    obtain ⟨q, hpath, hq⟩ := exists_last_leg source r
    exact ⟨q, .head hleg hpath, hq⟩
termination_by (p.1.stage, p.1.linesLeft)
decreasing_by exact hlater

/-! ## A batch that is cut short -/

/-- An error goes through the run in a batch, when `carried` lines have been carried out: a hook
gives up that hears of the last of them, or the next one lets an error through that is no fault. -/
inductive Cuts (source : Text) : Place → Scheduler → Nat → Prop
  | byHook {i : Nat} {stop : Int} {t u v : Scheduler} {e : Error}
      (hcall : Calls source (.line i stop) t (.carried i) u)
      (hraise : (Call.carried i).make u = .error e v) : Cuts source (.line i stop) t (i + 1)
  | byLine {i : Nat} {stop : Int} {line : Text} {t v : Scheduler} {e : Error} (hlt : i < stop)
      (hline : (Program.load source).line? i = some line) (h : executeLine line t = .error e v)
      (hfault : ¬ e.IsFault) : Cuts source (.line i stop) t i

/-- **A cut ends the turn**, and leaves the lines of the batch uncounted, with their instructions
counted. -/
theorem Cuts.counts {carried : Nat} (hsize : 1 ≤ size) (h : Cuts source place t carried)
    (htallies : Tallies source start size batches before place t) :
    ∃ done : Nat, t.processed = done ∧ (carried : Int) ≤ done + size ∧
      (Step.final (place.remainder source) t).Counts (Text.lines source) done carried := by
  have hle := linesIn_le (Program.load source) size (batches + 1)
  have hbatch := linesIn_succ (Program.load source) hsize batches
  cases h with
  | @byHook i _ _ u v e hcall hraise =>
      obtain ⟨j, hij, rfl, hdone, -, hcourse, -⟩ := htallies.stands
      obtain rfl : i = j := by omega
      have hunmoved := hcall.unmoved (fun _ => id) hcourse.courteous hcourse.busy
      have hsteered := steered_make (.carried i) hunmoved.2
        (hcourse.courteous.of_within hunmoved.1.hooks)
      rw [Step.final_of_error hraise] at hsteered
      rw [Step.final, Place.remainder_eq, hcall.leg_of_error hraise]
      cases hcall with
      | carried hlt hline hcarry =>
          have hcounts :=
            hcourse.counts_carried hline hcarry htallies.tally hdone (by omega)
          exact ⟨_, htallies.tally, by omega, hcounts.congr hsteered.counters⟩
  | @byLine _ _ line _ v e hlt hline hcarry hfault =>
      obtain ⟨j, hij, rfl, hdone, -, hcourse, -⟩ := htallies.stands
      obtain rfl : carried = j := by omega
      have hcarried := carried_executeLine line t
      rw [Step.final_of_error hcarry] at hcarried
      have hleg : (Place.line carried (linesIn (Program.load source) size (batches + 1))).leg
          source t = .error e v := by
        rw [Place.leg_line_of_lt hlt, runLine_of_line? hline, hcarry]
        cases e with
        | fault => exact absurd trivial hfault
        | _ => rfl
      have hprocessed : t.processed = linesIn (Program.load source) size batches := htallies.tally
      rw [Step.final, Place.remainder_eq, hleg]
      refine ⟨_, hprocessed, by omega, hcourse.counts hdone (by omega) ?_⟩
      rw [hcarried.counters, Standing.counters, hprocessed]

/-! ## The end of a turn -/

/-- When a failed line is reported the lines before it are counted, unless a hook has reset the
counters. -/
lemma Calls.inStep (h : Calls source place t call u) (hcall : call.isOfFailure = true)
    (hstands : StandsAt start (Program.load source) size batches place t) : u.InStep := by
  induction h with
  | opened | carried | progressed => cases hcall
  | @failed next stop line fault t u hlt hline hcarry =>
      obtain ⟨i, rfl, -, -, hlast, hcourse, -⟩ := hstands
      have hle := linesIn_le (Program.load source) size (batches + 1)
      have hcarried := carried_executeLine line t
      rw [Step.final_of_error hcarry] at hcarried
      refine ⟨_, i, hcourse.counts (Nat.le_refl i) (hlast.trans hle) ?_⟩
      rw [failing, counters_enter, ← hcarried.standing]
      rfl
  | @reported place f t u v h hpublish ih =>
      obtain ⟨hunmoved, hidle⟩ := h.unmoved (fun _ => id) hstands.courteous hstands.isBusy
      have hheard := heard_publish (fun _ => id) (hstands.courteous.of_within hunmoved.hooks)
      rw [Step.final_of_ok hpublish] at hheard
      exact (hheard.rests hidle).inStep (ih rfl hstands)

/-- **A run that comes to its end** leaves the counters in step. -/
lemma StandsAt.inStep_of_ended (h : StandsAt start (Program.load source) size batches place t)
    {r : RunResult} (hleg : place.leg source t = .ok (.ended r) u) : u.InStep := by
  cases Place.passes_of_leg hleg with
  | cancelled | completed =>
      refine ⟨_, _, h.1.counts (Nat.le_refl _) (linesIn_le _ size batches) ?_⟩
      rw [counters_enter, ← h.2]
      rfl
  | @failed next stop _ _ _ hlt hr =>
      obtain ⟨line, fault, v, hline, hcarry, hfail⟩ := exists_of_runLine_ended hr
      have hunmoved := unmoved_executeLine HookAction.IsCourteous line t
      rw [Step.final_of_error hcarry] at hunmoved
      set noted : Scheduler := { v with processed := next }
      have hcourteous : noted.hooks.Only HookAction.IsCourteous :=
        h.courteous.of_within hunmoved.hooks
      obtain ⟨-, hrests⟩ := fail_reports (fun _ => id) hcourteous hfail
      have hcall := Calls.failed hlt hline hcarry
      exact hrests.inStep (hcall.inStep rfl h)

/-- **What a turn makes of the counters** in its last leg: they are as the run found them, or they are
in step, or a batch is cut short. -/
theorem Tallies.cases_of_last (h : Tallies source start size batches before place t)
    (hlast : ∀ q, ¬ Onward source (place, t) q) :
    (Step.final (place.remainder source) t).counters = before ∨
      (Step.final (place.remainder source) t).InStep ∨
      ∃ carried, Cuts source place t carried := by
  rw [Step.final, Place.remainder_eq]
  cases hleg : place.leg source t with
  | ok l v =>
      cases l with
      | onward next => exact absurd hleg (hlast (next, v))
      | waits =>
          obtain ⟨hcourse, hprocessed⟩ := h.stands.waits hleg
          refine .inr (.inl ⟨_, _, hcourse.counts (Nat.le_refl _) (linesIn_le _ _ _) ?_⟩)
          rw [← hprocessed]
          rfl
      | ended r => exact .inr (.inl (h.stands.inStep_of_ended hleg))
  | error e v =>
      rcases exists_of_leg_error hleg with
        ⟨call, u, hcall, hraise⟩ | ⟨next, stop, rfl, hlt, hescape⟩
      · obtain ⟨hunmoved, hbusy⟩ := hcall.unmoved (fun _ => id) h.stands.courteous h.stands.isBusy
        have hcourteous := h.stands.courteous.of_within hunmoved.hooks
        -- a failure is reported at rest, where hooks may reset, and all else during the run
        cases hcause : call.isOfFailure with
        | true =>
            rw [hcause] at hbusy
            have hheard := call.heard_make (fun _ => id) hcourteous
            rw [Step.final_of_error hraise] at hheard
            exact .inr (.inl ((hheard.rests hbusy).inStep (hcall.inStep hcause h.stands)))
        | false =>
            rw [hcause] at hbusy
            have hsteered := steered_make call hbusy hcourteous
            rw [Step.final_of_error hraise] at hsteered
            cases hcall with
            | opened => exact .inl (hsteered.counters.trans h.tally)
            | failed | reported => cases hcause
            | carried hlt hline hcarry =>
                obtain ⟨i, rfl, -⟩ := h.stands
                exact .inr (.inr ⟨i + 1, .byHook (.carried hlt hline hcarry) hraise⟩)
            | progressed hle =>
                obtain ⟨i, rfl, rfl, -, hlast, hcourse, -⟩ := h.stands
                obtain rfl : i = linesIn (Program.load source) size (batches + 1) := by omega
                refine .inr (.inl ⟨_, _, hcourse.counts (Nat.le_refl _) (linesIn_le _ _ _) ?_⟩)
                exact hsteered.counters
      · obtain ⟨i, rfl, rfl, -, -, -⟩ := h.stands
        obtain ⟨line, hline⟩ := exists_line_of_lt hlt
        obtain ⟨hcarry, hfault⟩ := hescape line hline
        exact .inr (.inr ⟨i, .byLine hlt hline hcarry hfault⟩)

end Scheduler

namespace Shared

open Scheduler

variable {w : Shared} {event : Happening} {size : Int} {source : Text} {done carried : Nat}
  {p : Place × Scheduler}

/-! ## One happening -/

/-- The source of the run that a happening begins or carries on, and where that run is then. -/
def entry (w : Shared) : Happening → Option (Text × Place × Scheduler)
  | .run source =>
    if w.scheduler.isBusy then none
    else some (source, .opening,
      { w.scheduler.enter .running with machine := w.scheduler.machine.reset })
  | .turn place => w.waiting[place]?.map fun r => (r.source, .pause, w.scheduler)
  | _ => none

/-- In the happening a batch is cut short of the run of a source.  The lines `done` are counted, and
the lines `carried` have been carried out. -/
inductive CutsBatch (w : Shared) (event : Happening) (source : Text) (done carried : Nat) : Prop
  | intro {p q : Place × Scheduler} (hentry : w.entry event = some (source, p))
      (hpath : Relation.ReflTransGen (Onward source) p q) (hdone : q.2.processed = done)
      (hcuts : Cuts source q.1 q.2 carried)

lemma exists_tallies (h : Sound size w) (hentry : w.entry event = some (source, p)) :
    ∃ start batches, Tallies source start size batches w.scheduler.counters p.1 p.2 := by
  cases event with
  | run source' =>
      simp only [entry] at hentry
      split_ifs at hentry
      cases hentry
      refine ⟨w.scheduler.machine.reset, 0, ⟨rfl, runState_enter _ _, ?_, rfl⟩, ?_, ?_⟩
      · rw [enter_eq]
        exact h.courteous
      · rw [enter_eq]
        exact h.batchSize
      · exact counters_enter .running w.scheduler
  | turn place =>
      obtain ⟨r, hplace, hr⟩ := Option.map_eq_some_iff.1 hentry
      cases hr
      obtain ⟨-, -, hwaits⟩ := h.of_waiting hplace
      have hcourse := hwaits.course
      have hprocessed := hwaits.processed
      rw [Accepted.reached, hwaits.own] at hcourse hprocessed
      exact ⟨r.found.reset, r.batches, ⟨hcourse, hprocessed⟩, h.batchSize, trivial⟩
  | cancel | control | adopt | setLoop => cases hentry

/-- A run that begins or goes on decides on the counters in what is left of its turn. -/
lemma counters_of_entry (h : Sound size w) (hentry : w.entry event = some (source, p)) :
    (w.happen event).scheduler.counters = (Step.final (p.1.remainder source) p.2).counters := by
  cases event with
  | run source' =>
      simp only [entry] at hentry
      split_ifs at hentry with hbusy
      cases hentry
      have hmachine : (w.scheduler.enter .running).machine = w.scheduler.machine := by rw [enter_eq]
      have hfirst : Step.final (Place.opening.remainder source)
          { w.scheduler.enter .running with machine := w.scheduler.machine.reset } =
            Step.final (firstTurn source) (w.scheduler.enter .running) := by
        rw [← hmachine]
        rfl
      have hturn := counters_turn (firstTurn source) (w.scheduler.enter .running)
      rw [(w.happen_run source).1, hfirst, ← hturn, Step.final, Step.final,
        begin_of_idle source (Bool.not_eq_true _ ▸ hbusy)]
      cases turn (firstTurn source) (w.scheduler.enter .running) <;> rfl
  | turn place =>
      obtain ⟨r, hplace, hr⟩ := Option.map_eq_some_iff.1 hentry
      cases hr
      obtain ⟨-, -, hwaits⟩ := h.of_waiting hplace
      have hturn := counters_turn (proceed (Program.load r.source)) w.scheduler
      have hrest : Place.pause.remainder r.source = proceed (Program.load r.source) := rfl
      rw [hrest, ← hturn, ← resume, ← hwaits.own, Step.final]
      simp only [happen, hplace]
      cases resume r.program w.scheduler with
      | error e t => rfl
      | ok a t => cases a <;> rfl
  | cancel | control | adopt | setLoop => cases hentry

/-- Where no run has the turn, counters change by resets only. -/
lemma counters_of_no_entry (h : Sound size w) (hevent : event.IsCourteous)
    (hentry : w.entry event = none) :
    (w.happen event).scheduler.counters = w.scheduler.counters ∨
      (w.happen event).scheduler.counters = (0, 0, 0) := by
  cases event with
  | run source =>
      simp only [entry] at hentry
      split_ifs at hentry with hbusy
      refine .inl ?_
      rw [(w.happen_run source).1, Step.final_of_ok (begin_of_busy source hbusy)]
      rfl
  | turn place =>
      have hplace : w.waiting[place]? = none := Option.map_eq_none_iff.1 hentry
      refine .inl ?_
      simp only [happen, hplace]
  | cancel place =>
      refine .inl ?_
      simp only [happen]
      split_ifs
      · exact counters_release _
      · rfl
  | control request =>
      have hmoves := moves_act (fun _ => id) (moves_publishWithin (fun _ => id) nestingLimit) hevent
        .state h.courteous
      simp only [happen, final_control]
      cases hbusy : w.scheduler.isBusy with
      | true =>
          have hsteered := steered_act (P := fun _ => True) trivial hevent publish .state hbusy
          exact .inl hsteered.counters
      | false => exact (hmoves.rests hbusy).counters
  | adopt | setLoop => exact .inl rfl

/-- **A cut leaves the lines of its batch uncounted**, with their instructions counted. -/
theorem CutsBatch.counts (hsize : 1 ≤ size) (h : Sound size w)
    (hcut : w.CutsBatch event source done carried) :
    (carried : Int) ≤ done + size ∧
      (w.happen event).scheduler.Counts (Text.lines source) done carried := by
  obtain ⟨hentry, hpath, hdone, hcuts⟩ := hcut
  obtain ⟨start, batches, htallies⟩ := exists_tallies h hentry
  obtain ⟨done', hdone', hle, hcounts⟩ := hcuts.counts hsize (htallies.onwards hsize hpath)
  obtain rfl : done' = done := by omega
  have hcounters := counters_of_entry h hentry
  rw [final_of_onwards hpath] at hcounters
  exact ⟨hle, hcounts.congr hcounters⟩

/-- **What a happening makes of the counters.** -/
theorem reckoned (hsize : 1 ≤ size) (h : Sound size w) (hevent : event.IsCourteous) :
    (w.happen event).scheduler.Reckoned w.scheduler.counters (w.CutsBatch event) := by
  cases hentry : w.entry event with
  | none =>
      rcases counters_of_no_entry h hevent hentry with hsame | hzero
      · exact .kept hsame
      · exact .inStep (inStep_of_counters_eq_zero hzero)
  | some entered =>
      obtain ⟨source, p⟩ := entered
      obtain ⟨start, batches, htallies⟩ := exists_tallies h hentry
      obtain ⟨q, hpath, hlast⟩ := exists_last_leg source p
      have hcounters := counters_of_entry h hentry
      rw [final_of_onwards hpath] at hcounters
      have htallied := htallies.onwards hsize hpath
      rcases htallied.cases_of_last hlast with hsame | hstep | ⟨carried, hcuts⟩
      · exact .kept (hcounters.trans hsame)
      · exact .inStep (hstep.congr hcounters)
      · obtain ⟨done, hdone, -, hcounts⟩ := hcuts.counts hsize htallied
        exact .cut (.intro hentry hpath hdone hcuts) (hcounts.congr hcounters)

/-! ## Any number of happenings -/

/-- Among the happenings there is one that cuts a batch of a run of the source short. -/
def CutIn (w : Shared) (past : List Happening) (source : Text) (done carried : Nat) : Prop :=
  ∃ earlier event later, past = earlier ++ event :: later ∧
    (w.after earlier).CutsBatch event source done carried

/-- **What any number of happenings make of the counters.** -/
theorem reckoned_after (hsize : 1 ≤ size) : ∀ (past : List Happening) {w : Shared},
    (∀ event ∈ past, event.IsCourteous) → Sound size w →
      (w.after past).scheduler.Reckoned w.scheduler.counters (w.CutIn past)
  | [], _, _, _ => .kept rfl
  | event :: past, w, hpast, h => by
      have hevent := hpast event (by simp)
      have hfirst := reckoned hsize h hevent
      have hrest := reckoned_after hsize past (w := w.happen event)
        (fun other hother => hpast other (by simp [hother])) (sound_happen hsize h hevent).1
      -- the others have left the counters of the first happening, or they account for theirs
      cases hrest with
      | kept hsame =>
          exact (hfirst.congr hsame).mono fun source done carried hcut =>
            ⟨[], event, past, rfl, hcut⟩
      | inStep hstep => exact .inStep hstep
      | cut hcut hcounts =>
          obtain ⟨earlier, other, later, rfl, hcut⟩ := hcut
          exact .cut ⟨event :: earlier, other, later, rfl, hcut⟩ hcounts

lemma Sound.tidy_of_busy (h : Sound size w) (hbusy : w.scheduler.isBusy = true) :
    w.scheduler.Tidy := by
  rcases h.alone with ⟨hidle, -⟩ | ⟨r, -, hwaits⟩
  · rw [hidle] at hbusy
    cases hbusy
  · have hcourse := hwaits.course
    rw [hwaits.own] at hcourse
    have hle : r.reached size ≤ (Program.load r.source).size := hwaits.own ▸ r.reached_le size
    refine Standing.InStep.tidy ⟨_, _, hcourse.counts (Nat.le_refl _) hle ?_⟩
    rw [← hwaits.processed]
    rfl

/-- **Where counters stand**, after whatever has happened to a scheduler that was at rest with tidy
counters.  There are never more lines counted than the program has, nor more instructions, and
these are ahead of the lines by a batch at most.  While a run waits the counters are tidy.  A batch
that is cut short leaves its lines uncounted, and its instructions counted up to the cut.  So the
counters are out of order just if they are those that such a batch has left, and more instructions
had been carried out by then than there are lines before the batch. -/
theorem counters_at_rest {s : Scheduler} (hidle : s.isBusy = false) (hhooks : s.hooks.Courteous)
    (hsize : 1 ≤ s.batchSize) (htidy : s.Tidy) {past : List Happening}
    (hpast : ∀ event ∈ past, event.IsCourteous) :
    let w := after { scheduler := s } past
    w.scheduler.Bounded s.batchSize ∧
      (w.scheduler.isBusy = true → w.scheduler.Tidy) ∧
      (∀ event source done carried, w.CutsBatch event source done carried →
        (w.happen event).scheduler.Counts (Text.lines source) done carried) ∧
      (¬ w.scheduler.Tidy ↔ ∃ earlier event later source done carried,
        past = earlier ++ event :: later ∧
          (after { scheduler := s } earlier).CutsBatch event source done carried ∧
          done < ((Text.lines source).take carried).countP holdsInstruction ∧
          w.scheduler.counters =
            ((after { scheduler := s } earlier).happen event).scheduler.counters) := by
  intro w
  have hstart : Sound s.batchSize { scheduler := s } := .of_idle hidle hhooks
  have hsound : Sound s.batchSize w := sound_after hsize past hpast hstart
  have hearlier : ∀ {earlier event later}, past = earlier ++ event :: later →
      Sound s.batchSize (after { scheduler := s } earlier) := by
    rintro earlier event later rfl
    exact sound_after hsize earlier (fun other hother => hpast other (by simp [hother])) hstart
  have hreckoned := reckoned_after hsize past hpast hstart
  refine ⟨?bounds, hsound.tidy_of_busy, fun event source done carried hcut =>
    (hcut.counts hsize hsound).2, ?untidy⟩
  case bounds =>
    cases hreckoned with
    | kept hsame => exact ((Standing.tidy_congr hsame).2 htidy).bounded hsize
    | inStep hstep => exact hstep.tidy.bounded hsize
    | cut hcut hcounts =>
        obtain ⟨earlier, event, later, hsplit, hcut⟩ := hcut
        exact hcounts.bounded (hcut.counts hsize (hearlier hsplit)).1
  case untidy =>
    constructor
    · intro huntidy
      cases hreckoned with
      | kept hsame => exact absurd ((Standing.tidy_congr hsame).2 htidy) huntidy
      | inStep hstep => exact absurd hstep.tidy huntidy
      | @cut source done carried hcut hcounts =>
          obtain ⟨earlier, event, later, hsplit, hcut⟩ := hcut
          have hleft := (hcut.counts hsize (hearlier hsplit)).2
          rw [hcounts.tidy_iff] at huntidy
          exact ⟨earlier, event, later, source, done, carried, hsplit, hcut, by omega,
            hcounts.counters.trans hleft.counters.symm⟩
    · rintro ⟨earlier, event, later, source, done, carried, hsplit, hcut, hmore, hsame⟩
      have hleft := (hcut.counts hsize (hearlier hsplit)).2
      rw [(hleft.congr hsame).tidy_iff]
      omega

/-- The hook for snapshots gives up when it is called for the second time. -/
def faltering : Scheduler where
  machine := .initial 16
  batchSize := 100
  hooks :=
    { state := some fun count _ => if count = 1 then [.refuse (.refused (.words ['n', 'o']))] else []
      progress := none
      failure := none }

lemma courteous_faltering : faltering.hooks.Courteous := by
  intro kind hook hk count event a ha
  cases kind <;> cases hk
  simp only at ha
  split_ifs at ha
  · obtain rfl := List.mem_singleton.1 ha
    trivial
  · cases ha

/-- The run of two lines is cut short behind the first, and a request afterwards changes nothing. -/
theorem counters_at_rest_of_faltering :
    let lines : Text := ['m', 'u', 'l', ' ', 'a', 'x', '\n', 'p', 'o', 'p', ' ', 'b', 'x']
    let w := after { scheduler := faltering } [.run lines, .control .stop]
    w.scheduler.counters = (1, 0, 2) ∧
      ∃ earlier event later source done carried,
        [Happening.run lines, .control .stop] = earlier ++ event :: later ∧
          (after { scheduler := faltering } earlier).CutsBatch event source done carried := by
  intro lines w
  have hcounters : w.scheduler.counters = (1, 0, 2) := by decide +kernel
  have hpast : ∀ event ∈ [Happening.run lines, .control .stop], event.IsCourteous := by
    simp [Happening.IsCourteous, HookAction.IsCourteous]
  obtain ⟨-, -, -, huntidy⟩ :=
    counters_at_rest (s := faltering) rfl courteous_faltering (by decide) (by decide) hpast
  obtain ⟨earlier, event, later, source, done, carried, hsplit, hcut, -⟩ :=
    huntidy.1 (by decide +kernel)
  exact ⟨hcounters, earlier, event, later, source, done, carried, hsplit, hcut⟩

/-- **A run that is cut short in a batch** leaves more instructions counted than lines. -/
theorem cut_batch_leaves_untidy :
    let w := after { scheduler := faltering } [.run ['m', 'u', 'l', ' ', 'a', 'x']]
    w.scheduler.isBusy = false ∧ w.scheduler.executed = 1 ∧ w.scheduler.processed = 0 ∧
      w.scheduler.total = 1 ∧ ¬ w.scheduler.Tidy := by decide +kernel

end Shared
end Asm16

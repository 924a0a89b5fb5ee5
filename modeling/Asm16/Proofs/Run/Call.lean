import Asm16.Proofs.Run.Journey
import Asm16.Proofs.Run.Outcome

/-!
# Calls of hooks in a run

A run calls hooks for five things.  Each call is made in one leg of the run, and an error in it ends
the leg.

* `Call` — a call by what it is made for, with the hook, the event and the call itself.
* `Calls` — the calls that a leg makes, with the state in which it makes them.
* `Calls.leg_of_error`, `exists_of_leg_error` — an error in a call ends the leg, and a leg ends in an
  error only because of a call or of its line.
* `Calls.unmoved` — what has not changed when a call is made, and whether a run is in progress then.
* `Calls.machine` — which lines have been carried out when a call is made.
-/

namespace Asm16

/-- A call of a hook, by what it is made for. -/
inductive Call
  /-- The snapshot at the start. -/
  | opened
  /-- The snapshot after the instruction in a line. -/
  | carried (line : Int)
  /-- The snapshot after a failed line. -/
  | failed (failure : Failure)
  | reported (failure : Failure)
  /-- The report that so many lines are done. -/
  | progressed (stop : Int)

namespace Call

open Scheduler

def kind : Call → HookKind
  | .opened | .carried _ | .failed _ => .state
  | .reported _ => .failure
  | .progressed _ => .progress

/-- What the hook is told. -/
def event : Call → Scheduler → Event
  | .opened, s | .carried _, s | .failed _, s => s.snapshotEvent
  | .reported f, _ => .failure f.line f.fault.message
  | .progressed stop, s => .progress stop s.total

def make : Call → Step Scheduler Unit
  | .opened | .carried _ | .failed _ => publish
  | .reported f => callHook publish .failure (.failure f.line f.fault.message)
  | .progressed stop => fun s => callHook publish .progress (.progress stop s.total) s

/-- The call is made to report a failure, when the run is over. -/
def isOfFailure : Call → Bool
  | .failed _ | .reported _ => true
  | _ => false

/-- The number of lines that were carried out, a failed one included. -/
def lines : Call → Int
  | .opened => 0
  | .carried line => line + 1
  | .failed f | .reported f => f.line
  | .progressed stop => stop

/-- The failure that the hook is told of. -/
def failure? : Call → Option (Int × Text)
  | .reported f => some (f.line, f.fault.message)
  | _ => none

lemma failure?_event (call : Call) (s : Scheduler) : (call.event s).failure? = call.failure? := by
  cases call <;> rfl

/-- Without a hook a call does nothing. -/
lemma make_of_no_hook (call : Call) {s : Scheduler} (h : s.hooks.get call.kind = none) :
    call.make s = .ok () s := by
  have hnone : ∀ publish event, callHook publish call.kind event s = .ok () s := by
    intro publish event
    rw [callHook_apply, h]
  cases call with
  | opened | carried | failed => exact (publish_apply s).trans (hnone _ _)
  | reported | progressed => exact hnone _ _

variable {allowed : HookAction → Prop}

lemma heard_make (hcourteous : ∀ a, allowed a → a.IsCourteous) (call : Call) {s : Scheduler}
    (h : s.hooks.Only allowed) :
    Heard allowed call.kind (call.event s) s (Step.final call.make s) := by
  cases call with
  | opened | carried | failed => exact heard_publish hcourteous h
  | reported | progressed => exact heard_callHook hcourteous _ _ h

end Call

namespace Scheduler

variable {source : Text} {s t u v : Scheduler} {place : Place} {met : List (List Demand)}
  {allowed : HookAction → Prop} {call : Call}

/-- The leg from a place makes a call, in the state `u`. -/
inductive Calls (source : Text) : Place → Scheduler → Call → Scheduler → Prop
  | opened (t : Scheduler) : Calls source .opening t .opened t
  | carried {next stop : Int} {line : Text} {instruction : Instruction} {t u : Scheduler}
      (hlt : next < stop) (hline : (Program.load source).line? next = some line)
      (h : executeLine line t = .ok (some instruction) u) :
      Calls source (.line next stop) t (.carried next) { u with executed := u.executed + 1 }
  | failed {next stop : Int} {line : Text} {fault : Fault} {t u : Scheduler}
      (hlt : next < stop) (hline : (Program.load source).line? next = some line)
      (h : executeLine line t = .error (.fault fault) u) :
      Calls source (.line next stop) t (.failed ⟨next + 1, fault⟩)
        (failing ⟨next + 1, fault⟩ { u with processed := next })
  | reported {place : Place} {f : Failure} {t u v : Scheduler}
      (h : Calls source place t (.failed f) u) (hpublish : publish u = .ok () v) :
      Calls source place t (.reported f) v
  | progressed {next stop : Int} (hle : stop ≤ next) (t : Scheduler) :
      Calls source (.line next stop) t (.progressed stop) { t with processed := stop }

/-! ## Errors in calls -/

/-- A failed line leads to the two calls that report it. -/
lemma leg_of_failed {f : Failure} (h : Calls source place t (.failed f) u) :
    place.leg source t =
      match publish u with
      | .ok () v =>
        match callHook publish .failure (.failure f.line f.fault.message) v with
        | .ok () w => .ok (.ended (w.result (Program.load source) .failed (some f))) w
        | .error e w => .error e w
      | .error e v => .error e v := by
  cases h with
  | failed hlt hline h =>
      rw [Place.leg_line_of_lt hlt, runLine_of_line? hline, h]
      simp only [fail_eq]
      generalize publish _ = r
      cases r with
      | error e v => rfl
      | ok _ v =>
          simp only
          generalize callHook publish .failure _ v = r
          cases r <;> rfl

/-- **An error in a call ends the leg.** -/
theorem Calls.leg_of_error {e : Error} (h : Calls source place t call u)
    (hraise : call.make u = .error e v) : place.leg source t = .error e v := by
  cases h with
  | opened =>
      have hp : publish t = .error e v := hraise
      rw [Place.leg_opening, hp]
  | carried hlt hline h =>
      have hp : publish _ = .error e v := hraise
      rw [Place.leg_line_of_lt hlt, runLine_of_line? hline, h]
      simp only [hp]
  | failed hlt hline h =>
      have hp : publish _ = .error e v := hraise
      rw [leg_of_failed (.failed hlt hline h), hp]
  | reported h hpublish =>
      have hr : callHook publish .failure _ _ = .error e v := hraise
      rw [leg_of_failed h, hpublish]
      simp only [hr]
  | progressed hle =>
      have hr : endBatch _ t = .error e v := hraise
      rw [Place.leg_line_of_le hle, hr]

/-- A leg ends in an error because of a call, or because its line lets the error through. -/
theorem exists_of_leg_error {e : Error} (hleg : place.leg source t = .error e v) :
    (∃ call u, Calls source place t call u ∧ call.make u = .error e v) ∨
      ∃ next stop, place = .line next stop ∧ next < stop ∧
        ∀ line, (Program.load source).line? next = some line →
          executeLine line t = .error e v ∧ ¬ e.IsFault := by
  cases place with
  | opening =>
      rw [Place.leg_opening] at hleg
      cases hp : publish t <;> rw [hp] at hleg <;> cases hleg
      exact .inl ⟨.opened, t, .opened t, hp⟩
  | pause =>
      rw [Place.leg_pause] at hleg
      split_ifs at hleg
  | line next stop =>
      rcases Int.lt_or_le next stop with hlt | hle
      · cases hline : (Program.load source).line? next with
        | none =>
            refine .inr ⟨next, stop, rfl, hlt, fun line hline' => ?_⟩
            rw [hline] at hline'
            cases hline'
        | some line =>
            cases he : executeLine line t with
            | ok i? u =>
                rw [Place.leg_line_of_lt hlt, runLine_of_line? hline, he] at hleg
                cases i? with
                | none => cases hleg
                | some instruction =>
                    simp only at hleg
                    cases hp : publish { u with executed := u.executed + 1 } <;>
                      rw [hp] at hleg <;> cases hleg
                    exact .inl ⟨.carried next, _, .carried hlt hline he, hp⟩
            | error e' u =>
                cases e' with
                | fault fault =>
                    have hfailed := Calls.failed hlt hline he
                    rw [leg_of_failed hfailed] at hleg
                    cases hp : publish (failing ⟨next + 1, fault⟩ { u with processed := next }) with
                    | error e' w =>
                        rw [hp] at hleg
                        cases hleg
                        exact .inl ⟨_, _, hfailed, hp⟩
                    | ok _ w =>
                        rw [hp] at hleg
                        simp only at hleg
                        cases hr : callHook publish .failure (.failure (next + 1) fault.message) w <;>
                          rw [hr] at hleg <;> cases hleg
                        exact .inl ⟨_, _, .reported hfailed hp, hr⟩
                | _ =>
                    rw [Place.leg_line_of_lt hlt, runLine_of_line? hline, he] at hleg
                    cases hleg
                    refine .inr ⟨next, stop, rfl, hlt, fun line' hline' => ?_⟩
                    obtain rfl : line = line' := Option.some.inj (hline.symm.trans hline')
                    exact ⟨he, id⟩
      · rw [Place.leg_line_of_le hle] at hleg
        cases he : endBatch stop t <;> rw [he] at hleg <;> cases hleg
        exact .inl ⟨.progressed stop, _, .progressed hle t, he⟩

/-! ## Where a call finds the run -/

variable {start : Machine} {size : Int} {batches : Nat}

/-- When a call is made, a run is in progress unless the call is of a failure. -/
theorem Calls.unmoved (hcourteous : ∀ a, allowed a → a.IsCourteous) (hhooks : t.hooks.Only allowed)
    (hbusy : t.isBusy = true) (h : Calls source place t call u) :
    Unmoved allowed t u ∧ u.isBusy = !call.isOfFailure := by
  induction h with
  | opened => exact ⟨.refl _, hbusy⟩
  | @carried next stop line instruction t u hlt hline h =>
      have hunmoved := unmoved_executeLine allowed line t
      have hcarried := carried_executeLine line t
      rw [Step.final_of_ok h] at hunmoved hcarried
      have hsame : u.isBusy = t.isBusy := by rw [isBusy, isBusy, hcarried.standing]
      exact ⟨hunmoved.trans (.of_eq rfl rfl rfl rfl rfl), hsame.trans hbusy⟩
  | @failed next stop line fault t u hlt hline h =>
      have hunmoved := unmoved_executeLine allowed line t
      rw [Step.final_of_error h] at hunmoved
      have hnoted : Unmoved allowed u { u with processed := next } := .of_eq rfl rfl rfl rfl rfl
      refine ⟨hunmoved.trans (hnoted.trans (unmoved_failing allowed _ _)), ?_⟩
      rw [failing, isBusy, runState_enter]
      rfl
  | @reported place f t u v h hpublish ih =>
      obtain ⟨hunmoved, hidle⟩ := ih hhooks hbusy
      have hheard := heard_publish hcourteous (hhooks.of_within hunmoved.hooks)
      rw [Step.final_of_ok hpublish] at hheard
      exact ⟨hunmoved.trans (hheard.unmoved rfl), (hheard.rests hidle).idle⟩
  | progressed => exact ⟨.of_eq rfl rfl rfl rfl rfl, hbusy⟩

/-- **Where a call finds the machine**, unless hooks reset it when a line has failed: the lines
before the call have been carried out, and if one of them has failed the scheduler is halted. -/
theorem Calls.machine (hcourteous : ∀ a, allowed a → a.IsCourteous)
    (hreset : call.isOfFailure = true → ¬ MayReset allowed)
    (hhooks : t.hooks.Only allowed)
    (hstands : StandsAt start (Program.load source) size batches place t)
    (h : Calls source place t call u) :
    u.machine = (start.upTo (Text.lines source) call.lines.toNat).machine ∧
      (call.isOfFailure = true → u.runState = .haltedError) := by
  induction h with
  | opened => exact ⟨hstands.2.2.2, Bool.noConfusion⟩
  | @carried next stop line instruction t u hlt hline h =>
      obtain ⟨i, rfl, -, -, -, hcourse, -⟩ := hstands
      have hmachine := hcourse.machine_executeLine hline
      rw [Step.final_of_ok h] at hmachine
      exact ⟨hmachine, Bool.noConfusion⟩
  | @failed next stop line fault t u hlt hline h =>
      obtain ⟨i, rfl, -, -, -, hcourse, -⟩ := hstands
      have hmachine := hcourse.machine_executeLine hline
      rw [Step.final_of_error h] at hmachine
      refine ⟨?_, fun _ => runState_enter _ _⟩
      rw [failing, enter_eq]
      exact hmachine
  | @reported place f t u v h hpublish ih =>
      obtain ⟨hmachine, hrunState⟩ := ih hreset hhooks hstands
      obtain ⟨hunmoved, hidle⟩ := h.unmoved hcourteous hhooks hstands.isBusy
      have hheard := heard_publish hcourteous (hhooks.of_within hunmoved.hooks)
      rw [Step.final_of_ok hpublish] at hheard
      obtain ⟨hsameMachine, hsameState⟩ := hheard.still_of_idle (hreset rfl) hidle
      exact ⟨hsameMachine.trans hmachine, fun h => hsameState.trans (hrunState h)⟩
  | @progressed next stop hle t =>
      obtain ⟨i, rfl, rfl, -, hlast, hcourse, -⟩ := hstands
      obtain rfl : i = linesIn (Program.load source) size (batches + 1) := by omega
      exact ⟨hcourse.machine, Bool.noConfusion⟩

/-- A run on its course meets an error in a call, or in a line that lets it through. -/
theorem StandsAt.exists_of_leg_error {e : Error}
    (h : StandsAt start (Program.load source) size batches place t)
    (hleg : place.leg source t = .error e v) :
    (∃ call u, Calls source place t call u ∧ call.make u = .error e v) ∨
      ∃ i line m', start.Reaches (Text.lines source) i line ∧
        Machine.executeLine line (start.upTo (Text.lines source) i).machine = .error e m' ∧
        ¬ e.IsFault := by
  rcases Scheduler.exists_of_leg_error hleg with hcall | ⟨next, stop, rfl, hlt, hescape⟩
  · exact .inl hcall
  · obtain ⟨i, rfl, hstop, -, -, hcourse, -⟩ := h
    obtain ⟨line, hline⟩ := exists_line_of_lt (hstop ▸ hlt)
    obtain ⟨he, hfault⟩ := hescape line hline
    obtain ⟨m', hm', -, -⟩ :=
      exists_of_executeLine_error HookAction.IsCourteous he
    exact .inr ⟨i, line, m', ⟨lines_of_line? hline, hcourse.done⟩, hcourse.machine ▸ hm', hfault⟩

end Scheduler
end Asm16

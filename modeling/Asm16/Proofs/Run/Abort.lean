import Asm16.Proofs.Run.Call
import Asm16.Proofs.Run.Failure

/-!
# Hooks that give up

An error in any call of a hook goes through the run: nothing more is carried out or told, and the run
is left.  What comes out of the run is that error, unless it is the end of an iteration, which is
replaced on the way out.

* `Aborted`, `aborted_of_error` — what a call leaves that ends in an error.
* `exists_of_runAmid_error` — no run ends in an error for other reasons, but for lines that let one
  through.
* `raising_hook_aborts` — the result for runs.
* `exhausted_hook_is_replaced` — the error that does not come out, and a hook that resets first.
-/

namespace Asm16
namespace Scheduler

variable {source : Text} {s t u v : Scheduler} {place : Place} {met : List (List Demand)}
  {allowed : HookAction → Prop} {call : Call}

/-- What a call leaves that ends in an error, once the run is left. -/
structure Aborted (call : Call) (u w : Scheduler) : Prop where
  /-- Nothing is told but what the call is for, and that resets were refused. -/
  told : Tells (fun e => e = .refusedReset) (u.called call.kind (call.event u)) w
  calls : w.calls = u.calls.set call.kind (u.calls.get call.kind + 1)
  machine : w.machine = u.machine
  failures : w.failures = u.failures ++ call.failure?.toList
  lastResult : w.lastResult = u.lastResult
  runState : w.runState = if call.isOfFailure then .haltedError else .idle

/-- A call that ends in an error leaves the machine and all records as they were, but for the call
itself. -/
lemma aborted_of_error (hcourteous : ∀ a, allowed a → a.IsCourteous)
    (hreset : call.isOfFailure = true → ¬ MayReset allowed) (hhooks : u.hooks.Only allowed)
    (hbusy : u.isBusy = !call.isOfFailure)
    (hhalted : call.isOfFailure = true → u.runState = .haltedError) {e : Error}
    (hraise : call.make u = .error e v) : Aborted call u v.release := by
  have hheard := call.heard_make hcourteous hhooks
  rw [Step.final_of_error hraise] at hheard
  rcases hheard with ⟨hnone, -⟩ | ⟨-, hmoves⟩
  · rw [call.make_of_no_hook hnone] at hraise
    cases hraise
  · have hkept : v.lastResult = u.lastResult := hmoves.unmoved.lastResult
    have hfailures : v.failures = u.failures ++ call.failure?.toList := by
      rw [hmoves.unmoved.failures, failures_called, call.failure?_event]
    cases hcall : call.isOfFailure with
    | true =>
        rw [hcall] at hbusy
        have hstill := hmoves.still fun h => absurd h (hreset hcall)
        have hstayed : v.runState = .haltedError :=
          (hstill.runState_of_idle hbusy).trans (hhalted hcall)
        rw [release_of_idle (hstill.isBusy.trans hbusy)]
        refine ⟨hstill.told, hstill.calls, hstill.machine, hfailures, hkept, ?_⟩
        rw [hcall]
        exact hstayed
    | false =>
        rw [hcall] at hbusy
        have hstill := hmoves.still fun _ => hbusy
        rw [release_of_busy (hstill.isBusy.trans hbusy), enter_eq]
        exact ⟨hstill.told, hstill.calls, hstill.machine, hfailures, hkept, by rw [hcall]; rfl⟩

/-! ## Whole runs -/

/-- A run that ends in an error was cut short by a call, or by a line that let an error through. -/
lemma exists_of_runAmid_error (hcourteous : ∀ a, allowed a → a.IsCourteous)
    (hidle : s.isBusy = false) (hhooks : s.hooks.Only allowed) (hsize : 1 ≤ s.batchSize)
    {others : List (List Demand)}
    (hothers : ∀ demands ∈ others, ∀ demand ∈ demands, demand.IsCourteous) {e : Error}
    (h : runAmid source others s = .error e u) :
    ∃ e' : Error, e = e'.outOfRun ∧
      ((∃ met place t call u v, met <+: others ∧ Comes source s met place t ∧
          Calls source place t call u ∧ call.make u = .error e' v) ∨
        ∃ i line m', s.machine.reset.Reaches (Text.lines source) i line ∧
          Machine.executeLine line (s.machine.reset.upTo (Text.lines source) i).machine =
            .error e' m' ∧ ¬ e'.IsFault) := by
  have hfirst : Comes source s [] .opening _ := .accepted
  obtain ⟨met, place, t, hmet, hcomes, hcloses⟩ := hfirst.exists_closes others
  rw [← hfirst.runAmid_eq hidle, List.nil_append, h] at hcloses
  rw [List.nil_append] at hmet
  cases hcloses with
  | error hleg =>
      obtain ⟨hstands, -⟩ := hcomes.standsAt hcourteous hhooks hsize
        fun demands hdemands => hothers demands (hmet.subset hdemands)
      refine ⟨_, rfl, ?_⟩
      rcases hstands.exists_of_leg_error hleg with ⟨call, u, hcalls, hraise⟩ | hline
      · exact .inl ⟨met, place, t, call, u, _, hmet, hcomes, hcalls, hraise⟩
      · exact .inr hline

/-- **A hook that gives up cuts the run short.**  Whichever call ends in an error, the run ends in
it; only the end of an iteration is replaced by another error when it comes out of the run.  Nothing
is told after the call and no account is made; the machine is that of the lines up to the call,
carried out one after the other, and no run is in progress any more.  A call for a failed line is
made after the run is over, so there this is said of hooks that do not reset the scheduler.  No run
ends in an error for other reasons, unless a line lets one through that is no fault. -/
theorem raising_hook_aborts {s : Scheduler} (hidle : s.isBusy = false)
    (hhooks : s.hooks.Courteous) (hsize : 1 ≤ s.batchSize) (source : Text)
    {others : List (List Demand)}
    (hothers : ∀ demands ∈ others, ∀ demand ∈ demands, demand.IsCourteous) :
    let lines := Text.lines source
    let start := s.machine.reset
    (∀ met place t call u e v, met <+: others → Comes source s met place t →
        Calls source place t call u → call.make u = .error e v →
        (call.isOfFailure = true → s.hooks.Only fun a => a ≠ .control .reset ∧ a ≠ .tryReset) →
        ∃ w, runAmid source others s = .error e.outOfRun w ∧
          (e ≠ .refused .exhausted → e.outOfRun = e) ∧ Aborted call u w ∧
          w.machine = (start.upTo lines call.lines.toNat).machine ∧
          w.failures = s.failures ++ call.failure?.toList ∧ w.lastResult = s.lastResult) ∧
      ∀ e w, runAmid source others s = .error e w → ∃ e' : Error, e = e'.outOfRun ∧
        ((∃ met place t call u v, met <+: others ∧ Comes source s met place t ∧
            Calls source place t call u ∧ call.make u = .error e' v) ∨
          ∃ i line m', start.Reaches lines i line ∧
            Machine.executeLine line (start.upTo lines i).machine = .error e' m' ∧
            ¬ e'.IsFault) := by
  intro lines start
  refine ⟨?_, fun e w h => exists_of_runAmid_error (fun _ => id) hidle hhooks hsize hothers h⟩
  intro met place t call u e v hmet hcomes hcalls hraise hnever
  -- hooks that never reset matter in a call for a failure only
  obtain ⟨allowed, hcourteous, hreset, honly⟩ : ∃ allowed : HookAction → Prop,
      (∀ a, allowed a → a.IsCourteous) ∧ (call.isOfFailure = true → ¬ MayReset allowed) ∧
        s.hooks.Only allowed := by
    cases hcall : call.isOfFailure with
    | false => exact ⟨HookAction.IsCourteous, fun _ => id, by simp, hhooks⟩
    | true =>
        refine ⟨fun a => a.IsCourteous ∧ a ≠ .control .reset ∧ a ≠ .tryReset, fun _ h => h.1, ?_,
          hhooks.and (hnever hcall)⟩
        rintro - (h | h)
        · exact h.2.1 rfl
        · exact h.2.2 rfl
  obtain ⟨more, rfl⟩ := hmet
  obtain ⟨hstands, hunmoved⟩ := hcomes.standsAt hcourteous honly hsize
    fun demands hdemands => hothers demands (List.mem_append_left _ hdemands)
  have hhere := honly.of_within hunmoved.hooks
  obtain ⟨hmachine, hhalted⟩ := hcalls.machine hcourteous hreset hhere hstands
  obtain ⟨hcalled, hbusy⟩ := hcalls.unmoved hcourteous hhere hstands.isBusy
  have hbefore := hunmoved.trans hcalled
  have haborted :=
    aborted_of_error hcourteous hreset (honly.of_within hbefore.hooks) hbusy hhalted hraise
  refine ⟨v.release, ?_, Error.outOfRun_of_ne, haborted, haborted.machine.trans hmachine, ?_,
    haborted.lastResult.trans hbefore.lastResult⟩
  · rw [hcomes.runAmid_eq hidle more, goOn_of_error (hcalls.leg_of_error hraise)]
  · rw [haborted.failures, hbefore.failures]

/-- A line that can be carried out, and one that fails. -/
def addsThenFails : Text :=
  ['a', 'd', 'd', ' ', 'a', 'x', ',', ' ', '1', '\n', 'p', 'o', 'p', ' ', 'z']

/-- The error that a run ended in, and the state that it left. -/
def raised? : EStateM.Result Error Scheduler (Option Advance) → Option (Error × Scheduler)
  | .error e t => some (e, t)
  | .ok _ _ => none

lemma exists_of_raised? {α : Type} {f : Error × Scheduler → α} {a : α}
    {outcome : EStateM.Result Error Scheduler (Option Advance)}
    (h : (raised? outcome).map f = some a) : ∃ e t, outcome = .error e t ∧ f (e, t) = a := by
  obtain ⟨⟨e, t⟩, hraised, ha⟩ := Option.map_eq_some_iff.1 h
  cases outcome <;> cases hraised
  exact ⟨e, t, rfl, ha⟩

/-- A hook for failures gives up with a fault of its own when it hears of the second line. -/
theorem raising_hook_aborts_in_report :
    let fault : Fault := ⟨.divideByZero, none⟩
    ∃ call u w, runAmid secondFails [[.run ['p', 'o', 'p']]] (listening [.refuse (.fault fault)]) =
        .error (.fault fault) w ∧ Aborted call u w ∧ w.runState = .haltedError := by
  intro fault
  have hraised : (raised? (runAmid secondFails [[.run ['p', 'o', 'p']]]
      (listening [.refuse (.fault fault)]))).map (fun last => (last.1, last.2.runState)) =
        some (.fault fault, .haltedError) := by decide +kernel
  obtain ⟨e, w, hrun, he⟩ := exists_of_raised? hraised
  obtain ⟨rfl, hhalted⟩ := Prod.mk.inj he
  have hothers : ∀ demands ∈ [[Demand.run ['p', 'o', 'p']]],
      ∀ demand ∈ demands, demand.IsCourteous := by simp [Demand.IsCourteous]
  obtain ⟨haborts, hcauses⟩ := raising_hook_aborts (s := listening [.refuse (.fault fault)]) rfl
    (only_listening trivial (by simp [HookAction.IsCourteous])) (by decide) secondFails hothers
  obtain ⟨e, he, hcause⟩ := hcauses _ w hrun
  rcases hcause with ⟨met, place, t, call, u, v, hmet, hcomes, hcalls, hraise⟩ | hline
  · obtain ⟨w', hrun', -, haborted, -⟩ := haborts met place t call u _ v hmet hcomes hcalls hraise
      fun _ => only_listening (by simp) (by simp)
    obtain ⟨-, rfl⟩ : Error.fault fault = e.outOfRun ∧ w = w' := by
      simpa using hrun.symm.trans hrun'
    exact ⟨call, u, w, hrun, haborted, hhalted⟩
  · obtain ⟨_, _, _, -, -, hfault⟩ := hline
    rw [← Error.isFault_outOfRun, ← he] at hfault
    exact absurd trivial hfault

/-- Where a hook for failures is exhausted the run ends in another error.  Where it resets the
scheduler before it gives up, neither the run state of a failed run is left nor the machine of the
lines that were carried out. -/
theorem exhausted_hook_is_replaced :
    (∃ e w, runAmid secondFails [[]] (listening [.refuse (.refused .exhausted)]) = .error e w ∧
        e = .refused (.words (text "coroutine raised StopIteration")) ∧
        e ≠ .refused .exhausted) ∧
      ∃ e w, runAmid addsThenFails [[]]
          (listening [.control .reset, .refuse (.refused (.words ['n', 'o']))]) = .error e w ∧
        w.runState = .idle ∧ w.machine.valueAt .ax = 0 ∧
        ((Machine.initial 16).upTo (Text.lines addsThenFails) 2).machine.valueAt .ax = 1 := by
  refine ⟨?_, ?_⟩
  · have hraised : (raised? (runAmid secondFails [[]]
        (listening [.refuse (.refused .exhausted)]))).map Prod.fst =
          some (.refused (.words (text "coroutine raised StopIteration"))) := by decide +kernel
    obtain ⟨e, w, hrun, he⟩ := exists_of_raised? hraised
    exact ⟨e, w, hrun, he, by rw [show e = _ from he]; decide⟩
  · have hraised : (raised? (runAmid addsThenFails [[]]
        (listening [.control .reset, .refuse (.refused (.words ['n', 'o']))]))).map
          (fun last => (last.2.runState, last.2.machine.valueAt .ax)) = some (.idle, 0) := by
      decide +kernel
    obtain ⟨e, w, hrun, hw⟩ := exists_of_raised? hraised
    obtain ⟨hidle, hax⟩ := Prod.mk.inj hw
    exact ⟨e, w, hrun, hidle, hax, by decide +kernel⟩

end Scheduler
end Asm16

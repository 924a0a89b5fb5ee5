import Asm16.Proofs.Run.Journey
import Asm16.Proofs.Run.Outcome

/-!
# The account of a failed run

The line that failed and its message are fixed before hooks hear of them, but the counters in the
account are read off the scheduler afterwards.  By then no run is in progress any more, so a hook
that hears of the failure may reset the scheduler, and the account has the counters of the reset.

* `fail_reports` — what a failure leads to: one report, and the standing at the line or of a reset.
* `FailsAt`, `StandsAt.fails` — what is left of a run on its course when a line fails.
* `failed_run_reports` — the result for runs.
* `reset_in_report_clears_account` — a run whose account has the counters of a reset.
-/

namespace Asm16
namespace Scheduler

variable {source : Text} {s t u : Scheduler} {place : Place} {met : List (List Demand)}
  {allowed : HookAction → Prop}

/-- A line that ends a run with an account has failed. -/
lemma exists_of_runLine_ended {program : Program} {i : Int} {r : RunResult}
    (h : runLine program i s = .ok (some r) t) :
    ∃ line fault u, program.line? i = some line ∧ executeLine line s = .error (.fault fault) u ∧
      fail program ⟨i + 1, fault⟩ { u with processed := i } = .ok r t := by
  cases hline : program.line? i with
  | none => rw [runLine_of_no_line hline] at h; cases h
  | some line =>
      rw [runLine_of_line? hline] at h
      cases he : executeLine line s with
      | ok i? u =>
          rw [he] at h
          cases i? with
          | none => cases h
          | some instruction => simp only at h; split at h <;> cases h
      | error e u =>
          rw [he] at h
          cases e with
          | fault fault =>
              simp only at h
              split at h <;> cases h
              next hf => exact ⟨line, fault, u, rfl, he, hf⟩
          | _ => cases h

/-- A leg that ends a run in a batch has a line that failed. -/
lemma exists_of_line_ended {next stop : Int} {r : RunResult}
    (hleg : (Place.line next stop).leg source s = .ok (.ended r) t) :
    ∃ line fault u, next < stop ∧ (Program.load source).line? next = some line ∧
      executeLine line s = .error (.fault fault) u ∧
      fail (Program.load source) ⟨next + 1, fault⟩ { u with processed := next } = .ok r t := by
  cases Place.passes_of_leg hleg with
  | failed hlt hr =>
      obtain ⟨line, fault, u, hline, he, hf⟩ := exists_of_runLine_ended hr
      exact ⟨line, fault, u, hlt, hline, he, hf⟩

/-- The leg that ends a run with the account of a failure is in a batch. -/
lemma exists_of_failed {r : RunResult} (hleg : place.leg source s = .ok (.ended r) t)
    (hfailed : r.status = .failed) : ∃ next stop, place = .line next stop := by
  cases Place.passes_of_leg hleg with
  | cancelled | completed => cases hfailed
  | failed => exact ⟨_, _, rfl⟩

/-- The account of a failure is made of the counters as the report leaves them. -/
lemma result_of_fail {program : Program} {f : Failure} {r : RunResult}
    (hfail : fail program f s = .ok r t) : r = t.result program .failed (some f) := by
  rw [fail_eq] at hfail
  cases hp : publish (s.failing f) with
  | error e v => rw [hp] at hfail; cases hfail
  | ok _ v =>
      rw [hp] at hfail
      simp only at hfail
      cases hr : callHook publish .failure (.failure f.line f.fault.message) v <;>
        rw [hr] at hfail <;> cases hfail
      rfl

/-- **What a failure leads to.**  It is reported once, and no run is in progress afterwards; standing
and machine are those at the failure, or those of a reset. -/
theorem fail_reports (hcourteous : ∀ a, allowed a → a.IsCourteous) (h : s.hooks.Only allowed)
    {program : Program} {f : Failure} {r : RunResult} (hfail : fail program f s = .ok r t) :
    (¬ allowed .detach → t.failures = s.failures ++
        if s.hooks.failure.isSome then [(f.line, f.fault.message)] else []) ∧
      Rests allowed (s.failing f) t := by
  have hfailing := unmoved_failing allowed f s
  have hidle : (s.failing f).isBusy = false := by
    rw [failing, isBusy, runState_enter]
    rfl
  rw [fail_eq] at hfail
  cases hp : publish (s.failing f) with
  | error e v => rw [hp] at hfail; cases hfail
  | ok _ v =>
      rw [hp] at hfail
      simp only at hfail
      cases hr : callHook publish .failure (.failure f.line f.fault.message) v with
      | error e w => rw [hr] at hfail; cases hfail
      | ok _ w =>
          rw [hr] at hfail
          cases hfail
          have hpublished := heard_publish hcourteous (h.of_within hfailing.hooks)
          rw [Step.final_of_ok hp] at hpublished
          have hunmoved := hfailing.trans (hpublished.unmoved rfl)
          have hreported :=
            heard_callHook hcourteous .failure (.failure f.line f.fault.message)
              (h.of_within hunmoved.hooks)
          rw [Step.final_of_ok hr] at hreported
          have hrests := hpublished.rests hidle
          refine ⟨fun hdetach => ?_, hrests.trans (hreported.rests hrests.idle)⟩
          rw [hreported.failures, hunmoved.failures, hunmoved.attached hdetach]
          rfl

/-- The account of a failed run has the number of all lines, that of the lines before the failed one,
and that of the instructions in these. -/
structure CountsTo (lines : List Text) (i : Nat) (r : RunResult) : Prop where
  total : r.total = lines.length
  processed : r.processed = i
  executed : r.executed = (lines.take i).countP holdsInstruction

/-- What is left of a run that fails at the line `i`.  If a hook resets the scheduler when it hears of
the failure, counters and machine are those of the reset. -/
structure FailsAt (start : Machine) (lines : List Text) (i : Nat) (fault : Fault) (r : RunResult)
    (t : Scheduler) : Prop where
  line : ∃ line m', start.Reaches lines i line ∧
    Machine.executeLine line (start.upTo lines i).machine = .error (.fault fault) m'
  status : r.status = .failed
  failure : r.failure = some ⟨i + 1, fault⟩
  left : t.runState = .haltedError ∧ CountsTo lines i r ∧
      t.machine = (start.upTo lines (i + 1)).machine ∨
    t.runState = .idle ∧ (r.total = 0 ∧ r.processed = 0 ∧ r.executed = 0) ∧
      t.machine = (start.upTo lines (i + 1)).machine.reset

/-- **The end of a run at a failed line.** -/
theorem StandsAt.fails (hcourteous : ∀ a, allowed a → a.IsCourteous) (hhooks : t.hooks.Only allowed)
    {start : Machine} {size : Int} {batches : Nat} {next stop : Int}
    (h : StandsAt start (Program.load source) size batches (.line next stop) t) {r : RunResult}
    (hleg : (Place.line next stop).leg source t = .ok (.ended r) u) :
    ∃ (i : Nat) (fault : Fault), next = i ∧ i < linesIn (Program.load source) size (batches + 1) ∧
      FailsAt start (Text.lines source) i fault r { u.release with lastResult := some r } ∧
      (¬ allowed .detach → u.release.failures = t.failures ++
        if t.hooks.failure.isSome then [((i : Int) + 1, fault.message)] else []) ∧
      (¬ MayReset allowed → u.release.runState = .haltedError) := by
  obtain ⟨line, fault, v, hlt, hline, he, hfail⟩ := exists_of_line_ended hleg
  obtain ⟨i, rfl, hstop, -, -, hcourse, -⟩ := h
  obtain ⟨m', hm', hcarried, hunmoved⟩ := exists_of_executeLine_error allowed he
  have hmachine := hcourse.machine_executeLine hline
  rw [Step.final_of_error he] at hmachine
  set noted : Scheduler := { v with processed := (i : Int) }
  have honly : noted.hooks.Only allowed := hhooks.of_within hunmoved.hooks
  obtain ⟨hfailures, hrests⟩ := fail_reports hcourteous honly hfail
  rw [release_of_idle hrests.idle]
  have hr := result_of_fail hfail
  have hfailing : noted.failing ⟨(i : Int) + 1, fault⟩ = _ := enter_eq _ _
  have hstanding : v.toStanding = t.toStanding := hcarried.standing
  have hexecuted : v.executed = ((Text.lines source).take i).countP holdsInstruction :=
    (congrArg Standing.executed hstanding).trans hcourse.executed_eq
  have htotal : v.total = (Text.lines source).length :=
    (congrArg Standing.total hstanding).trans hcourse.total
  refine ⟨i, fault, rfl, by omega,
    ⟨⟨line, m', ⟨lines_of_line? hline, hcourse.done⟩, hcourse.machine ▸ hm'⟩, by rw [hr]; rfl,
      by rw [hr]; rfl, ?_⟩, fun hdetach => ?_, fun hnever => ?_⟩
  · rcases hrests.kept with ⟨hkept, hsame⟩ | ⟨-, hcleared, hreset⟩
    · rw [hfailing] at hkept hsame
      refine .inl ⟨congrArg Standing.runState hkept, ⟨?_, ?_, ?_⟩, hsame.trans hmachine⟩
      · rw [hr]
        exact (congrArg Standing.total hkept).trans htotal
      · rw [hr]
        exact congrArg Standing.processed hkept
      · rw [hr]
        exact (congrArg Standing.executed hkept).trans hexecuted
    · rw [hfailing] at hreset
      refine .inr ⟨congrArg Standing.runState hcleared, ⟨?_, ?_, ?_⟩,
        hreset.trans (congrArg Machine.reset hmachine)⟩
      · rw [hr]
        exact congrArg Standing.total hcleared
      · rw [hr]
        exact congrArg Standing.processed hcleared
      · rw [hr]
        exact congrArg Standing.executed hcleared
  · have hattached : noted.hooks = t.hooks := hunmoved.attached hdetach
    have hsame : noted.failures = t.failures := hunmoved.failures
    rw [hfailures hdetach, hattached, hsame]
  · rcases hrests.kept with ⟨hkept, -⟩ | ⟨hreset, -⟩
    · rw [hfailing] at hkept
      exact congrArg Standing.runState hkept
    · exact absurd hreset hnever

/-- A run that failed, among hooks that take the given actions. -/
lemma failed_run (hcourteous : ∀ a, allowed a → a.IsCourteous) (hdetach : ¬ allowed .detach)
    (hidle : s.isBusy = false) (hhooks : s.hooks.Only allowed) (hsize : 1 ≤ s.batchSize)
    {others : List (List Demand)}
    (hothers : ∀ demands ∈ others, ∀ demand ∈ demands, demand.IsCourteous) {r : RunResult}
    (hrun : runAmid source others s = .ok (some (.finished r)) t) (hfailed : r.status = .failed) :
    ∃ (i : Nat) (fault : Fault), FailsAt s.machine.reset (Text.lines source) i fault r t ∧
      t.failures = s.failures ++
        (if s.hooks.failure.isSome then [((i : Int) + 1, fault.message)] else []) ∧
      (¬ MayReset allowed → t.runState = .haltedError) := by
  have hfirst : Comes source s [] .opening _ := .accepted
  obtain ⟨met, place, v, hmet, hcomes, hcloses⟩ := hfirst.exists_closes others
  rw [← hfirst.runAmid_eq hidle, List.nil_append, hrun] at hcloses
  rw [List.nil_append] at hmet
  obtain ⟨hstands, hunmoved⟩ := hcomes.standsAt hcourteous hhooks hsize
    fun demands hdemands => hothers demands (hmet.subset hdemands)
  cases hcloses with
  | ended hleg =>
      obtain ⟨next, stop, rfl⟩ := exists_of_failed hleg hfailed
      obtain ⟨i, fault, -, -, hfails, hfailures, hhalted⟩ :=
        hstands.fails hcourteous (hhooks.of_within hunmoved.hooks) hleg
      refine ⟨i, fault, hfails, ?_, hhalted⟩
      rw [← hunmoved.attached hdetach, ← hunmoved.failures]
      exact hfailures hdetach

/-- **How a failed run is reported**, whatever hooks ask of the scheduler, as long as none of them
detaches itself.  The account names the first line that failed and its fault, and a hook for
failures has heard of just that, once.  The counters are those of the lines before the failed one if
the run leaves the scheduler halted; if a hook has reset it meanwhile, they are all zero. -/
theorem failed_run_reports {s t : Scheduler} (hidle : s.isBusy = false)
    (hhooks : s.hooks.Only fun a => a.IsCourteous ∧ a ≠ .detach) (hsize : 1 ≤ s.batchSize)
    {source : Text} {others : List (List Demand)}
    (hothers : ∀ demands ∈ others, ∀ demand ∈ demands, demand.IsCourteous) {r : RunResult}
    (hrun : runAmid source others s = .ok (some (.finished r)) t) (hfailed : r.status = .failed) :
    let lines := Text.lines source
    let start := s.machine.reset
    ∃ (i : Nat) (line : Text) (fault : Fault) (m' : Machine),
      start.Reaches lines i line ∧
      Machine.executeLine line (start.upTo lines i).machine = .error (.fault fault) m' ∧
      r.failure = some ⟨i + 1, fault⟩ ∧
      t.failures = s.failures ++
        (if s.hooks.failure.isSome then [((i : Int) + 1, fault.message)] else []) ∧
      (t.runState = .haltedError ∧ CountsTo lines i r ∨
        t.runState = .idle ∧ r.total = 0 ∧ r.processed = 0 ∧ r.executed = 0) ∧
      ((s.hooks.Only fun a => a ≠ .control .reset ∧ a ≠ .tryReset) → t.runState = .haltedError) := by
  intro lines start
  obtain ⟨i, fault, ⟨⟨line, m', hreach, hline⟩, -, hfailure, hleft⟩, hfailures, -⟩ :=
    failed_run (fun _ h => h.1) (fun h => h.2 rfl) hidle hhooks hsize hothers hrun hfailed
  refine ⟨i, line, fault, m', hreach, hline, hfailure, hfailures, ?_, fun hnever => ?_⟩
  · exact hleft.imp (fun h => ⟨h.1, h.2.1⟩) fun h => ⟨h.1, h.2.1⟩
  · obtain ⟨-, -, -, -, hhalted⟩ := failed_run (fun _ h => h.1.1) (fun h => h.1.2 rfl) hidle
      (hhooks.and hnever) hsize hothers hrun hfailed
    refine hhalted ?_
    rintro (hreset | hreset)
    · exact hreset.2.1 rfl
    · exact hreset.2.2 rfl

/-! ## Two runs that fail -/

/-- The account of a run that came to its end, and the state that it left. -/
def ended? : EStateM.Result Error Scheduler (Option Advance) → Option (RunResult × Scheduler)
  | .ok (some (.finished r)) t => some (r, t)
  | _ => none

lemma exists_of_ended? {α : Type} {f : RunResult × Scheduler → α} {a : α}
    {outcome : EStateM.Result Error Scheduler (Option Advance)}
    (h : (ended? outcome).map f = some a) :
    ∃ r t, outcome = .ok (some (.finished r)) t ∧ f (r, t) = a := by
  obtain ⟨⟨r, t⟩, hended, ha⟩ := Option.map_eq_some_iff.1 h
  refine ⟨r, t, ?_, ha⟩
  unfold ended? at hended
  split at hended <;> cases hended
  rfl

/-- A scheduler whose hook for failures asks for what is given. -/
def listening (actions : List HookAction) : Scheduler where
  machine := .initial 16
  batchSize := 1
  hooks :=
    { state := some fun _ _ => [.control .isBusy]
      progress := none
      failure := some fun _ _ => actions }

/-- The second line fails: there is no such register. -/
def secondFails : Text := ['m', 'u', 'l', ' ', 'a', 'x', '\n', 'p', 'o', 'p', ' ', 'z']

lemma only_listening {P : HookAction → Prop} (hquery : P (.control .isBusy))
    {actions : List HookAction} (hactions : ∀ a ∈ actions, P a) :
    (listening actions).hooks.Only P := by
  intro kind hook hk count event a ha
  cases kind with
  | state =>
      cases hk
      obtain rfl := List.mem_singleton.1 ha
      exact hquery
  | progress => cases hk
  | failure =>
      cases hk
      exact hactions a ha

theorem failed_run_reports_to_talkative :
    ∃ r t, runAmid secondFails [[.run ['p', 'o', 'p'], .control .reset]]
        (listening [.control .stop, .launch ['p', 'o', 'p']]) = .ok (some (.finished r)) t ∧
      t.runState = .haltedError ∧ ∃ i, CountsTo (Text.lines secondFails) i r := by
  have hended : (ended? (runAmid secondFails [[.run ['p', 'o', 'p'], .control .reset]]
      (listening [.control .stop, .launch ['p', 'o', 'p']]))).map (fun last =>
        (last.1.status, last.2.runState)) = some (.failed, .haltedError) := by decide +kernel
  obtain ⟨r, t, hrun, hr⟩ := exists_of_ended? hended
  simp only [Prod.mk.injEq] at hr
  have hothers : ∀ demands ∈ [[Demand.run ['p', 'o', 'p'], .control .reset]],
      ∀ demand ∈ demands, demand.IsCourteous := by
    simp [Demand.IsCourteous, HookAction.IsCourteous]
  obtain ⟨i, -, -, -, -, -, -, -, hcounts, -⟩ := failed_run_reports rfl
    (only_listening (by simp [HookAction.IsCourteous]) (by simp [HookAction.IsCourteous]))
    (by decide) hothers hrun hr.1
  refine ⟨r, t, hrun, hr.2, i, ?_⟩
  rcases hcounts with hcounts | hcleared
  · exact hcounts.2
  · rw [hr.2] at hcleared
    cases hcleared.1

/-- **A reset while the failure is reported** is in the account: it has a failed line, and not one
line in all. -/
theorem reset_in_report_clears_account :
    ∃ r t, runAmid secondFails [[]] (listening [.control .reset]) = .ok (some (.finished r)) t ∧
      r.status = .failed ∧ (r.failure.map Failure.line) = some 2 ∧
      (Text.lines secondFails).length = 2 ∧ r.total = 0 ∧ r.processed = 0 ∧ r.executed = 0 := by
  have hended : (ended? (runAmid secondFails [[]] (listening [.control .reset]))).map (fun last =>
      (last.1.status, last.1.failure.map Failure.line, last.1.total, last.1.processed,
        last.1.executed)) = some (.failed, some 2, 0, 0, 0) := by decide +kernel
  obtain ⟨r, t, hrun, hr⟩ := exists_of_ended? hended
  simp only [Prod.mk.injEq] at hr
  exact ⟨r, t, hrun, hr.1, hr.2.1, by decide +kernel, hr.2.2.1, hr.2.2.2.1, hr.2.2.2.2⟩

end Scheduler
end Asm16

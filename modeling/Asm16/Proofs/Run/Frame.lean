import Asm16.Proofs.Machine.Frame
import Asm16.Proofs.Run.Call
import Asm16.Proofs.Run.Outcome
import Asm16.Proofs.Run.WellFormed

/-!
# What a run may touch

What every line leaves alone is the same after all lines of a run, as long as hooks leave the
machine to the lines.

* `Machine.upTo_keeps` — what each line that is reached keeps is kept by all of them.
* `Machine.Tame` — the direction flag and the auxiliary carry are down, and the instruction pointer
  is at zero, unless a line that was carried out named it as its destination.
* `HookAction.IsPassive` — an action by which a hook does not reach the machine.
* `Scheduler.holds_leg` — wherever a run stands, its next leg leaves the machine that the lines up to
  there leave.
* `Scheduler.ComesTo`, `Scheduler.CarriesOut` — a run comes to a line, and carries it out.
* `Scheduler.Comes.comesTo` — a run has come to every line up to where it stands.
* `Scheduler.touches_what_it_may` — the frames of all lines, and of all runs.
-/

namespace Asm16

/-! ## Lines in a row -/

namespace Machine

open Step (Keeps)

variable {m start : Machine} {lines : List Text}

lemma machine_interpretLine (i : Nat) (line : Text) (m : Machine) :
    (interpretLine i line m).machine = (Step.final (executeLine line) m).settled := by
  rw [interpretLine, Step.final]
  cases executeLine line m with
  | ok i? m' => cases i? <;> rfl
  | error e m' => cases e <;> rfl

/-- One more line is carried out if it is reached. -/
lemma machine_upTo_succ (m : Machine) (lines : List Text) (n : Nat) :
    (m.upTo lines (n + 1)).machine = (m.upTo lines n).machine ∨
      ∃ line, m.Reaches lines n line ∧ (m.upTo lines (n + 1)).machine =
        (Step.final (executeLine line) (m.upTo lines n).machine).settled := by
  cases hline : lines[n]? with
  | none =>
      refine .inl ?_
      rw [upTo, upTo, List.take_add_one, hline, Option.toList_none, List.append_nil]
  | some line =>
      by_cases hdone : (m.upTo lines n).ending = .done
      · refine .inr ⟨line, ⟨hline, hdone⟩, ?_⟩
        rw [upTo_succ hline hdone, Interpretation.followedBy_machine, machine_interpretLine]
      · refine .inl ?_
        rw [upTo] at hdone ⊢
        rw [List.take_add_one, interpretFrom_append, if_neg hdone]
        rfl

/-- **What each line that is reached keeps is kept by all of them.** -/
theorem upTo_keeps {P : Machine → Prop} (hsettled : ∀ m, P m → P m.settled) (hstart : P m) :
    ∀ n, (∀ i < n, ∀ line, m.Reaches lines i line → P (m.upTo lines i).machine →
        P (Step.final (executeLine line) (m.upTo lines i).machine)) →
      P (m.upTo lines n).machine
  | 0, _ => hstart
  | n + 1, h => by
      have hbefore := upTo_keeps hsettled hstart n fun i hi => h i (Nat.lt_succ_of_lt hi)
      rcases machine_upTo_succ m lines n with hsame | ⟨line, hreach, hlast⟩
      · rw [hsame]
        exact hbefore
      · rw [hlast]
        exact hsettled _ (h n (Nat.lt_succ_self n) line hreach hbefore)

/-- The line at an index is reached, and it does not fail. -/
def Carries (m : Machine) (lines : List Text) (i : Nat) (line : Text) : Prop :=
  m.Reaches lines i line ∧ ∃ i? m', executeLine line (m.upTo lines i).machine = .ok i? m'

/-- The two flags are down, and the instruction pointer is at zero, unless a line named it that is
among those carried out. -/
structure Tame (carried : Nat → Text → Prop) (m : Machine) : Prop where
  level : m.IsLevel
  ip : m.valueAt .ip = 0 ∨ ∃ i line, carried i line ∧ Aims line .ip

lemma Tame.mono {carried carried' : Nat → Text → Prop} (h : Tame carried m)
    (hmore : ∀ i line, carried i line → carried' i line) : Tame carried' m :=
  ⟨h.level, h.ip.imp_right fun ⟨i, line, hcarried, haims⟩ => ⟨i, line, hmore i line hcarried, haims⟩⟩

/-- From a machine whose flags are down and whose instruction pointer is at zero, all is tame. -/
lemma tame_upTo (hlevel : start.IsLevel) (hip : start.valueAt .ip = 0) (lines : List Text)
    (n : Nat) :
    Tame (fun i line => i < n ∧ start.Carries lines i line) (start.upTo lines n).machine := by
  refine ⟨upTo_keeps (fun m h => ⟨h.df, h.af⟩) hlevel n fun _ _ line _ => keeps_isLevel line _, ?_⟩
  by_cases haims : ∃ i line, (i < n ∧ start.Carries lines i line) ∧ Aims line .ip
  · exact .inr haims
  · refine .inl (upTo_keeps (P := fun m => m.valueAt .ip = 0) (fun _ h => h) hip n ?_)
    intro i hi line hreach hzero
    rw [Step.final]
    cases hline : executeLine line (start.upTo lines i).machine with
    | ok i? m' =>
        have hcarries : start.Carries lines i line := ⟨hreach, i?, m', hline⟩
        have hkept := keeps_ip (fun h => haims ⟨i, line, ⟨hi, hcarries⟩, h⟩) _ hzero
        rw [Step.final_of_ok hline] at hkept
        exact hkept
    | error e m' => exact (valueAt_of_error hline (by decide)).trans hzero

lemma tame_reset (m : Machine) (lines : List Text) (n : Nat) :
    Tame (fun i line => i < n ∧ m.reset.Carries lines i line) (m.reset.upTo lines n).machine :=
  tame_upTo ⟨rfl, rfl⟩ rfl lines n

end Machine

/-- The number of lines that a run has come to when a leg from here is over. -/
def Place.through : Place → Scheduler → Int
  | .opening, _ => 0
  | .pause, t => t.processed
  | .line next stop, _ => if next < stop then next + 1 else next

/-! ## Hooks that leave the machine to the lines -/

/-- The action does not reach the machine: it records, looks, stops the run, asks for another one,
detaches the hook or gives up. -/
def HookAction.IsPassive (a : HookAction) : Prop :=
  a.IsCourteous ∧ a ≠ .control .reset ∧ a ≠ .tryReset

lemma not_mayReset_passive : ¬ MayReset HookAction.IsPassive := by
  rintro (h | h)
  · exact h.2.1 rfl
  · exact h.2.2 rfl

namespace Scheduler

open Step (Keeps)

variable {source : Text} {s t : Scheduler} {place : Place} {start m : Machine} {size : Int}
  {batches : Nat}

/-- The machine of the scheduler, and hooks that are passive. -/
structure Holds (m : Machine) (s : Scheduler) : Prop where
  machine : s.machine = m
  passive : s.hooks.Only HookAction.IsPassive

lemma Holds.heard {kind : HookKind} {e : Event} (h : Holds m s)
    (hheard : Heard HookAction.IsPassive kind e s t) : Holds m t := by
  rcases hheard with ⟨-, rfl⟩ | ⟨-, hmoves⟩
  · exact h
  · have hstill := hmoves.still fun hreset => absurd hreset not_mayReset_passive
    exact ⟨hstill.machine.trans h.machine, h.passive.of_within hmoves.unmoved.hooks⟩

lemma keeps_holds_callHook (kind : HookKind) (e : Event) :
    Keeps (Holds m) (callHook publish kind e) := fun _ h =>
  h.heard (heard_callHook (fun _ ha => ha.1) kind e h.passive)

lemma keeps_holds_publish : Keeps (Holds m) publish := fun _ h =>
  h.heard (heard_publish (fun _ ha => ha.1) h.passive)

/-- What leaves machine and hooks alone. -/
lemma Holds.of_eq (h : Holds m s) (hmachine : t.machine = s.machine) (hhooks : t.hooks = s.hooks) :
    Holds m t := ⟨hmachine.trans h.machine, hhooks ▸ h.passive⟩

lemma Holds.enter (h : Holds m s) (r : RunState) : Holds m (s.enter r) := by
  rw [enter_eq]
  exact h.of_eq rfl rfl

lemma keeps_holds_fail (program : Program) (f : Failure) : Keeps (Holds m) (fail program f) :=
  (Keeps.modify fun s h => (h.of_eq (t := s.write (s.failureLog f)) rfl rfl).enter _).bind fun _ =>
    keeps_holds_publish.bind fun _ => (keeps_holds_callHook _ _).bind fun _ =>
      Keeps.get.bind fun _ => .pure _

/-- A line of a run leaves the machine that plain interpretation of it leaves. -/
lemma holds_runLine {program : Program} {i : Nat} {line : Text}
    (hline : program.lines[i]? = some line) (h : s.hooks.Only HookAction.IsPassive) :
    Holds (s.machine.interpretLine i line).machine (Step.final (runLine program i) s) := by
  obtain ⟨s', hcarried, hmachine, hcases⟩ := runLine_cases hline s
  have hs' : Holds (s.machine.interpretLine i line).machine s' :=
    ⟨hmachine, hcarried.hooks ▸ h⟩
  rcases hcases with ⟨-, hrun⟩ | ⟨-, hrun⟩ | ⟨fault, -, hrun⟩ | ⟨e, -, hrun⟩
  · rw [Step.final_of_ok hrun]
    exact hs'
  · rw [Step.final, hrun, ← Step.final]
    exact keeps_holds_publish.bind (fun _ => .pure _) _ (hs'.of_eq rfl rfl)
  · rw [Step.final, hrun, ← Step.final]
    exact (keeps_holds_fail program _).bind (fun _ => .pure _) _ (hs'.of_eq rfl rfl)
  · rw [Step.final_of_error hrun]
    exact hs'

lemma keeps_holds_opening (source : Text) : Keeps (Holds m) (Place.opening.leg source) := by
  refine keeps_holds_publish.bind fun _ => Keeps.bind (fun s h => ?_) fun _ => .pure _
  rw [Step.final, load_apply]
  exact h.of_eq rfl rfl

lemma keeps_holds_pause (source : Text) : Keeps (Holds m) (Place.pause.leg source) := by
  intro s h
  rw [Step.final, Place.leg_pause]
  split_ifs
  · exact h
  · exact (h.of_eq (t := s.write s.cancelledEntries) rfl rfl).enter _
  · exact (h.of_eq (t := s.write s.completedEntries) rfl rfl).enter _

lemma keeps_holds_batchEnd {next stop : Int} (hle : stop ≤ next) (source : Text) :
    Keeps (Holds m) ((Place.line next stop).leg source) := by
  have hend : Keeps (Holds m) (endBatch stop) := fun s h =>
    keeps_holds_callHook .progress _ _ (h.of_eq rfl rfl)
  rw [Place.leg, if_neg (Int.not_lt.2 hle)]
  exact hend.bind fun _ => .pure _

/-- **A leg leaves the machine that the lines up to there leave**, wherever the run stands and
whichever way the leg ends. -/
theorem holds_leg (hstands : StandsAt start (Program.load source) size batches place t)
    (h : t.hooks.Only HookAction.IsPassive) :
    Holds (start.upTo (Text.lines source) (place.through t).toNat).machine
      (Step.final (place.leg source) t) := by
  cases place with
  | opening => exact keeps_holds_opening source t ⟨hstands.2.2.2, h⟩
  | pause =>
      rw [Place.through, hstands.2, Int.toNat_natCast]
      exact keeps_holds_pause source t ⟨hstands.1.machine, h⟩
  | line next stop =>
      obtain ⟨i, rfl, hstop, -, -, hcourse, -⟩ := hstands
      rcases Int.lt_or_le (i : Int) stop with hlt | hle
      · -- the line at hand is the next one that plain interpretation comes to
        have hi : i < (Program.load source).lines.size := by
          have hle : linesIn (Program.load source) size (batches + 1) ≤
              (Program.load source).lines.size := linesIn_le _ _ _
          omega
        have hline := Array.getElem?_eq_getElem hi
        have hreached := lines_of_line? ((Program.line?_natCast _ _).trans hline)
        have hmachine : t.machine = (start.upTo (Text.lines source) i).machine := hcourse.machine
        have hrun := holds_runLine hline h
        have hthrough : ((Place.line i stop).through t).toNat = i + 1 := by
          rw [Place.through, if_pos hlt]
          rfl
        rw [hthrough, Machine.upTo_succ hreached hcourse.done, Interpretation.followedBy_machine,
          ← hmachine, Step.final, Place.leg_line_of_lt hlt]
        rw [Step.final] at hrun
        cases hr : runLine (Program.load source) i t with
        | ok result? u =>
            rw [hr] at hrun
            cases result? <;> exact hrun
        | error e u =>
            rw [hr] at hrun
            exact hrun
      · rw [Place.through, if_neg (Int.not_lt.2 hle), Int.toNat_natCast]
        exact keeps_holds_batchEnd hle source t ⟨hcourse.machine, h⟩

/-- A run that is over, or that waits, has left the machine to its last leg. -/
lemma machine_closes {r : EStateM.Result Error Scheduler (Option Advance)}
    (h : Closes source place t r) :
    (Step.final (fun _ => r) t).machine = (Step.final (place.leg source) t).machine := by
  cases h with
  | ended hleg =>
      rw [Step.final_of_ok hleg]
      exact machine_release _
  | error hleg =>
      rw [Step.final_of_error hleg]
      exact machine_release _
  | waits hleg =>
      rw [Step.final_of_ok hleg]
      rfl

/-! ## The lines that a run comes to -/

/-- A run of the program comes to a line of it in a batch, when no more than these demands of others
have been met. -/
def ComesTo (source : Text) (s : Scheduler) (met : List (List Demand)) (i : Nat) (t : Scheduler) :
    Prop :=
  ∃ earlier stop, earlier <+: met ∧ Comes source s earlier (.line i stop) t ∧ (i : Int) < stop

/-- A run of the program carries a line of it out: it comes to the line, which does not fail there. -/
def CarriesOut (source : Text) (s : Scheduler) (met : List (List Demand)) (i : Nat) (line : Text) :
    Prop :=
  ∃ t i? u, ComesTo source s met i t ∧ (Program.load source).line? i = some line ∧
    executeLine line t = .ok i? u

section Lines

variable {met others : List (List Demand)} {i : Nat}

lemma ComesTo.mono (h : ComesTo source s met i t) (hmet : met <+: others) :
    ComesTo source s others i t := by
  obtain ⟨earlier, stop, hearlier, hcomes, hlt⟩ := h
  exact ⟨earlier, stop, hearlier.trans hmet, hcomes, hlt⟩

/-- A run that has come to all lines behind it has come to the one at hand as well. -/
lemma Comes.comesTo_line {next stop : Int} (h : Comes source s met (.line next stop) t)
    (hbehind : ∀ i : Nat, (i : Int) < next → ∃ u, ComesTo source s met i u)
    (hi : (i : Int) < (Place.line next stop).through t) : ∃ u, ComesTo source s met i u := by
  rw [Place.through] at hi
  split_ifs at hi with hlt
  · rcases Int.lt_or_eq_of_le (Int.lt_add_one_iff.1 hi) with hless | rfl
    · exact hbehind i hless
    · exact ⟨t, met, stop, List.prefix_refl met, h, hlt⟩
  · exact hbehind i hi

/-- **A run has come to every line up to where it stands**, by induction on the way there. -/
theorem Comes.comesTo (h : Comes source s met place t) (hhooks : s.hooks.Courteous)
    (hsize : 1 ≤ s.batchSize) (hmet : ∀ demands ∈ met, ∀ demand ∈ demands, demand.IsCourteous)
    (hi : (i : Int) < place.through t) : ∃ u, ComesTo source s met i u := by
  induction h generalizing i with
  | accepted => exact absurd hi (by simp [Place.through])
  | onward h hleg ih =>
      have hthere := h.onward hleg
      cases Place.passes_of_leg hleg with
      | opened => exact absurd hi (by simp [Place.through])
      | begun => exact hthere.comesTo_line (fun i => ih hmet) hi
      | carried hlt =>
          refine hthere.comesTo_line (fun i hi => ih hmet ?_) hi
          rw [Place.through, if_pos hlt]
          exact hi
  | @resumed met place t u demands h hleg ih =>
      have hbefore : ∀ ds ∈ met, ∀ demand ∈ ds, demand.IsCourteous := fun ds hds =>
        hmet ds (List.mem_append_left _ hds)
      have hwaits := ((h.standsAt (fun _ => id) hhooks hsize hbefore).1.waits hleg).meetAll
        (hmet demands (by simp))
      cases Place.passes_of_leg hleg with
      | batchDone hle =>
          obtain ⟨⟨k, -, hstop, -⟩, -⟩ := h.standsAt (fun _ => id) hhooks hsize hbefore
          obtain ⟨u, hu⟩ := ih hbefore (i := i) (by
            rw [Place.through, hwaits.2] at hi
            rw [Place.through, if_neg (Int.not_lt.2 hle)]
            omega)
          exact ⟨u, hu.mono (List.prefix_append _ _)⟩

/-- The lines in front of a call are among those that the run has come to. -/
lemma Calls.lines_le {call : Call} {u : Scheduler} (h : Calls source place t call u) :
    call.lines ≤ place.through t := by
  induction h with
  | opened => exact Int.le_refl 0
  | carried hlt | failed hlt => rw [Place.through, if_pos hlt]; exact Int.le_refl _
  | reported _ _ ih => exact ih
  | progressed hle => rw [Place.through, if_neg (Int.not_lt.2 hle)]; exact hle

/-- A line that a run comes to is carried out if plain interpretation carries it out. -/
lemma ComesTo.carriesOut {line : Text} (h : ComesTo source s met i t) (hhooks : s.hooks.Courteous)
    (hsize : 1 ≤ s.batchSize) (hmet : ∀ demands ∈ met, ∀ demand ∈ demands, demand.IsCourteous)
    (hcarries : s.machine.reset.Carries (Text.lines source) i line) :
    CarriesOut source s met i line := by
  obtain ⟨earlier, stop, hearlier, hcomes, hlt⟩ := h
  obtain ⟨⟨k, hk, hstop, -, -, hcourse, -⟩, -⟩ := hcomes.standsAt (fun _ => id) hhooks hsize
    fun ds hds => hmet ds (hearlier.subset hds)
  obtain rfl : i = k := Int.ofNat.inj hk
  obtain ⟨line', hline'⟩ := exists_line_of_lt (hstop ▸ hlt)
  obtain ⟨⟨hline, -⟩, i?, m', hm'⟩ := hcarries
  obtain rfl : line' = line := Option.some.inj ((lines_of_line? hline').symm.trans hline)
  have hmachine : t.machine = (s.machine.reset.upTo (Text.lines source) i).machine := hcourse.machine
  rw [← hmachine] at hm'
  exact ⟨t, i?, _, ⟨earlier, stop, hearlier, hcomes, hlt⟩, hline', by rw [executeLine_apply, hm']⟩

end Lines

/-! ## Whole runs -/

/-- The machine that a run leaves, whichever way it ends, is that of lines that it has come to. -/
lemma exists_machine_runAmid (hidle : s.isBusy = false) (hsize : 1 ≤ s.batchSize)
    (hhooks : s.hooks.Only HookAction.IsPassive) {others : List (List Demand)}
    (hothers : ∀ demands ∈ others, ∀ demand ∈ demands, demand.IsCourteous) :
    ∃ n, (Step.final (runAmid source others) s).machine =
        (s.machine.reset.upTo (Text.lines source) n).machine ∧
      ∀ i < n, ∃ t, ComesTo source s others i t := by
  have haccepted : Comes source s [] .opening _ := .accepted
  obtain ⟨met, place, t, hmet, hcomes, hcloses⟩ := haccepted.exists_closes others
  rw [← haccepted.runAmid_eq hidle others, List.nil_append] at hcloses
  rw [List.nil_append] at hmet
  have hbefore : ∀ demands ∈ met, ∀ demand ∈ demands, demand.IsCourteous :=
    fun demands hdemands => hothers demands (hmet.subset hdemands)
  obtain ⟨hstands, hunmoved⟩ := hcomes.standsAt (fun _ ha => ha.1) hhooks hsize hbefore
  have hholds := holds_leg hstands (hhooks.of_within hunmoved.hooks)
  refine ⟨_, (machine_closes hcloses).trans hholds.machine, fun i hi => ?_⟩
  obtain ⟨u, hu⟩ := hcomes.comesTo (hhooks.mono fun _ ha => ha.1) hsize hbefore
    (Int.lt_toNat.1 hi)
  exact ⟨u, hu.mono hmet⟩

/-- What a hook for snapshots is shown is the machine. -/
lemma flags_of_event {call : Call} {snapshot : Snapshot} {cells : Cells} {standing : Standing}
    (h : call.event s = .state snapshot cells standing) : snapshot.flags = s.machine.flags := by
  cases call <;> cases h <;> rfl

/-- **Lines and runs touch only what they may.**  A line that is carried out without watchers changes
nothing but the registers, flags and cells of its operation, and nothing at all if it holds no
instruction.  In every run with passive hooks the direction flag and the auxiliary carry are down
whenever a hook is called, and the instruction pointer is at zero until the run has carried out a
line that names it as its destination; so it is when the run is over, with the machine of the lines
that it has come to. -/
theorem touches_what_it_may :
    (∀ (m m' : Machine) (line : Text) (i? : Option Instruction), m.memory.subscribed = [] →
        Machine.executeLine line m = .ok i? m' →
        Instruction.decode line = .ok i? ∧ (i? = none → m' = m) ∧
          ∀ i, i? = some i → ∃ operation, Operation.of i = .ok operation ∧ m.Touches operation m') ∧
      ∀ (source : Text) (others : List (List Demand)) (s : Scheduler), s.isBusy = false →
        1 ≤ s.batchSize → s.hooks.Only HookAction.IsPassive →
        (∀ demands ∈ others, ∀ demand ∈ demands, demand.IsCourteous) →
        (∀ met place t call u, met <+: others → Comes source s met place t →
            Calls source place t call u →
            Machine.Tame (fun i line => (i : Int) < call.lines ∧ CarriesOut source s met i line)
                u.machine ∧
              ∀ snapshot cells standing, call.event u = .state snapshot cells standing →
                snapshot.flags.get .df = false ∧ snapshot.flags.get .af = false) ∧
          Machine.Tame (CarriesOut source s others) (Step.final (runAmid source others) s).machine ∧
            ∃ n, (Step.final (runAmid source others) s).machine =
                (s.machine.reset.upTo (Text.lines source) n).machine ∧
              ∀ i < n, ∃ t, ComesTo source s others i t := by
  refine ⟨fun m m' line i? h hline => Machine.touches_of_executeLine h hline, ?_⟩
  intro source others s hidle hsize hhooks hothers
  have hcourteous : s.hooks.Courteous := hhooks.mono fun _ ha => ha.1
  constructor
  · intro met place t call u hmet hcomes hcalls
    have hbefore : ∀ demands ∈ met, ∀ demand ∈ demands, demand.IsCourteous :=
      fun demands hdemands => hothers demands (hmet.subset hdemands)
    obtain ⟨hstands, hunmoved⟩ := hcomes.standsAt (fun _ ha => ha.1) hhooks hsize hbefore
    have hmachine := (hcalls.machine (fun _ ha => ha.1) (fun _ => not_mayReset_passive)
      (hhooks.of_within hunmoved.hooks) hstands).1
    have htame := Machine.tame_reset s.machine (Text.lines source) call.lines.toNat
    rw [← hmachine] at htame
    refine ⟨htame.mono ?_, fun snapshot cells standing hevent => ?_⟩
    · rintro i line ⟨hi, hcarries⟩
      obtain ⟨v, hv⟩ := hcomes.comesTo hcourteous hsize hbefore
        (Int.lt_of_lt_of_le (Int.lt_toNat.1 hi) hcalls.lines_le)
      exact ⟨Int.lt_toNat.1 hi, hv.carriesOut hcourteous hsize hbefore hcarries⟩
    · rw [flags_of_event hevent]
      exact ⟨htame.level.df, htame.level.af⟩
  · obtain ⟨n, hn, hcome⟩ := exists_machine_runAmid hidle hsize hhooks hothers
    refine ⟨?_, n, hn, hcome⟩
    rw [hn]
    refine (Machine.tame_reset s.machine (Text.lines source) n).mono ?_
    rintro i line ⟨hi, hcarries⟩
    obtain ⟨t, ht⟩ := hcome i hi
    exact ht.carriesOut hcourteous hsize hothers hcarries

/-- A small scheduler with a hook that stops every run as soon as it is called. -/
def impeding : Scheduler where
  machine := .initial 16
  batchSize := 1
  hooks := { state := some fun _ _ => [.control .stop], progress := none, failure := none }

lemma only_impeding : impeding.hooks.Only HookAction.IsPassive := by
  intro kind hook hk count event a ha
  cases kind with
  | state =>
      cases hk
      obtain rfl := List.mem_singleton.1 ha
      exact ⟨trivial, by simp, by simp⟩
  | progress | failure => cases hk

/-- A store of a word at 4, which leaves the cell 6 alone, and a run that is stopped at once. -/
theorem store_and_stopped_run_touch_what_they_may :
    (∃ m', Machine.executeLine ['m', 'o', 'v', ' ', '[', '4', ']', ',', '7'] (.initial 16) =
          .ok (some ⟨['m', 'o', 'v'], [['[', '4', ']'], ['7']]⟩) m' ∧
        m'.memory.cells.byte 6 = 0 ∧ m'.flags.get .df = false) ∧
      (Step.final (runAmid ['a', 'd', 'd', ' ', 'i', 'p', ',', '1'] [[]]) impeding).machine.IsLevel ∧
      impeding.machine.reset.snapshot.flags.get .af = false := by
  obtain ⟨hlines, hruns⟩ := touches_what_it_may
  have hothers : ∀ demands ∈ [([] : List Demand)], ∀ demand ∈ demands, demand.IsCourteous := by simp
  obtain ⟨hcalls, htame, -⟩ := hruns ['a', 'd', 'd', ' ', 'i', 'p', ',', '1'] [[]] impeding rfl
    (by decide) only_impeding hothers
  have hopened := hcalls [] .opening _ .opened _ (List.nil_prefix) .accepted (.opened _)
  refine ⟨⟨_, rfl, ?_⟩, htame.level, (hopened.2 _ _ _ rfl).2⟩
  obtain ⟨-, -, htouches⟩ := hlines (.initial 16) _
    ['m', 'o', 'v', ' ', '[', '4', ']', ',', '7'] _ rfl rfl
  obtain ⟨operation, hof, htouched⟩ := htouches _ rfl
  cases hof
  exact ⟨htouched.cells 6 (by decide), htouched.direction⟩

end Scheduler
end Asm16

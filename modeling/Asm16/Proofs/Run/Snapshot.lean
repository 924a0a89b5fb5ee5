import Asm16.Proofs.Run.Abort
import Asm16.Proofs.Run.Counters
import Asm16.Proofs.Run.Lasting

/-!
# The count of instructions in a snapshot

A hook for snapshots may look up the counters of the scheduler that calls it.  A run counts an
instruction before it publishes it, so the hook finds the instructions of that run, but for the
first snapshot: that one is published before the counters are set for the program, and the hook
finds there what the run before has left.  A reset clears the counters before it publishes, so it
shows none.

Nothing is asked of the hooks here, or of what others do while the run waits: whatever it is, it
does not reach the count.

* `Covers` — a run comes to a place with these lines behind it (`Comes.exists_covers`).
* `Event.Shows`, `lasting_shows` — what snapshots show of the standing, and what hooks cannot change
  about it.
* `Covers.countsAt` — the count that a run has at a place.
* `snapshots_count_own_run` — what is found in each snapshot.
-/

namespace Asm16

namespace Event

/-- The standing that the hook could see, if the event is a snapshot. -/
def standing? : Event → Option Standing
  | .state _ _ standing => some standing
  | _ => none

/-- If the event is a snapshot, the hook could see such a standing. -/
def Shows (A : Standing → Prop) (e : Event) : Prop := ∀ seen, e.standing? = some seen → A seen

lemma Shows.of_none {A : Standing → Prop} {e : Event} (h : e.standing? = none) : e.Shows A := by
  intro seen hseen
  rw [h] at hseen
  cases hseen

lemma Shows.mono {A B : Standing → Prop} {e : Event} (h : e.Shows A)
    (himp : ∀ seen, A seen → B seen) : e.Shows B := fun seen hseen => himp seen (h seen hseen)

end Event

/-- The line that a leg from a place carries out. -/
def Place.lineOf (source : Text) : Place → List Text
  | .line next _ => ((Program.load source).line? next).toList
  | _ => []

/-- The instructions counted when a call is made in a run that has these lines behind it; when it
begins, those that it found. -/
def Call.counted (found : Nat) (ran : List Text) : Call → Nat
  | .opened => found
  | .carried _ => ran.countP holdsInstruction + 1
  | .failed _ | .reported _ | .progressed _ => ran.countP holdsInstruction

namespace Scheduler

variable {source : Text} {s t u v : Scheduler} {place next : Place} {met : List (List Demand)}
  {ran : List Text} {call : Call} {A : Standing → Prop}

/-! ## Lines that a run has behind it -/

/-- A run of the program from `s` comes to a place with the lines `ran` carried out, in this
order. -/
inductive Covers (source : Text) (s : Scheduler) : List Text → Place → Scheduler → Prop
  | accepted : Covers source s [] .opening { s.enter .running with machine := s.machine.reset }
  | onward {ran : List Text} {place next : Place} {t u : Scheduler}
      (h : Covers source s ran place t) (hleg : place.leg source t = .ok (.onward next) u) :
      Covers source s (ran ++ place.lineOf source) next u
  | resumed {ran : List Text} {place : Place} {t u : Scheduler} (demands : List Demand)
      (h : Covers source s ran place t) (hleg : place.leg source t = .ok .waits u) :
      Covers source s ran .pause (Demand.meetAll demands u)

/-- Wherever a run comes to, it has some lines behind it. -/
lemma Comes.exists_covers (h : Comes source s met place t) :
    ∃ ran, Covers source s ran place t := by
  induction h with
  | accepted => exact ⟨[], .accepted⟩
  | onward _ hleg ih =>
      obtain ⟨ran, hcovers⟩ := ih
      exact ⟨_, hcovers.onward hleg⟩
  | resumed demands _ hleg ih =>
      obtain ⟨ran, hcovers⟩ := ih
      exact ⟨ran, hcovers.resumed demands hleg⟩

/-! ## What snapshots show -/

/-- A property of the standing that a stop and a reset keep is kept by hooks, and every snapshot
that they lead to shows it. -/
lemma lasting_shows (hstop : ∀ seen, A seen → seen.runState = .running →
      A { seen with runState := .stopping })
    (hclear : ∀ seen, A seen → seen.runState.isBusy = false → A {}) (s₀ : Scheduler) :
    Lasting (fun _ _ => True) fun s => A s.toStanding ∧ Tells (Event.Shows A) s₀ s where
  hooks _ _ _ _ _ _ _ _ := trivial
  write h _ := ⟨h.1, h.2.trans (.of_told_eq rfl)⟩
  absorb h m := ⟨h.1, h.2.trans (.absorb (fun _ => .of_none rfl) _ m)⟩
  note h := ⟨h.1, h.2.trans (.record (.of_none rfl) _)⟩
  shown h := by
    refine ⟨h.1, h.2.trans ⟨[_], rfl, ?_⟩⟩
    intro e he seen hseen
    obtain rfl := List.mem_singleton.1 he
    cases hseen
    exact h.1
  launch h _ := ⟨h.1, h.2.trans (.of_told_eq rfl)⟩
  clear h hidle := by
    rw [cleared, enter_eq]
    exact ⟨hclear _ h.1 hidle, h.2.trans (.of_told_eq rfl)⟩
  stop h _ _ := by
    rw [Scheduler.stop]
    split_ifs with hrunning
    · rw [enter_eq]
      exact ⟨hstop _ h.1 hrunning, h.2.trans (.of_told_eq rfl)⟩
    · exact h
  resize h _ _ _ := ⟨h.1, h.2.trans (.of_told_eq rfl)⟩
  detach h _ _ := ⟨h.1, h.2.trans (.of_told_eq rfl)⟩

/-- While a run is in progress nothing that hooks do changes the count. -/
lemma lasting_busy (n : Nat) (s₀ : Scheduler) :
    Lasting (fun _ _ => True) fun s => (s.isBusy = true ∧ s.executed = n) ∧
      Tells (Event.Shows fun seen => seen.runState.isBusy = true ∧ seen.executed = n) s₀ s :=
  lasting_shows (A := fun seen => seen.runState.isBusy = true ∧ seen.executed = n)
    (fun _ h _ => ⟨rfl, h.2⟩)
    (fun _ h hidle => absurd h.1 (by rw [hidle]; exact Bool.false_ne_true)) s₀

/-- At rest hooks clear the counters, or leave the count. -/
lemma lasting_resting (n : Nat) (s₀ : Scheduler) :
    Lasting (fun _ _ => True) fun s =>
      (s.toStanding = {} ∨ s.runState = .haltedError ∧ s.executed = n) ∧
        Tells (Event.Shows fun seen => seen = {} ∨ seen.runState = .haltedError ∧ seen.executed = n)
          s₀ s :=
  lasting_shows (A := fun seen => seen = {} ∨ seen.runState = .haltedError ∧ seen.executed = n)
    (fun seen h hrunning => by
      rcases h with rfl | ⟨hhalted, -⟩
      · cases hrunning
      · rw [hhalted] at hrunning
        cases hrunning)
    (fun _ _ _ => .inl rfl) s₀

lemma Carried.shows (h : Carried s t) : Tells (Event.Shows A) s t := by
  obtain ⟨notices, hnotices⟩ := h.told
  refine ⟨_, hnotices, fun e he => ?_⟩
  obtain ⟨n, -, rfl⟩ := List.mem_map.1 he
  exact .of_none rfl

/-! ## The count at a place -/

/-- The count of a run that has these lines behind it; at the opening it is what the run found. -/
structure CountsAt (found : Nat) (ran : List Text) (place : Place) (t : Scheduler) : Prop where
  busy : t.isBusy = true
  opening : place = .opening → ran = [] ∧ t.executed = found
  past : place ≠ .opening → t.executed = ran.countP holdsInstruction

/-- A line after which the run goes on is counted if it holds an instruction. -/
lemma executed_of_runLine {i : Int} (hbusy : t.isBusy = true)
    (h : runLine (Program.load source) i t = .ok none u) :
    ∃ line, (Program.load source).line? i = some line ∧ u.isBusy = true ∧
      u.executed = t.executed + [line].countP holdsInstruction := by
  obtain ⟨line, i?, v, hline, hv, hends⟩ := exists_of_runLine h
  have hcarried := carried_executeLine line t
  rw [Step.final_of_ok hv] at hcarried
  have hvbusy : v.isBusy = true := by rw [isBusy, hcarried.standing]; exact hbusy
  have hvcount : v.executed = t.executed := congrArg Standing.executed hcarried.standing
  have hholds : i?.isSome = holdsInstruction line := by
    rw [executeLine_apply] at hv
    cases hm : Machine.executeLine line t.machine <;> rw [hm] at hv <;> cases hv
    exact Machine.isSome_of_executeLine hm
  refine ⟨line, hline, ?_⟩
  rw [List.countP_singleton, ← hholds]
  rcases hends with ⟨rfl, rfl⟩ | ⟨hsome, hp⟩
  · exact ⟨hvbusy, hvcount⟩
  · have hkept := (lasting_busy (v.executed + 1) { v with executed := v.executed + 1 }).publish
      { v with executed := v.executed + 1 } ⟨⟨hvbusy, rfl⟩, .refl _⟩
    rw [Step.final_of_ok hp] at hkept
    rw [hsome, if_pos rfl, ← hvcount]
    exact hkept.1

/-- Others do not reach the count of a run that waits. -/
lemma count_meetAll {n : Nat} : ∀ (demands : List Demand) {t : Scheduler},
    t.isBusy = true ∧ t.executed = n →
      (Demand.meetAll demands t).isBusy = true ∧ (Demand.meetAll demands t).executed = n
  | [], _, h => h
  | demand :: rest, t, h => by
      have hmet := (lasting_busy n t).meet .state demand (fun _ _ => trivial) h.1 ⟨h, .refl t⟩
      exact count_meetAll rest hmet.1

/-- **The count of a run is that of the lines behind it**, whatever hooks and others do. -/
theorem Covers.countsAt (h : Covers source s ran place t) : CountsAt s.executed ran place t := by
  induction h with
  | accepted =>
      rw [enter_eq]
      exact ⟨rfl, fun _ => ⟨rfl, rfl⟩, fun hnot => absurd rfl hnot⟩
  | @onward ran place next t u _ hleg ih =>
      cases Place.passes_of_leg hleg with
      | @opened _ v hp =>
          obtain ⟨rfl, -⟩ := ih.opening rfl
          have hkept := (lasting_busy t.executed t).publish t ⟨⟨ih.busy, rfl⟩, .refl t⟩
          rw [Step.final_of_ok hp] at hkept
          exact ⟨hkept.1.1, Place.noConfusion, fun _ => rfl⟩
      | begun =>
          have hcount : t.executed = _ := ih.past Place.noConfusion
          have hnone : ran ++ Place.pause.lineOf source = ran := List.append_nil ran
          exact ⟨ih.busy, Place.noConfusion, fun _ => hnone.symm ▸ hcount⟩
      | carried _ hr =>
          have hcount : t.executed = _ := ih.past Place.noConfusion
          obtain ⟨line, hline, hbusy, hexecuted⟩ := executed_of_runLine ih.busy hr
          refine ⟨hbusy, Place.noConfusion, fun _ => ?_⟩
          rw [hexecuted, hcount, Place.lineOf, hline, Option.toList_some, List.countP_append]
  | @resumed ran place t u demands _ hleg ih =>
      cases Place.passes_of_leg hleg with
      | @batchDone _ stop _ _ _ he =>
          have hcount : t.executed = _ := ih.past Place.noConfusion
          set counted : Scheduler := { t with processed := stop }
          have hlast := lasting_busy t.executed counted
          have hkept := hlast.callHook hlast.publish .progress (.progress stop t.total)
            (s := counted) ⟨⟨ih.busy, rfl⟩, .refl _⟩
            ⟨⟨ih.busy, rfl⟩, .record (e := .progress stop t.total) (.of_none rfl) counted⟩
          have he' : callHook publish .progress (.progress stop t.total) counted = .ok () u := he
          rw [Step.final_of_ok he'] at hkept
          obtain ⟨hbusy, hexecuted⟩ := count_meetAll demands hkept.1
          exact ⟨hbusy, Place.noConfusion, fun _ => hexecuted.trans hcount⟩

/-! ## The snapshots of a leg -/

/-- **The count that a call finds** in a run that has the lines `ran` behind it. -/
theorem Covers.executed_of_calls (h : Covers source s ran place t)
    (hcall : Calls source place t call u) (hkind : call.kind = .state) :
    u.executed = call.counted s.executed ran := by
  have hcounts := h.countsAt
  cases hcall with
  | opened => exact (hcounts.opening rfl).2
  | @carried _ _ line _ _ v _ _ hv =>
      have hcarried := carried_executeLine line t
      rw [Step.final_of_ok hv] at hcarried
      have hcount : v.executed = t.executed := congrArg Standing.executed hcarried.standing
      have hpast : t.executed = _ := hcounts.past Place.noConfusion
      exact congrArg (· + 1) (hcount.trans hpast)
  | @failed _ _ line _ _ v _ _ hv =>
      have hcarried := carried_executeLine line t
      rw [Step.final_of_error hv] at hcarried
      have hcount : v.executed = t.executed := congrArg Standing.executed hcarried.standing
      rw [failing, enter_eq]
      exact hcount.trans (hcounts.past Place.noConfusion)
  | reported | progressed => cases hkind

/-- What is shown is nothing after a reset, or the count that some call of the leg finds. -/
def ShownIn (source : Text) (found : Nat) (ran : List Text) (place : Place) (t : Scheduler)
    (seen : Standing) : Prop :=
  seen = {} ∨ ∃ call u, Calls source place t call u ∧ seen.executed = call.counted found ran

/-- Whichever hook is called while a run is in progress, a snapshot would show the count of the
run. -/
lemma tells_make (call : Call) (hbusy : u.isBusy = true) :
    Tells (Event.Shows fun seen => seen.executed = u.executed) u (Step.final call.make u) := by
  have hlast := lasting_busy u.executed u
  have hstart := And.intro (And.intro hbusy (Eq.refl u.executed))
    (Tells.refl (P := Event.Shows fun seen =>
      seen.runState.isBusy = true ∧ seen.executed = u.executed) u)
  have hcalled : ∀ {kind : HookKind} {e : Event}, e.standing? = none →
      Tells (Event.Shows fun seen => seen.executed = u.executed) u
        (Step.final (callHook publish kind e) u) := fun he =>
    (hlast.callHook hlast.publish _ _ hstart ⟨hstart.1, .record (.of_none he) u⟩).2.mono
      fun _ he => he.mono fun _ h => h.2
  cases call with
  | opened | carried | failed =>
      exact (hlast.publish u hstart).2.mono fun _ he => he.mono fun _ h => h.2
  | reported | progressed => exact hcalled rfl

/-- While a failure is reported snapshots show its count, or they follow a reset. -/
lemma tells_fail {n : Nat} (program : Program) (f : Failure) (hcount : t.executed = n) :
    Tells (Event.Shows fun seen => seen = {} ∨ seen.executed = n) t
      (Step.final (fail program f) t) := by
  have hlast := lasting_resting n t
  have hfailing : Tells (Event.Shows fun seen =>
      seen = {} ∨ seen.runState = .haltedError ∧ seen.executed = n) t (t.failing f) := by
    rw [failing, enter_eq]
    exact .of_told_eq rfl
  have hpublished := hlast.publish (t.failing f)
    ⟨.inr ⟨runState_enter _ _, by rw [failing, enter_eq]; exact hcount⟩, hfailing⟩
  suffices hkept : Tells (Event.Shows fun seen =>
      seen = {} ∨ seen.runState = .haltedError ∧ seen.executed = n) t
      (Step.final (fail program f) t) from
    hkept.mono fun _ he => he.mono fun _ h => h.imp id And.right
  rw [Step.final, fail_eq]
  rw [Step.final] at hpublished
  cases hp : publish (t.failing f) with
  | error e v =>
      rw [hp] at hpublished
      exact hpublished.2
  | ok _ v =>
      rw [hp] at hpublished
      have hreported := hlast.callHook hlast.publish .failure (.failure f.line f.fault.message)
        hpublished ⟨hpublished.1, hpublished.2.trans (.record (.of_none rfl) v)⟩
      rw [Step.final] at hreported
      simp only
      cases hr : callHook publish .failure (.failure f.line f.fault.message) v <;>
        rw [hr] at hreported <;> exact hreported.2

/-- In a line that is carried out snapshots show the count with that line, and in one that fails the
count without it. -/
lemma tells_runLine {found : Nat} {next stop : Int} (hlt : next < stop)
    (hpast : t.executed = ran.countP holdsInstruction) (hbusy : t.isBusy = true) :
    Tells (Event.Shows (ShownIn source found ran (.line next stop) t)) t
      (Step.final (runLine (Program.load source) next) t) := by
  cases hline : (Program.load source).line? next with
  | none =>
      rw [Step.final_of_error (runLine_of_no_line hline t)]
      exact .refl t
  | some line =>
      have hcarried := carried_executeLine line t
      have hcount : (Step.final (executeLine line) t).executed = ran.countP holdsInstruction :=
        (congrArg Standing.executed hcarried.standing).trans hpast
      have hshown : Tells (Event.Shows (ShownIn source found ran (.line next stop) t)) t
          (Step.final (executeLine line) t) := hcarried.shows
      have hbusy' : (Step.final (executeLine line) t).isBusy = true := by
        rw [isBusy, hcarried.standing]
        exact hbusy
      rw [Step.final, runLine_of_line? hline]
      cases he : executeLine line t with
      | ok i? v =>
          rw [Step.final_of_ok he] at hcount hshown hbusy'
          cases i? with
          | none => exact hshown
          | some instruction =>
              have hcall := Calls.carried hlt hline he
              have htold := (tells_make (.carried next) (u := { v with executed := v.executed + 1 })
                hbusy').mono fun _ he => he.mono fun seen hseen =>
                  (.inr ⟨_, _, hcall, hseen.trans (congrArg (· + 1) hcount)⟩ :
                    ShownIn source found ran _ t seen)
              have hall := hshown.trans htold
              rw [Step.final] at hall
              simp only
              cases hp : publish { v with executed := v.executed + 1 } <;>
                simp only [Call.make, hp] at hall <;> exact hall
      | error e v =>
          rw [Step.final_of_error he] at hcount hshown
          cases e with
          | fault fault =>
              have hcall := Calls.failed hlt hline he
              have htold := (tells_fail (Program.load source) ⟨next + 1, fault⟩
                (t := { v with processed := next }) hcount).mono fun _ he =>
                he.mono fun seen hseen =>
                  (hseen.imp id fun h => ⟨_, _, hcall, h⟩ : ShownIn source found ran _ t seen)
              have hall := hshown.trans htold
              rw [Step.final] at hall
              simp only
              cases hf : fail (Program.load source) ⟨next + 1, fault⟩
                  { v with processed := next } <;>
                simp only [hf] at hall <;> exact hall
          | _ => exact hshown

/-- **What snapshots show in a leg** is the count that one of its calls finds, or that of a
reset. -/
theorem Covers.tells_leg (h : Covers source s ran place t) :
    Tells (Event.Shows (ShownIn source s.executed ran place t)) t
      (Step.final (place.leg source) t) := by
  have hcounts := h.countsAt
  cases place with
  | opening =>
      have htold := tells_make .opened hcounts.busy
      have hshown : Tells (Event.Shows (ShownIn source s.executed ran .opening t)) t
          (Step.final publish t) := htold.mono fun _ he => he.mono fun seen hseen =>
        .inr ⟨.opened, t, .opened t, hseen.trans (hcounts.opening rfl).2⟩
      rw [Step.final] at hshown ⊢
      rw [Place.leg_opening]
      cases hp : publish t <;> rw [hp] at hshown <;> exact hshown
  | pause =>
      rw [Step.final, Place.leg_pause]
      split_ifs
      · exact .refl t
      · simp only [enter_eq]
        exact .of_told_eq rfl
      · simp only [enter_eq]
        exact .of_told_eq rfl
  | line next stop =>
      have hpast : t.executed = _ := hcounts.past Place.noConfusion
      rcases Int.lt_or_le next stop with hlt | hle
      · have hsame : Step.final ((Place.line next stop).leg source) t =
            Step.final (runLine (Program.load source) next) t := by
          rw [Step.final, Step.final, Place.leg_line_of_lt hlt]
          cases runLine (Program.load source) next t with
          | error e v => rfl
          | ok r? v => cases r? <;> rfl
        rw [hsame]
        exact tells_runLine hlt hpast hcounts.busy
      · have hcall : Calls source (.line next stop) t (.progressed stop)
            { t with processed := stop } := .progressed hle t
        have htold := (tells_make (u := { t with processed := stop }) (.progressed stop)
          hcounts.busy).mono fun _ he => he.mono fun seen hseen =>
            (.inr ⟨_, _, hcall, hseen.trans hpast⟩ : ShownIn source s.executed ran _ t seen)
        have hend : Step.final (Call.make (.progressed stop)) { t with processed := stop } =
            Step.final (endBatch stop) t := rfl
        rw [hend, Step.final] at htold
        rw [Step.final, Place.leg_line_of_le hle]
        cases he : endBatch stop t <;> rw [he] at htold <;> exact htold

/-! ## Whole runs -/

/-- The account of a run has the count that the run leaves behind. -/
lemma executed_of_finished (hidle : s.isBusy = false) {others : List (List Demand)} {r : RunResult}
    (hrun : runAmid source others s = .ok (some (.finished r)) t) : t.executed = r.executed := by
  have hfirst : Comes source s [] .opening _ := .accepted
  obtain ⟨met, place, v, -, -, hcloses⟩ := hfirst.exists_closes others
  rw [← hfirst.runAmid_eq hidle, List.nil_append, hrun] at hcloses
  cases hcloses with
  | @ended _ u hleg =>
      have hleft : u.release.executed = u.executed := congrArg Prod.fst (counters_release u)
      refine hleft.trans ?_
      cases Place.passes_of_leg hleg with
      | cancelled | completed =>
          rw [enter_eq]
          rfl
      | failed hlt hr =>
          obtain ⟨_, _, _, -, -, hfail⟩ := exists_of_runLine_ended hr
          rw [result_of_fail hfail]
          rfl

/-- A reset at rest shows nothing but cleared counters, however often hooks ask for another. -/
lemma tells_reset (hidle : t.isBusy = false) :
    Tells (Event.Shows (· = {})) t (Step.final (control .reset) t) := by
  have hlast := lasting_shows (A := (· = {}))
    (fun _ h hrunning => by rw [h] at hrunning; cases hrunning) (fun _ _ _ => rfl) t
  have hcleared : t.cleared.toStanding = {} ∧ Tells (Event.Shows (· = {})) t t.cleared := by
    rw [cleared, enter_eq]
    exact ⟨rfl, .of_told_eq rfl⟩
  have hpublished := (hlast.publish t.cleared hcleared).2
  rw [control, controlWith, Step.final_bind_pure, Step.final, resetWith_of_idle hidle]
  exact hpublished

/-- **Each snapshot of a run finds the instructions counted that this run has executed so far,
except for the first.**  Wherever a run comes to, it has some lines behind it, and the count that is
found in a call is the number of instructions in them; after an instruction that one is in it, and
at a failure the failed line is not.  The first snapshot shows a machine that was reset and the
count that the run before has left, which is the one in its account.  No other snapshots are
published in a run, but by resets when it has failed; those show cleared counters, as every reset
does. -/
theorem snapshots_count_own_run {s : Scheduler} (hidle : s.isBusy = false) (source : Text) :
    (∀ met place t, Comes source s met place t → ∃ ran, Covers source s ran place t) ∧
      (∀ ran place t, Covers source s ran place t →
        (∀ call u, Calls source place t call u → call.kind = .state →
          u.executed = call.counted s.executed ran) ∧
        Tells (Event.Shows (ShownIn source s.executed ran place t)) t
          (Step.final (place.leg source) t)) ∧
      (∀ others r t, runAmid source others s = .ok (some (.finished r)) t →
        t.executed = r.executed) ∧
      ∀ t : Scheduler, t.isBusy = false →
        Tells (Event.Shows (· = {})) t (Step.final (control .reset) t) :=
  ⟨fun _ _ _ h => h.exists_covers,
    fun _ _ _ h => ⟨fun _ _ => h.executed_of_calls, h.tells_leg⟩,
    fun _ _ _ => executed_of_finished hidle, fun _ => tells_reset⟩

/-- The scheduler after a run of two instructions. -/
def secondHand : Scheduler :=
  Step.final (runAmid ['m', 'u', 'l', ' ', 'a', 'x', '\n', 'm', 'u', 'l', ' ', 'b', 'x'] [[], []])
    (listening [])

/-- The next run finds those two at its start, and after its own first instruction it finds one. -/
theorem snapshots_count_own_run_of_second_hand :
    let source : Text := ['m', 'u', 'l', ' ', 'a', 'x']
    secondHand.isBusy = false ∧ ∃ ran place t u, Covers source secondHand ran place t ∧
      Calls source place t (.carried 0) u ∧ secondHand.executed = 2 ∧ u.executed = 1 := by
  intro source
  have hidle : secondHand.isBusy = false := by decide +kernel
  obtain ⟨-, hcovers, -, -⟩ := snapshots_count_own_run hidle source
  have hopened : Covers source secondHand [] .opening _ := .accepted
  have hpaused := hopened.onward
    (Step.eq_ok_of_outcome (a := Leg.onward .pause) (by decide +kernel))
  have hbegun := hpaused.onward
    (Step.eq_ok_of_outcome (a := Leg.onward (.line 0 1)) (by decide +kernel))
  obtain ⟨t, hbegun, hcarry⟩ : ∃ t, Covers source secondHand [] (.line 0 1) t ∧
      Step.outcome (executeLine source) t = .ok (some ⟨['m', 'u', 'l'], [['a', 'x']]⟩) :=
    ⟨_, hbegun, by decide +kernel⟩
  have hcall : Calls source (.line 0 1) t (.carried 0) _ :=
    .carried (by decide) (by decide +kernel) (Step.eq_ok_of_outcome hcarry)
  exact ⟨hidle, _, _, _, _, hbegun, hcall, by decide +kernel,
    (hcovers _ _ _ hbegun).1 _ _ hcall rfl⟩

/-- **The first snapshot of a second run** shows the count of the first run, though the second one
has not a line. -/
theorem second_run_shows_count_of_first :
    let left := Step.final (runAmid [] []) secondHand
    secondHand.isBusy = false ∧ Text.lines [] = [] ∧
      left.events.filterMap Event.standing? =
        secondHand.events.filterMap Event.standing? ++ [⟨.running, 2, 2, 2⟩] ∧
      left.executed = 0 := by decide +kernel

end Scheduler
end Asm16

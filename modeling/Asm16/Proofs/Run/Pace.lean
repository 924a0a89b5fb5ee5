import Asm16.Proofs.Run.Lasting
import Asm16.Proofs.Run.Stop
import Mathlib.Algebra.Order.Floor.Div

/-!
# The pace of a run

A run that nobody stops does a batch a turn, whatever hooks and others make of the machine meanwhile.
So the number of its suspensions and the reports of progress are fixed by the number of its lines and
the size of a batch, up to the line that fails.

* `KeepsPace` — what hooks and others may ask for: anything but a stop and other batches.
* `PacedAt` — the invariant: the counters and the reports at a place, after so many batches.
* `Comes.pacedAt` — it is true of every place that a run comes to.
* `FailsFirst`, `NoLineFails` — how the lines of the run itself end.
* `Comes.turn_of_no_failure`, `leg_of_failing_line` — the end of a turn, and of a run.
* `reports_at_batch_ends` — the result.
-/

namespace Asm16

/-- The request neither stops a run nor sets the size of its batches. -/
def Control.KeepsPace : Control → Prop
  | .stop | .setBatchSize _ => False
  | _ => True

/-- Nor does the action of a hook.  The hook for progress does not detach itself either. -/
def HookAction.KeepsPace (kind : HookKind) : HookAction → Prop
  | .control request => request.KeepsPace
  | .detach => kind ≠ .progress
  | _ => True

def Hooks.KeepPace (hooks : Hooks) : Prop :=
  ∀ kind hook, hooks.get kind = some hook → ∀ count event, ∀ a ∈ hook count event, a.KeepsPace kind

namespace Scheduler

def Demand.KeepsPace : Demand → Prop
  | .run _ => True
  | .control request => request.KeepsPace

variable {source : Text} {s t u : Scheduler} {place next : Place} {met others : List (List Demand)}
  {total : Nat} {processed : Int}

/-! ## A run that goes on -/

/-- A run that was accepted in the state `s` goes on, with these counters. -/
structure Going (s : Scheduler) (total : Nat) (processed : Int) (t : Scheduler) : Prop where
  running : t.runState = .running
  total : t.total = total
  processed : t.processed = processed
  batchSize : t.batchSize = s.batchSize
  hooks : t.hooks.Within s.hooks
  attached : t.hooks.progress = s.hooks.progress

lemma Going.isBusy (h : Going s total processed t) : t.isBusy = true := by
  rw [Scheduler.isBusy, h.running]
  rfl

/-- **A run goes on** whatever hooks do that keep the pace. -/
lemma lasting_going (hhooks : s.hooks.KeepPace) (total : Nat) (processed : Int) :
    Lasting (fun kind a => a.KeepsPace kind) (Going s total processed) where
  hooks := by
    intro t h kind hook hhook count event
    rcases h.hooks kind with hnone | hsame
    · rw [hnone] at hhook
      cases hhook
    · exact hhooks kind hook (hsame ▸ hhook) count event
  write h _ := ⟨h.running, h.total, h.processed, h.batchSize, h.hooks, h.attached⟩
  absorb h _ := ⟨h.running, h.total, h.processed, h.batchSize, h.hooks, h.attached⟩
  note h := ⟨h.running, h.total, h.processed, h.batchSize, h.hooks, h.attached⟩
  shown h := ⟨h.running, h.total, h.processed, h.batchSize, h.hooks, h.attached⟩
  launch h _ := ⟨h.running, h.total, h.processed, h.batchSize, h.hooks, h.attached⟩
  clear h hidle := by
    rw [h.isBusy] at hidle
    cases hidle
  stop _ _ hasked := absurd hasked id
  resize _ _ _ hasked := absurd hasked id
  detach := by
    intro t h kind hasked
    refine ⟨h.running, h.total, h.processed, h.batchSize,
      (Hooks.Within.set_none _ _).trans h.hooks, Eq.trans ?_ h.attached⟩
    cases kind with
    | state | failure => rfl
    | progress => exact absurd rfl hasked

/-- Others do not keep a run from going on, and report no progress. -/
lemma Going.meetAll (hhooks : s.hooks.KeepPace) : ∀ (demands : List Demand) {t : Scheduler},
    (∀ demand ∈ demands, demand.KeepsPace) → Going s total processed t →
      Going s total processed (Demand.meetAll demands t) ∧
        (Demand.meetAll demands t).progress = t.progress
  | [], _, _, h => ⟨h, rfl⟩
  | demand :: rest, t, hdemands, h => by
      have hasked : ∀ request, demand = .control request →
          (HookAction.control request).KeepsPace .state := by
        rintro request rfl
        exact hdemands (.control request) (by simp)
      have hmet := (lasting_going hhooks total processed).meet .state demand hasked h.isBusy h
      have hprogress :=
        (lasting_progress t.progress).meet .state demand (fun _ _ => trivial) h.isBusy rfl
      obtain ⟨hgoing, hrest⟩ :=
        meetAll hhooks rest (fun other hother => hdemands other (by simp [hother])) hmet
      exact ⟨hgoing, hrest.trans hprogress⟩

/-! ## The invariant -/

/-- The reports of the first batches of so many lines: after each of them how many of the `n` lines
are done. -/
def batchReports (n b batches : Nat) : List (Int × Nat) :=
  (List.range batches).map fun k => ((min ((k + 1) * b) n : Nat), n)

/-- What a scheduler has been told of progress when so many batches are done. -/
def progressAfter (s : Scheduler) (n batches : Nat) : List (Int × Nat) :=
  s.progress ++ if s.hooks.progress.isSome then batchReports n s.batchSize.toNat batches else []

lemma progressAfter_zero (s : Scheduler) (n : Nat) : s.progressAfter n 0 = s.progress := by
  simp [progressAfter, batchReports]

lemma progressAfter_succ (s : Scheduler) (program : Program) (batches : Nat) :
    s.progressAfter program.size (batches + 1) = s.progressAfter program.size batches ++
      if s.hooks.progress.isSome then
        [((linesIn program s.batchSize (batches + 1) : Int), program.size)] else [] := by
  simp only [progressAfter, batchReports, List.range_succ, List.map_append, linesIn, Nat.min_comm]
  split_ifs <;> simp

lemma linesIn_lt_iff (program : Program) {size : Int} (hsize : 1 ≤ size) (batches : Nat) :
    linesIn program size batches < program.size ↔ batches < program.size ⌈/⌉ size.toNat := by
  have hpos : 0 < size.toNat := by omega
  rw [linesIn, ← Nat.not_le (a := _ ⌈/⌉ _), ceilDiv_le_iff_le_mul hpos, Nat.mul_comm]
  omega

/-- Counters and reports of a run at a place, with so many batches done. -/
def PacedAt (s : Scheduler) (program : Program) (batches : Nat) : Place → Scheduler → Prop
  | .opening, t => batches = 0 ∧ (∃ total processed, Going s total processed t) ∧
      t.progress = s.progress
  | .pause, t => (∀ k < batches, linesIn program s.batchSize k < program.size) ∧
      Going s program.size (linesIn program s.batchSize batches) t ∧
      t.progress = s.progressAfter program.size batches
  | .line next stop, t => (∀ k ≤ batches, linesIn program s.batchSize k < program.size) ∧
      (∃ i : Nat, next = i ∧ stop = linesIn program s.batchSize (batches + 1) ∧
        linesIn program s.batchSize batches ≤ i ∧ i ≤ linesIn program s.batchSize (batches + 1)) ∧
      Going s program.size (linesIn program s.batchSize batches) t ∧
      t.progress = s.progressAfter program.size batches

variable {batches : Nat}

/-- A line of a run lets it go on, and is no report of progress. -/
lemma Going.runLine (hhooks : s.hooks.KeepPace) (h : Going s total processed t) {program : Program}
    {i : Int} (hline : runLine program i t = .ok none u) :
    Going s total processed u ∧ u.progress = t.progress :=
  ⟨(lasting_going hhooks total processed).runLine
      (fun h _ => ⟨h.running, h.total, h.processed, h.batchSize, h.hooks, h.attached⟩) h hline,
    (lasting_progress t.progress).runLine (fun h _ => h) rfl hline⟩

/-- **A leg keeps the pace.** -/
theorem PacedAt.onward (hhooks : s.hooks.KeepPace) (hsize : 1 ≤ s.batchSize)
    (h : PacedAt s (Program.load source) batches place t)
    (hleg : place.leg source t = .ok (.onward next) u) :
    PacedAt s (Program.load source) batches next u := by
  cases Place.passes_of_leg hleg with
  | opened hp =>
      obtain ⟨rfl, ⟨total, processed, hgoing⟩, hprogress⟩ := h
      have hpublished := (lasting_going hhooks total processed).publish t hgoing
      have hsilent := progress_publish t
      rw [Step.final_of_ok hp] at hpublished hsilent
      refine ⟨fun k hk => absurd hk (Nat.not_lt_zero k), ⟨hpublished.running, rfl, ?_,
        hpublished.batchSize, hpublished.hooks, hpublished.attached⟩, ?_⟩
      · rw [linesIn_zero]
        rfl
      · rw [progressAfter_zero, ← hprogress]
        exact hsilent
  | begun hleft hrunning =>
      obtain ⟨hbatches, hgoing, hprogress⟩ := h
      have hless : linesIn (Program.load source) s.batchSize batches < (Program.load source).size := by
        have := hgoing.processed
        have := hgoing.total
        omega
      have hsucc := linesIn_succ (Program.load source) hsize batches
      refine ⟨fun k hk => ?_, ⟨_, hgoing.processed, ?_, Nat.le_refl _, by omega⟩, hgoing, hprogress⟩
      · rcases Nat.lt_or_eq_of_le hk with hlt | rfl
        · exact hbatches k hlt
        · exact hless
      · rw [hsucc, hgoing.processed, hgoing.total, hgoing.batchSize]
  | carried hlt hr =>
      obtain ⟨hbatches, ⟨i, rfl, rfl, hfirst, hlast⟩, hgoing, hprogress⟩ := h
      obtain ⟨hgoing', hprogress'⟩ := hgoing.runLine hhooks hr
      exact ⟨hbatches, ⟨i + 1, rfl, rfl, by omega, by omega⟩, hgoing', hprogress'.trans hprogress⟩

/-- **The end of a batch** is reported, once. -/
theorem PacedAt.waits (hhooks : s.hooks.KeepPace)
    (h : PacedAt s (Program.load source) batches place t)
    (hleg : place.leg source t = .ok .waits u) :
    PacedAt s (Program.load source) (batches + 1) .pause u := by
  cases Place.passes_of_leg hleg with
  | batchDone hle he =>
      obtain ⟨hbatches, ⟨i, rfl, rfl, hfirst, hlast⟩, hgoing, hprogress⟩ := h
      set stop := linesIn (Program.load source) s.batchSize (batches + 1)
      set done : Scheduler := { t with processed := (stop : Int) }
      have hnoted : Going s (Program.load source).size stop done :=
        ⟨hgoing.running, hgoing.total, rfl, hgoing.batchSize, hgoing.hooks, hgoing.attached⟩
      have hlasting := lasting_going hhooks (Program.load source).size stop
      have hcall : callHook publish .progress (.progress stop t.total) done = .ok () u := he
      have hgoing' := hlasting.callHook hlasting.publish .progress (.progress stop t.total) hnoted
        ⟨hnoted.running, hnoted.total, hnoted.processed, hnoted.batchSize, hnoted.hooks,
          hnoted.attached⟩
      have hreport := progress_callHook .progress (.progress stop t.total) done
      rw [Step.final_of_ok hcall] at hgoing' hreport
      refine ⟨fun k hk => hbatches k (Nat.le_of_lt_succ hk), hgoing', ?_⟩
      have hattached : done.hooks.get .progress = s.hooks.progress := hgoing.attached
      have hsame : done.progress = s.progressAfter (Program.load source).size batches := hprogress
      rw [hreport, hattached, hsame, progressAfter_succ, hgoing.total]
      rfl

/-- **No lines are left** when all batches are done, and not before. -/
lemma PacedAt.batches_eq (hsize : 1 ≤ s.batchSize)
    (h : PacedAt s (Program.load source) batches .pause t)
    (hover : ¬ (t.processed < t.total ∧ t.runState = .running)) :
    batches = (Program.load source).size ⌈/⌉ s.batchSize.toNat := by
  obtain ⟨hbatches, hgoing, -⟩ := h
  have hall : ¬ batches < (Program.load source).size ⌈/⌉ s.batchSize.toNat := by
    rw [← linesIn_lt_iff _ hsize]
    refine fun hleft => hover ⟨?_, hgoing.running⟩
    rw [hgoing.processed, hgoing.total]
    exact Int.ofNat_lt.2 hleft
  have hleast : batches ≤ (Program.load source).size ⌈/⌉ s.batchSize.toNat := by
    by_contra hmore
    have hlast := (linesIn_lt_iff _ hsize _).1
      (hbatches ((Program.load source).size ⌈/⌉ s.batchSize.toNat) (by omega))
    omega
  omega

/-- **Wherever a run comes to**, it has kept the pace. -/
theorem Comes.pacedAt (hhooks : s.hooks.KeepPace) (hsize : 1 ≤ s.batchSize)
    (h : Comes source s met place t)
    (hmet : ∀ demands ∈ met, ∀ demand ∈ demands, demand.KeepsPace) :
    PacedAt s (Program.load source) met.length place t := by
  induction h with
  | accepted =>
      rw [enter_eq]
      exact ⟨rfl, ⟨_, _, rfl, rfl, rfl, rfl, .refl _, rfl⟩, rfl⟩
  | onward _ hleg ih => exact (ih hmet).onward hhooks hsize hleg
  | resumed demands _ hleg ih =>
      obtain ⟨hbatches, hgoing, hprogress⟩ :=
        (ih fun ds hds => hmet ds (by simp [hds])).waits hhooks hleg
      obtain ⟨hgoing', hprogress'⟩ := hgoing.meetAll hhooks demands (hmet demands (by simp))
      rw [List.length_append, List.length_singleton]
      exact ⟨hbatches, hgoing', hprogress'.trans hprogress⟩

/-! ## The end of a turn -/

/-- **Every turn of a run ends.** -/
theorem Comes.exists_turn_end {place : Place} {t : Scheduler} (h : Comes source s met place t) :
    ∃ place' t', Comes source s met place' t' ∧
      ∀ next u, place'.leg source t' ≠ .ok (.onward next) u := by
  by_cases hleg : ∃ next u, place.leg source t = .ok (.onward next) u
  · obtain ⟨next, u, hleg⟩ := hleg
    have hnext := Place.later_of_onward hleg
    exact (h.onward hleg).exists_turn_end
  · exact ⟨place, t, h, fun next u hu => hleg ⟨next, u, hu⟩⟩
termination_by (place.stage, place.linesLeft)
decreasing_by exact hnext

/-- A run has waited once for each time that others were heard. -/
lemma Comes.exists_waits (h : Comes source s met place t) {m : Nat} (hm : m < met.length) :
    ∃ place' t' u, Comes source s (met.take m) place' t' ∧ place'.leg source t' = .ok .waits u := by
  induction h with
  | accepted => exact absurd hm (Nat.not_lt_zero m)
  | onward _ _ ih => exact ih hm
  | @resumed met place t u demands h hleg ih =>
      rw [List.length_append, List.length_singleton] at hm
      rcases Nat.lt_or_eq_of_le (Nat.le_of_lt_succ hm) with hlt | rfl
      · rw [List.take_append_of_le_length (Nat.le_of_lt hlt)]
        exact ih hlt
      · rw [List.take_left]
        exact ⟨place, t, u, h, hleg⟩

/-- A run that waits, and is not heard of again, is suspended. -/
lemma Comes.runAmid_of_waits (h : Comes source s met place t) (hidle : s.isBusy = false)
    (hleg : place.leg source t = .ok .waits u) :
    runAmid source met s = .ok (some (.suspended (Program.load source))) u := by
  have hrun := h.runAmid_eq hidle []
  rwa [List.append_nil, goOn_of_waits hleg] at hrun

/-- However often others are heard, a run has come this far once those were heard that it waited
for. -/
lemma Comes.runAmid_take (h : Comes source s met place t) (hidle : s.isBusy = false)
    (hmet : met <+: others) {m : Nat} (hm : met.length ≤ m) :
    ∃ more, runAmid source (others.take m) s = goOn more (place.remainder source) t := by
  obtain ⟨rest, rfl⟩ := hmet
  refine ⟨rest.take (m - met.length), ?_⟩
  rw [List.take_append, List.take_of_length_le hm, h.runAmid_eq hidle]

/-! ## Lines that fail -/

/-- The run comes to the line at this index, and the line ends in an error.  It is the first that
does, since the run goes no further. -/
def FailsFirst (source : Text) (s : Scheduler) (others : List (List Demand)) (j : Nat) (e : Error) :
    Prop :=
  ∃ met stop t line u, met <+: others ∧ Comes source s met (.line j stop) t ∧ (j : Int) < stop ∧
    (Program.load source).line? j = some line ∧ executeLine line t = .error e u

/-- No line that the run comes to ends in an error. -/
def NoLineFails (source : Text) (s : Scheduler) (others : List (List Demand)) : Prop :=
  ∀ j e, ¬ FailsFirst source s others j e

/-- A line that fails ends the run with an account if it is a fault, and with the error if not, and
reports no progress. -/
lemma leg_of_failing_line (hquiet : Unhindered source s others) (hmet : met <+: others) {j : Nat}
    {stop : Int} {line : Text} {e : Error} (h : Comes source s met (.line j stop) t)
    (hlt : (j : Int) < stop) (hline : (Program.load source).line? j = some line)
    (he : executeLine line t = .error e u) :
    ∃ v, v.progress = t.progress ∧
      ((∃ fault, e = .fault fault ∧ (Place.line j stop).leg source t =
          .ok (.ended (v.result (Program.load source) .failed (some ⟨j + 1, fault⟩))) v) ∨
        ¬ e.IsFault ∧ (Place.line j stop).leg source t = .error e v) := by
  have hsilent := (lasting_progress t.progress).executeLine line t rfl
  rw [Step.final_of_error he] at hsilent
  cases e with
  | fault fault =>
      have hfailed := Calls.failed hlt hline he
      obtain ⟨v, hv⟩ := hquiet met _ _ _ _ hmet h hfailed
      obtain ⟨w, hw⟩ := hquiet met _ _ _ _ hmet h (.reported hfailed hv)
      have hp : publish (failing ⟨j + 1, fault⟩ { u with processed := (j : Int) }) = .ok () v := hv
      have hr : callHook publish .failure (.failure (j + 1) fault.message) v = .ok () w := hw
      have hpublished := progress_publish (failing ⟨j + 1, fault⟩ { u with processed := (j : Int) })
      have hreported := progress_callHook .failure (.failure (j + 1) fault.message) v
      simp only [Event.progress?, Option.toList_none, ite_self, List.append_nil] at hreported
      rw [Step.final_of_ok hp] at hpublished
      rw [Step.final_of_ok hr] at hreported
      have hfailing : (failing ⟨j + 1, fault⟩ { u with processed := (j : Int) }).progress =
          t.progress := (progress_enter _ _).trans hsilent
      refine ⟨w, hreported.trans (hpublished.trans hfailing), .inl ⟨fault, rfl, ?_⟩⟩
      rw [leg_of_failed hfailed, hp]
      simp only [hr]
  | _ =>
      refine ⟨u, hsilent, .inr ⟨id, ?_⟩⟩
      rw [Place.leg_line_of_lt hlt, runLine_of_line? hline, he]

/-! ## Whole runs -/

section Run

variable (hsize : 1 ≤ s.batchSize) (hhooks : s.hooks.KeepPace)
  (hothers : ∀ demands ∈ others, ∀ demand ∈ demands, demand.KeepsPace)

include hsize hhooks hothers

/-- **A turn in which no line fails** ends with a suspension as long as lines are left, and else with
the run. -/
theorem Comes.turn_of_no_failure (hquiet : Unhindered source s others)
    (hnone : NoLineFails source s others)
    (hmet : met <+: others) (h : Comes source s met place t) :
    ∃ place' t', Comes source s met place' t' ∧
      ((met.length < (Program.load source).size ⌈/⌉ s.batchSize.toNat ∧
          ∃ u, place'.leg source t' = .ok .waits u) ∨
        met.length = (Program.load source).size ⌈/⌉ s.batchSize.toNat ∧
          ∃ r u, place'.leg source t' = .ok (.ended r) u ∧ r.status = .completed ∧
            u.progress = s.progressAfter (Program.load source).size met.length) := by
  obtain ⟨place', t', hcomes, hend⟩ := h.exists_turn_end
  have hpaced := hcomes.pacedAt hhooks hsize fun ds hds => hothers ds (hmet.subset hds)
  refine ⟨place', t', hcomes, ?_⟩
  cases hleg : place'.leg source t' with
  | error e u =>
      rcases exists_of_leg_error hleg with ⟨call, v, hcalls, hraise⟩ | ⟨next, stop, rfl, hlt, hline⟩
      · obtain ⟨w, hw⟩ := hquiet met _ _ _ _ hmet hcomes hcalls
        rw [hw] at hraise
        cases hraise
      · obtain ⟨-, ⟨i, rfl, rfl, -, -⟩, -⟩ := hpaced
        obtain ⟨line, hfound⟩ := exists_line_of_lt hlt
        exact absurd ⟨met, _, t', _, u, hmet, hcomes, hlt, hfound, (hline _ hfound).1⟩ (hnone i e)
  | ok l u =>
      cases Place.passes_of_leg hleg with
      | opened | begun | carried => exact absurd hleg (hend _ _)
      | batchDone =>
          obtain ⟨hbatches, -, -⟩ := hpaced.waits hhooks hleg
          refine .inl ⟨?_, u, rfl⟩
          exact (linesIn_lt_iff _ hsize _).1 (hbatches _ (Nat.lt_succ_self _))
      | cancelled hstop =>
          obtain ⟨-, hgoing, -⟩ := hpaced
          rw [hgoing.running] at hstop
          cases hstop
      | completed hover =>
          refine .inr ⟨hpaced.batches_eq hsize hover, _, _, rfl, rfl, ?_⟩
          exact (progress_enter _ _).trans hpaced.2.2
      | failed =>
          obtain ⟨line, fault, v, hlt, hline, he, -⟩ := exists_of_line_ended hleg
          obtain ⟨-, ⟨i, rfl, -⟩, -⟩ := hpaced
          exact absurd ⟨met, _, t', line, v, hmet, hcomes, hlt, hline, he⟩ (hnone i _)

/-- A run that has waited before was suspended there, after the reports of its batches so far. -/
lemma Comes.suspended_before (hidle : s.isBusy = false) (hmet : met <+: others)
    (h : Comes source s met place t) {m : Nat} (hm : m < met.length) :
    ∃ u, runAmid source (others.take m) s = .ok (some (.suspended (Program.load source))) u ∧
      u.progress = s.progressAfter (Program.load source).size (m + 1) := by
  obtain ⟨place', t', u, hcomes, hleg⟩ := h.exists_waits hm
  obtain ⟨rest, rfl⟩ := hmet
  have htaken : (met ++ rest).take m = met.take m :=
    List.take_append_of_le_length (Nat.le_of_lt hm)
  have hpaced := hcomes.pacedAt hhooks hsize fun ds hds =>
    hothers ds (List.mem_append_left _ (List.mem_of_mem_take hds))
  obtain ⟨-, -, hprogress⟩ := hpaced.waits hhooks hleg
  rw [List.length_take_of_le (Nat.le_of_lt hm)] at hprogress
  exact ⟨u, htaken ▸ hcomes.runAmid_of_waits hidle hleg, hprogress⟩

/-- A run in which no line fails waits after each batch. -/
lemma exists_comes_of_no_failure (hquiet : Unhindered source s others)
    (hnone : NoLineFails source s others) : ∀ {m : Nat}, m ≤ others.length →
      m ≤ (Program.load source).size ⌈/⌉ s.batchSize.toNat →
      ∃ place t, Comes source s (others.take m) place t
  | 0, _, _ => ⟨.opening, _, .accepted⟩
  | m + 1, hlength, hm => by
      obtain ⟨place, t, h⟩ := exists_comes_of_no_failure hquiet hnone (m := m) (by omega) (by omega)
      have hmet : (others.take m).length = m := List.length_take_of_le (by omega)
      obtain ⟨place', t', hcomes, ⟨-, u, hleg⟩ | ⟨hall, -⟩⟩ :=
        h.turn_of_no_failure hsize hhooks hothers hquiet hnone (List.take_prefix m others)
      · have htake : others.take (m + 1) = others.take m ++ [others[m]] :=
          List.take_succ_eq_append_getElem (by omega)
        rw [htake]
        exact ⟨_, _, hcomes.resumed _ hleg⟩
      · omega

/-- The line that fails first is in the batch after as many as there are in front of it. -/
lemma FailsFirst.exists_comes {j : Nat} {e : Error} (h : FailsFirst source s others j e) :
    ∃ met stop t line u, met <+: others ∧ met.length = j / s.batchSize.toNat ∧
      Comes source s met (.line j stop) t ∧ (j : Int) < stop ∧
      (Program.load source).line? j = some line ∧ executeLine line t = .error e u ∧
      t.progress = s.progressAfter (Program.load source).size met.length := by
  obtain ⟨met, stop, t, line, u, hmet, hcomes, hlt, hline, he⟩ := h
  obtain ⟨-, ⟨i, hi, rfl, hfirst, hlast⟩, -, hprogress⟩ :=
    hcomes.pacedAt hhooks hsize fun ds hds => hothers ds (hmet.subset hds)
  obtain rfl : j = i := Int.ofNat.inj hi
  refine ⟨met, _, t, line, u, hmet, ?_, hcomes, hlt, hline, he, hprogress⟩
  have hj : j < linesIn (Program.load source) s.batchSize (met.length + 1) := by omega
  simp only [linesIn] at hfirst hj
  exact (Nat.div_eq_of_lt_le (by omega) (by omega)).symm

end Run

/-- Where hooks leave the machine alone, the line that fails first in a run is the line that plain
interpretation fails in. -/
lemma FailsFirst.reaches {j : Nat} {e : Error} (hhooks : s.hooks.Courteous) (hsize : 1 ≤ s.batchSize)
    (hothers : ∀ demands ∈ others, ∀ demand ∈ demands, demand.IsCourteous)
    (h : FailsFirst source s others j e) :
    ∃ line m', s.machine.reset.Reaches (Text.lines source) j line ∧
      Machine.executeLine line (s.machine.reset.upTo (Text.lines source) j).machine =
        .error e m' := by
  obtain ⟨met, stop, t, line, u, hmet, hcomes, -, hline, he⟩ := h
  obtain ⟨⟨i, hi, -, -, -, hcourse, -⟩, -⟩ := hcomes.standsAt (fun _ => id) hhooks hsize
    fun ds hds => hothers ds (hmet.subset hds)
  obtain rfl : j = i := Int.ofNat.inj hi
  obtain ⟨m', hm', -, -⟩ := exists_of_executeLine_error HookAction.IsCourteous he
  exact ⟨line, m', ⟨lines_of_line? hline, hcourse.done⟩, hcourse.machine ▸ hm'⟩

/-- So no line fails there if plain interpretation comes to its end. -/
lemma noLineFails_of_done (hhooks : s.hooks.Courteous) (hsize : 1 ≤ s.batchSize)
    (hothers : ∀ demands ∈ others, ∀ demand ∈ demands, demand.IsCourteous)
    (hdone : (s.machine.reset.interpretFrom 0 (Text.lines source)).ending = .done) :
    NoLineFails source s others := by
  intro j e hfails
  obtain ⟨line, m', ⟨hline, hbefore⟩, he⟩ := hfails.reaches hhooks hsize hothers
  have hstop : ((s.machine.reset.upTo (Text.lines source) j).machine.interpretLine j line).ending ≠
      .done := by
    rw [Machine.interpretLine, he]
    cases e <;> exact Ending.noConfusion
  rw [Machine.interpretFrom_of_stopped hline hbefore hstop] at hdone
  exact hstop hdone

/-- **Progress is reported at the ends of batches, and nowhere else.**  Hooks and others may do to
the machine what they like, as long as no hook gives up and nobody asks for a stop or for other
batches.  A run of `n` lines in batches of `b` in which no line fails is suspended once for each of
its `⌈n / b⌉` batches, after the report of it, and then it ends.  If the line at the index `j` is the
first to fail, so it is for the `j / b` batches before the one with that line; if it fails with what
is no fault, that comes out of the run. -/
theorem reports_at_batch_ends {s : Scheduler} (hidle : s.isBusy = false) (hsize : 1 ≤ s.batchSize)
    (hhooks : s.hooks.KeepPace) {source : Text} {others : List (List Demand)}
    (hothers : ∀ demands ∈ others, ∀ demand ∈ demands, demand.KeepsPace)
    (hquiet : Unhindered source s others) :
    let n := (Text.lines source).length
    let b := s.batchSize.toNat
    let reports (k : Nat) : List (Int × Nat) :=
      if s.hooks.progress.isSome then (List.range k).map fun i => ((min ((i + 1) * b) n : Nat), n)
      else []
    (NoLineFails source s others → n ⌈/⌉ b ≤ others.length →
      (∀ m < n ⌈/⌉ b, ∃ t,
        runAmid source (others.take m) s = .ok (some (.suspended (Program.load source))) t ∧
          t.progress = s.progress ++ reports (m + 1)) ∧
      ∀ m, n ⌈/⌉ b ≤ m → ∃ r t, runAmid source (others.take m) s = .ok (some (.finished r)) t ∧
        r.status = .completed ∧ t.progress = s.progress ++ reports (n ⌈/⌉ b)) ∧
    ∀ j e, FailsFirst source s others j e →
      (∀ m < j / b, ∃ t,
        runAmid source (others.take m) s = .ok (some (.suspended (Program.load source))) t ∧
          t.progress = s.progress ++ reports (m + 1)) ∧
      ∀ m, j / b ≤ m → ∃ t, t.progress = s.progress ++ reports (j / b) ∧
        ((∃ fault r, e = .fault fault ∧
            runAmid source (others.take m) s = .ok (some (.finished r)) t ∧
            r.status = .failed ∧ r.failure = some ⟨j + 1, fault⟩) ∨
          ¬ e.IsFault ∧ runAmid source (others.take m) s = .error e.outOfRun t) := by
  intro n b reports
  refine ⟨fun hnone hlength => ?_, fun j e hfails => ?_⟩
  · obtain ⟨place, t, h⟩ :=
      exists_comes_of_no_failure hsize hhooks hothers hquiet hnone hlength (Nat.le_refl _)
    have hprefix := List.take_prefix (n ⌈/⌉ b) others
    have hmet : (others.take (n ⌈/⌉ b)).length = n ⌈/⌉ b := List.length_take_of_le hlength
    obtain ⟨place', t', hcomes, ⟨hlt, -⟩ | ⟨-, r, u, hleg, hstatus, hprogress⟩⟩ :=
      h.turn_of_no_failure hsize hhooks hothers hquiet hnone hprefix
    · exact absurd (hmet ▸ hlt) (Nat.lt_irrefl _)
    · rw [hmet] at hprogress
      refine ⟨fun m hm => ?_, fun m hm => ?_⟩
      · exact hcomes.suspended_before hsize hhooks hothers hidle hprefix (hmet.symm ▸ hm)
      · obtain ⟨more, hrun⟩ := hcomes.runAmid_take hidle hprefix (hmet.symm ▸ hm)
        rw [goOn_of_ended hleg] at hrun
        exact ⟨r, { u.release with lastResult := some r }, hrun, hstatus,
          (progress_release u).trans hprogress⟩
  · obtain ⟨met, stop, t, line, u, hmet, hbatches, hcomes, hlt, hline, he, hprogress⟩ :=
      hfails.exists_comes hsize hhooks hothers
    obtain ⟨v, hv, hend⟩ := leg_of_failing_line hquiet hmet hcomes hlt hline he
    have hreported : v.release.progress = s.progress ++ reports met.length :=
      (progress_release v).trans (hv.trans hprogress)
    rw [← hbatches]
    refine ⟨fun m hm => hcomes.suspended_before hsize hhooks hothers hidle hmet hm, fun m hm => ?_⟩
    obtain ⟨more, hrun⟩ := hcomes.runAmid_take hidle hmet hm
    rcases hend with ⟨fault, rfl, hleg⟩ | ⟨hfault, hleg⟩
    · set r := v.result (Program.load source) .failed (some ⟨j + 1, fault⟩)
      rw [goOn_of_ended hleg] at hrun
      exact ⟨{ v.release with lastResult := some r }, hreported, .inl ⟨fault, r, rfl, hrun, rfl, rfl⟩⟩
    · rw [goOn_of_error hleg] at hrun
      exact ⟨v.release, hreported, .inr ⟨hfault, hrun⟩⟩

/-- Its batches have two lines, and its hook for progress asks whether the scheduler is busy. -/
def reporting : Scheduler where
  machine := .initial 16
  batchSize := 2
  hooks := { state := none, progress := some fun _ _ => [.control .isBusy], failure := none }

lemma only_reporting {P : HookAction → Prop} (h : P (.control .isBusy)) : reporting.hooks.Only P := by
  intro kind hook hk count event a ha
  cases kind with
  | progress =>
      cases hk
      obtain rfl := List.mem_singleton.1 ha
      exact h
  | state | failure => cases hk

/-- Three lines in batches of two: two reports, while another run is asked for. -/
theorem reports_of_three_lines :
    ∃ r t, runAmid threeLines [[.run ['p', 'o', 'p']], []] reporting =
        .ok (some (.finished r)) t ∧
      r.status = .completed ∧ t.progress = [(2, 3), (3, 3)] := by
  have hpace : reporting.hooks.KeepPace := by
    intro kind hook hk count event a ha
    cases kind with
    | progress =>
        cases hk
        obtain rfl := List.mem_singleton.1 ha
        trivial
    | state | failure => cases hk
  have hothers : ∀ demands ∈ [[Demand.run ['p', 'o', 'p']], []],
      ∀ demand ∈ demands, demand.IsCourteous := by simp [Demand.IsCourteous]
  have hquiet : Unhindered threeLines reporting [[.run ['p', 'o', 'p']], []] :=
    unhindered_of_mild (only_reporting trivial) (by decide) hothers
  have hnone : NoLineFails threeLines reporting [[.run ['p', 'o', 'p']], []] :=
    noLineFails_of_done (only_reporting trivial) (by decide) hothers (by decide +kernel)
  have hn : (Text.lines threeLines).length = 3 := by decide +kernel
  have hceil : (Text.lines threeLines).length ⌈/⌉ reporting.batchSize.toNat = 2 := by
    rw [hn, Nat.ceilDiv_eq_add_pred_div]
    rfl
  have hkeeps : ∀ demands ∈ [[Demand.run ['p', 'o', 'p']], []],
      ∀ demand ∈ demands, demand.KeepsPace := by simp [Demand.KeepsPace]
  obtain ⟨r, t, hrun, hstatus, hprogress⟩ := ((reports_at_batch_ends (s := reporting) rfl (by decide)
    hpace hkeeps hquiet).1 hnone (by rw [hceil]; decide)).2 2 (by rw [hceil])
  refine ⟨r, t, hrun, hstatus, ?_⟩
  rw [hprogress, hceil, hn]
  rfl

end Scheduler
end Asm16

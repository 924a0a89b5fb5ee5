import Asm16.Proofs.CommandLine.Report

/-!
# The command and its environment

Nothing that stands in the environment can keep the command from running a program.  The settings
that may stand there are looked up with success, whatever they are, and a scheduler is made with
them, unless the option for the batch size was left with nothing.

* `Starts.crashes_iff` — whether the command crashes is decided by its words.
* `usable_settings` — where the settings come from, what is left in the log, and the scheduler.
-/

namespace Asm16

namespace Host

/-- The settings allow a scheduler to be made. -/
lemma exists_scheduler {settings : Settings} {n : Int} (hbatch : settings.batchSize = .value n)
    (hsize : 1 ≤ n) (host : Host) : ∃ s, host.scheduler settings = .ok s ∧ s.batchSize = n :=
  ⟨_, scheduler_eq hbatch hsize, rfl⟩

/-- Whether the command crashes is decided by its words. -/
lemma Starts.crashes_iff {host : Host} {words : List Text} {args : Arguments} {source : Text}
    (h : host.Starts words args source) :
    (∃ c, (host.use words).exit = .crash c) ↔ ¬ args.IsComplete := by
  refine ⟨?_, h.crashes⟩
  rintro ⟨c, hcrash⟩ hcomplete
  obtain ⟨settings, log, hresolve, -⟩ :=
    Settings.exists_resolve (Arguments.positive_of_parse h.parse) host.environment
  obtain ⟨start, rows, -, haccounts⟩ := h.accounts hcomplete hresolve
  rw [haccounts.exit] at hcrash
  cases hcrash

/-- **Settings can always be used**, whatever stands in the environment, unless the option for the
batch size was left with nothing.  Each of the two settings is that of its option if there is one,
or else the integer in the environment if it is large enough, or else the default; a warning is left
just if the environment was asked and something other than blanks was rejected there.  The batch
size is positive, so that a scheduler is made.  With the option left with nothing there is no number
and no scheduler.  Where the command comes to run a program, the environment has no part in whether
it crashes. -/
theorem usable_settings {words : List Text} {args : Arguments}
    (h : Arguments.parse words = .ok args) (env : Environment) :
    let batchRaw := env Environment.batchSizeName
    let addressRaw := env Environment.memoryAddressName
    ∃ settings batchLog addressLog,
      Settings.resolve args env = .ok (settings, batchLog ++ addressLog) ∧
      Chosen args.batchSize 10 1 100 batchRaw settings.batchSize ∧
      Leaves args.batchSize 10 1 100 Environment.batchSizeName batchRaw batchLog ∧
      Chosen args.memoryAddress 16 0 0 addressRaw settings.memoryAddress ∧
      Leaves args.memoryAddress 16 0 0 Environment.memoryAddressName addressRaw addressLog ∧
      (args.batchSize ≠ some .nothing → ∃ n, settings.batchSize = .value n ∧ 1 ≤ n ∧
        ∀ host : Host, ∃ s, host.scheduler settings = .ok s ∧ s.batchSize = n) ∧
      (args.batchSize = some .nothing →
        ∀ host : Host, host.scheduler settings = .error .nothingGiven) ∧
      ∀ (host : Host) (source : Text), host.environment = env → host.Starts words args source →
        ((∃ c, (host.use words).exit = .crash c) ↔ ¬ args.IsComplete) := by
  intro batchRaw addressRaw
  obtain ⟨batchSize, batchLog, hbatch, hbatchChosen, hbatchLeaves⟩ :=
    Settings.exists_settled args.batchSize (show 2 ≤ 10 by decide) (by decide) 1 100
      Environment.batchSizeName batchRaw (by decide) (by decide)
  obtain ⟨address, addressLog, haddress, haddressChosen, haddressLeaves⟩ :=
    Settings.exists_settled args.memoryAddress (show 2 ≤ 16 by decide) (by decide) 0 0
      Environment.memoryAddressName addressRaw (by decide) (by decide)
  refine ⟨_, batchLog, addressLog, Settings.resolve_eq hbatch haddress, hbatchChosen, hbatchLeaves,
    haddressChosen, haddressLeaves, fun hgiven => ?_, fun hnothing host => ?_,
    fun host source henv hstarts => hstarts.crashes_iff⟩
  · cases hsize : batchSize with
    | nothing => exact absurd (hbatchChosen.eq_nothing_iff.1 hsize) hgiven
    | value n =>
        have hone : 1 ≤ n := (hbatchChosen.least_le (by decide) hsize).elim
          (Arguments.positive_of_parse h n) id
        exact ⟨n, rfl, hone, exists_scheduler rfl hone⟩
  · rw [scheduler, hbatchChosen.eq_nothing_iff.2 hnothing]

/-- A batch size in digits of another script with an underscore between them, and an address that is
none. -/
theorem usable_settings_of_other_script :
    let env : Environment := fun name =>
      if name = Environment.batchSizeName then some ['١', '_', '٢']
      else if name = Environment.memoryAddressName then some ['x']
      else none
    Arguments.parse [text "p.asm"] = .ok { program := text "p.asm" } ∧
      ∃ settings log, Settings.resolve { program := text "p.asm" } env = .ok (settings, log) ∧
        settings.batchSize = .value 12 ∧ settings.memoryAddress = .value 0 ∧
        ∀ host : Host, ∃ s, host.scheduler settings = .ok s ∧ s.batchSize = 12 := by
  intro env
  have hparse : Arguments.parse [text "p.asm"] = .ok { program := text "p.asm" } := by
    decide +kernel
  have hbatchRaw : env Environment.batchSizeName = some ['١', '_', '٢'] := by decide +kernel
  have haddressRaw : env Environment.memoryAddressName = some ['x'] := by decide +kernel
  have htwelve : parseSetting? 10 ['١', '_', '٢'] = some 12 := by decide +kernel
  have hnone : parseSetting? 16 ['x'] = none := by decide +kernel
  obtain ⟨settings, batchLog, addressLog, hresolve, hbatch, -, haddress, -, hmade, -⟩ :=
    usable_settings hparse env
  rw [hbatchRaw] at hbatch
  rw [haddressRaw] at haddress
  have hsize : settings.batchSize = .value 12 := by
    generalize settings.batchSize = g at hbatch
    cases hbatch with
    | option hgiven => cases hgiven
    | environment hopen hn =>
        obtain ⟨t, ⟨⟩, hstates, -⟩ := hn
        rw [← parseSetting?_eq_some_iff (by decide) (by decide)] at hstates
        cases htwelve.symm.trans hstates
        rfl
    | default hopen hn =>
        have hstates := (parseSetting?_eq_some_iff (by decide) (by decide)).1 htwelve
        exact absurd ⟨_, rfl, hstates, by decide⟩ (hn 12)
  have hstart : settings.memoryAddress = .value 0 := by
    generalize settings.memoryAddress = g at haddress
    cases haddress with
    | option hgiven => cases hgiven
    | environment hopen hn =>
        obtain ⟨t, ⟨⟩, hstates, -⟩ := hn
        rw [← parseSetting?_eq_some_iff (by decide) (by decide)] at hstates
        cases hnone.symm.trans hstates
    | default hopen hn => rfl
  obtain ⟨n, hn, -, hscheduler⟩ := hmade (by simp)
  cases hsize.symm.trans hn
  exact ⟨hparse, settings, _, hresolve, hsize, hstart, hscheduler⟩

/-- **The environment cannot help** where the option for the batch size was left with nothing: the
command crashes though the environment holds a batch size that can be used. -/
theorem nothing_outweighs_environment :
    let env : Environment := fun name =>
      if name = Environment.batchSizeName then some ['7'] else none
    let words := [text "p.asm", text "--rows", ['1'], text "--batch-size=--"]
    let args : Arguments :=
      { program := text "p.asm", rows := .value 1, batchSize := some .nothing }
    let host : Host := { Host.holding [] with environment := env }
    Arguments.parse words = .ok args ∧ Usable 10 1 (env Environment.batchSizeName) 7 ∧
      Settings.resolve args env = .ok (⟨.nothing, .value 0, .value 1, false⟩, []) ∧
      (host.use words).exit = .crash (.run .nothingGiven) := by
  refine ⟨by decide +kernel, ⟨['7'], by decide +kernel, ?_, by decide⟩, by decide +kernel,
    by decide +kernel⟩
  exact (parseSetting?_eq_some_iff (by decide) (by decide)).1 (by decide +kernel)

end Host
end Asm16

import Asm16.CommandLine.Report
import Asm16.Proofs.CommandLine.Settings
import Asm16.Proofs.Run.Alone

/-!
# The command reports the run it made

What the command prints and the status it exits with are those of plain interpretation of the lines
of the program.  Batches are seen in the reports of progress and nowhere else.

* `Report.withoutProgress` — all that was printed, except the reports of progress.
* `Report.Accounts` — a report that is that of an interpretation.
* `Host.Starts` — the command comes to run a program.
* `Host.exists_runProgram`, `accounts_reportOf` — how a run of the command ends, and what is printed of
  it, from what its hooks were told.
* `Host.report_of_interpretation` — the result.
-/

namespace Asm16

open Host (panel? shown)

/-! ## Pieces of output -/

/-- The text is a report of progress. -/
def isProgressLine (t : Text) : Bool := (Style.magenta.sequence ++ text "Progress: ").isPrefixOf t

/-- All that was printed, except the reports of progress. -/
def Report.withoutProgress (r : Report) : List Text := r.output.filter fun t => !isProgressLine t

lemma isProgressLine_styled (t : Text) :
    isProgressLine (styled [.magenta] (text "Progress: " ++ t)) = true := by
  rw [isProgressLine, List.isPrefixOf_iff_prefix, styled, List.flatMap_singleton]
  exact ⟨t ++ Style.plain.sequence, by simp only [List.append_assoc]⟩

lemma isProgressLine_progressLine {done total : Int} {t : Text}
    (h : Panel.progressLine done total = .ok t) : isProgressLine t = true := by
  simp only [Panel.progressLine, bind, Except.bind] at h
  split at h
  · cases h
  · split at h
    · cases h
    · split at h
      · cases h
      · split at h <;> cases h
        simp only [List.append_assoc]
        exact isProgressLine_styled _

lemma isProgressLine_errorLine {line : Int} {message t : Text}
    (h : Panel.errorLine line message = .ok t) : isProgressLine t = false := by
  simp only [Panel.errorLine, bind, Except.bind] at h
  split at h <;> cases h
  rfl

lemma isProgressLine_statePanel (s : Snapshot) (cells : Cells) (start rows : Int) :
    isProgressLine (Panel.statePanel s cells start rows) = false := by
  rfl

/-- What is printed of a line that failed; nothing if none did. -/
def Interpretation.errorLines (i : Interpretation) : List Text :=
  match i.ending with
  | .failed index fault => (Panel.errorLine (index + 1) fault.message).toOption.toList
  | _ => []

lemma Interpretation.errorLines_of_done {i : Interpretation} (h : i.ending = .done) :
    i.errorLines = [] := by
  rw [errorLines, h]

/-- One error is printed of a line that failed, if its number can be written. -/
lemma Interpretation.length_errorLines_of_failed {i : Interpretation} {index : Nat} {fault : Fault}
    (h : i.ending = .failed index fault) (hindex : index + 1 < Nat.pow 10 decimalLimit) :
    i.errorLines.length = 1 := by
  have hline : decimal? ((index : Int) + 1) = .ok (signedDecimal (index + 1)) := if_pos hindex
  simp only [errorLines, h, Panel.errorLine, bind, Except.bind, hline]
  rfl

namespace Host

variable {host : Host} {settings : Settings}

/-! ## The hooks of the command -/

/-- Without an interrupt, and with a panel to show where one is asked for, the hooks do nothing. -/
lemma silent_hooks (hcalm : host.interruptAt = none)
    (hpanel : settings.trace = true → settings.panel?.isSome = true) :
    (host.hooks settings).Silent := by
  intro kind hook hk count event a ha
  cases kind with
  | state =>
      simp only [hooks, PerHook.get] at hk
      split at hk <;> cases hk
      next htrace =>
        rw [if_pos (hpanel htrace)] at ha
        cases ha
  | progress =>
      cases hk
      rw [hcalm] at ha
      cases event <;> cases ha
  | failure => cases hk; cases ha

/-- What the hook for snapshots gets to see. -/
lemma sees_hooks (views : List View) :
    (host.hooks settings).sees views = if settings.trace then views else [] := by
  rw [Hooks.sees, hooks]
  by_cases htrace : settings.trace = true
  · rw [if_pos htrace, if_pos htrace]
    rfl
  · rw [if_neg htrace, if_neg htrace]
    rfl

/-- **What is printed on the way**, apart from progress, as long as no line has failed: a panel for
each snapshot. -/
lemma filter_shown : ∀ (told : List Event), told.filterMap Event.failure? = [] →
    (told.flatMap (shown settings)).filter (fun t => !isProgressLine t) =
      (told.filterMap Event.view?).flatMap fun v => (panel? settings v.1 v.2).toList
  | [], _ => rfl
  | event :: told, h => by
      rw [List.flatMap_cons, List.filter_append]
      cases event with
      | failure line message => cases h
      | state snapshot cells standing =>
          have hpanel : ((panel? settings snapshot cells).toList).filter
              (fun t => !isProgressLine t) = (panel? settings snapshot cells).toList := by
            rw [panel?]
            cases settings.panel? with
            | none => rfl
            | some window => exact List.filter_cons_of_pos (by rw [isProgressLine_statePanel]; rfl)
          rw [shown, hpanel, filter_shown told h]
          rfl
      | progress done total =>
          have hline : ((Panel.progressLine done total).toOption.toList).filter
              (fun t => !isProgressLine t) = [] := by
            cases hp : Panel.progressLine done total with
            | error e => rfl
            | ok t =>
                exact List.filter_cons_of_neg (by rw [isProgressLine_progressLine hp]; decide)
          rw [shown, hline, filter_shown told h]
          rfl
      | refusedReset | notice => exact filter_shown told h

/-- What is printed of the account of a run: the line that failed. -/
lemma filter_shown_reports {i : Interpretation} {program : Program} {r : RunResult}
    (h : i.answer program = .ok r) :
    (r.reports.flatMap (shown settings)).filter (fun t => !isProgressLine t) = i.errorLines := by
  have hkept : ∀ line message, ((Panel.errorLine line message).toOption.toList).filter
      (fun t => !isProgressLine t) = (Panel.errorLine line message).toOption.toList := by
    intro line message
    cases hp : Panel.errorLine line message with
    | error e => rfl
    | ok t => exact List.filter_cons_of_pos (by rw [isProgressLine_errorLine hp]; rfl)
  rw [Interpretation.answer] at h
  rw [Interpretation.errorLines]
  split at h
  · next hdone => cases h; rw [hdone]; rfl
  · next index fault hfailed =>
      cases h
      rw [hfailed]
      show ([Event.failure (index + 1) fault.message].flatMap (shown settings)).filter _ = _
      rw [List.flatMap_singleton, shown, hkept]
  · cases h

/-! ## The run -/

/-- The scheduler that the command makes for a batch size. -/
def fresh (host : Host) (settings : Settings) (size : Int) : Scheduler where
  machine := .initial defaultSize
  batchSize := size
  hooks := host.hooks settings

lemma scheduler_eq {n : Int} (hbatch : settings.batchSize = .value n) (hsize : 1 ≤ n) :
    host.scheduler settings = .ok (host.fresh settings n) := by
  rw [scheduler, hbatch]
  exact if_neg (by omega)

/-- No line with an overlong numeral is reached. -/
def StaysShort (source : Text) : Prop :=
  ∀ i line, (Machine.initial defaultSize).reset.Reaches (Text.lines source) i line →
    ¬ IsOverlong line

/-- **A run of the command ends in an account**, if its hooks do nothing: that of plain interpretation
of its lines.  The hooks are told of the snapshots first, and then of a line that failed. -/
theorem exists_runProgram (hsilent : (host.hooks settings).Silent) {n : Int}
    (hbatch : settings.batchSize = .value n) (hsize : 1 ≤ n) {source : Text}
    (hshort : StaysShort source) :
    let i := (Machine.initial defaultSize).interpret (Text.lines source)
    ∃ (r : RunResult) (t : Scheduler) (told : List Event),
      host.runProgram settings source = reportOf settings (.ok (some r)) t ∧
      i.answer (Program.load source) = .ok r ∧ t.machine.view = i.machine.view ∧
      t.events = told ++ r.reports ∧ told.filterMap Event.failure? = [] ∧
      told.filterMap Event.view? = (host.hooks settings).sees i.shown := by
  intro i
  -- the number of turns granted is too large to be computed with
  obtain ⟨bound, hbound, henough⟩ :
      ∃ bound, Session.patience source = bound ∧ (Text.lines source).length ≤ bound :=
    ⟨_, rfl, Nat.le_add_right _ _⟩
  have hothers : ∀ demands ∈ List.replicate bound ([] : List Scheduler.Demand), ∀ demand ∈ demands,
      False := by
    intro demands hdemands demand hdemand
    rw [List.eq_of_mem_replicate hdemands] at hdemand
    cases hdemand
  obtain ⟨outcome, hrefines, houtcome⟩ := Scheduler.outcome_of_ends
    (Scheduler.runAmid_refines (s := host.fresh settings n) rfl hsilent.recording hsize source
      (fun demands hdemands demand hdemand => (hothers demands hdemands demand hdemand).elim)
      (henough.trans_eq (List.length_replicate ..).symm))
  obtain ⟨r, rfl, -⟩ := (Scheduler.account_of_refines rfl hrefines).2 hshort
  have hrun := Step.eq_ok_of_outcome houtcome
  set t := Step.final (Scheduler.runAmid source (List.replicate bound []))
    (host.fresh settings n)
  obtain ⟨hanswer, hview, hviews⟩ :=
    Scheduler.refines_interpret hrefines rfl (m := .initial defaultSize) rfl rfl
  obtain ⟨told, htold, hnone⟩ :=
    Scheduler.reports_of_finished (s := host.fresh settings n) rfl hsilent rfl hsize
      (fun demands hdemands demand hdemand => (hothers demands hdemands demand hdemand).elim) hrun
  have hsession := Session.runAlone_of_vacant (s := { scheduler := host.fresh settings n })
    ⟨rfl, rfl⟩ hsilent.recording rfl hbound hrun
  refine ⟨r, { t with loop := false }, told, ?_, hanswer.symm, hview, htold, hnone, ?_⟩
  · rw [runProgram, scheduler_eq hbatch hsize]
    simp only [Step.outcome, Step.final, hsession]
  · have hnoview : r.reports.filterMap Event.view? = [] := by
      rw [RunResult.reports]
      cases r.failure <;> rfl
    have hall : t.views = told.filterMap Event.view? := by
      rw [Scheduler.views, htold, List.filterMap_append, hnoview, List.append_nil]
    rw [← hall, hviews]
    rfl

/-! ## The report -/

end Host

/-- A report that is that of an interpretation: the status says whether a line failed; printed are the
panels that were shown, if they are asked for, then the line that failed, and last the panel of the
machine and the number of instructions. -/
structure Report.Accounts (r : Report) (trace : Bool) (start rows : Int) (i : Interpretation) :
    Prop where
  exit : r.exit = .status (if i.ending = .done then 0 else 1)
  output : r.withoutProgress =
    (if trace then i.shown else []).map (fun v => Panel.statePanel v.1 v.2 start rows) ++
      i.errorLines ++
      [Panel.statePanel i.machine.snapshot i.machine.memory.cells start rows,
        text "Instructions executed: " ++ decimal i.executed]

namespace Host

variable {host : Host} {settings : Settings}

lemma reportOf_of_panel {panel : Text} {r : RunResult} {t : Scheduler}
    (h : panel? settings t.machine.snapshot t.machine.memory.cells = some panel) :
    reportOf settings (.ok (some r)) t =
      { exit := .status (conclusion panel r).2
        output := t.events.flatMap (shown settings) ++ (conclusion panel r).1
        log := some t.log } := by
  simp only [reportOf, h]

/-- A run that is accounted for is reported, if there is a panel to show. -/
lemma accounts_reportOf {start rows : Int} (hpanel : settings.panel? = some (start, rows))
    {i : Interpretation} {program : Program} {r : RunResult} {t : Scheduler} {told : List Event}
    (hanswer : i.answer program = .ok r) (hview : t.machine.view = i.machine.view)
    (htold : t.events = told ++ r.reports) (hnone : told.filterMap Event.failure? = [])
    (hviews : told.filterMap Event.view? = if settings.trace then i.shown else []) :
    (reportOf settings (.ok (some r)) t).Accounts settings.trace start rows i := by
  have hshown : ∀ s cells, panel? settings s cells = some (Panel.statePanel s cells start rows) :=
    fun s cells => by rw [panel?, hpanel]; rfl
  have hsnapshot : t.machine.snapshot = i.machine.snapshot := congrArg Prod.fst hview
  have hcells : t.machine.memory.cells = i.machine.memory.cells := congrArg Prod.snd hview
  have hway : (t.events.flatMap (shown settings)).filter (fun t => !isProgressLine t) =
      (if settings.trace then i.shown else []).map (fun v => Panel.statePanel v.1 v.2 start rows) ++
        i.errorLines := by
    rw [htold, List.flatMap_append, List.filter_append, filter_shown told hnone,
      filter_shown_reports hanswer, hviews]
    simp only [hshown, Option.toList_some, ← List.map_eq_flatMap]
  rw [reportOf_of_panel (hshown _ _), hsnapshot, hcells]
  -- what is printed last does not depend on how the run ended, unless it was stopped
  obtain ⟨hstatus, hexecuted⟩ : (conclusion (Panel.statePanel i.machine.snapshot
      i.machine.memory.cells start rows) r).2 = (if i.ending = .done then 0 else 1) ∧
      (conclusion (Panel.statePanel i.machine.snapshot i.machine.memory.cells start rows) r).1 =
        [Panel.statePanel i.machine.snapshot i.machine.memory.cells start rows,
          text "Instructions executed: " ++ decimal i.executed] := by
    rw [Interpretation.answer] at hanswer
    split at hanswer
    · next hdone => cases hanswer; rw [if_pos hdone]; exact ⟨rfl, rfl⟩
    · next hfailed => cases hanswer; rw [if_neg (by rw [hfailed]; simp)]; exact ⟨rfl, rfl⟩
    · cases hanswer
  refine ⟨by rw [hstatus], ?_⟩
  rw [Report.withoutProgress, List.filter_append, hway, hexecuted]
  rfl

/-! ## When there is no report -/

/-- A run is cut short at once if the hook for snapshots refuses. -/
lemma begin_of_refusing {e : Error} {s : Scheduler} (hidle : s.isBusy = false)
    (hhook : s.hooks.state = some fun _ _ => [.refuse e]) (source : Text) :
    ∃ t, Scheduler.begin source s = .error e.outOfRun t := by
  have hpublish : ∀ u : Scheduler, u.hooks = s.hooks → ∃ t, Scheduler.publish u = .error e t := by
    intro u hu
    have hstate : u.hooks.get .state = some fun _ _ => [.refuse e] := by rw [hu]; exact hhook
    rw [Scheduler.publish_apply, Scheduler.callHook_apply, hstate]
    exact ⟨_, rfl⟩
  obtain ⟨t, ht⟩ := hpublish { s.enter .running with machine := (s.enter .running).machine.reset }
    (by rw [Scheduler.enter_eq])
  rw [Scheduler.begin_of_idle source hidle, Scheduler.turn, Scheduler.firstTurn_apply, ht]
  exact ⟨_, rfl⟩

/-- **Without a panel to show there is no report**, whether or not snapshots are followed. -/
lemma runProgram_of_no_panel (hcalm : host.interruptAt = none) (hpanel : settings.panel? = none)
    {n : Int} (hbatch : settings.batchSize = .value n) (hsize : 1 ≤ n) {source : Text}
    (hshort : StaysShort source) :
    (host.runProgram settings source).exit = .crash (.run .nothingGiven) := by
  have hnone : ∀ s cells, panel? settings s cells = none := fun s cells => by rw [panel?, hpanel]; rfl
  by_cases htrace : settings.trace = true
  · obtain ⟨t, ht⟩ : ∃ t, Scheduler.begin source (host.fresh settings n) = .error .nothingGiven t :=
      begin_of_refusing (e := .nothingGiven) (s := host.fresh settings n) rfl
        (by rw [fresh, hooks, if_pos htrace, hpanel]; rfl) source
    obtain ⟨s', hs'⟩ :=
      Session.runAlone_of_begin_error (s := { scheduler := host.fresh settings n }) ht
    rw [runProgram, scheduler_eq hbatch hsize]
    simp only [Step.outcome, Step.final, hs', reportOf]
  · obtain ⟨r, t, -, hrun, -⟩ := exists_runProgram (silent_hooks hcalm fun h => absurd h htrace)
      hbatch hsize hshort
    rw [hrun]
    simp only [reportOf, hnone]

/-! ## The command -/

/-- The command comes to run a program: its words are accepted, the settings for the log in the
environment can be used, the program can be read, nobody interrupts the run, and no line with an
overlong numeral is reached. -/
structure Starts (host : Host) (words : List Text) (args : Arguments) (source : Text) : Prop where
  parse : Arguments.parse words = .ok args
  path : (Settings.logFile host.environment).contains '\x00' = false
  opens : Settings.logFile host.environment ≠ [] →
    host.openLog (Settings.logFile host.environment) = none
  level : ∃ rank, threshold ((host.environment Environment.logLevelName).getD (text "INFO")) =
    .rank rank
  readable : host.source args.program = .ok source
  calm : host.interruptAt = none
  short : StaysShort source

variable {words : List Text} {args : Arguments} {source : Text} {log : Log}

lemma Starts.opened (h : host.Starts words args source) :
    (if !(Settings.logFile host.environment).isEmpty then
      host.openLog (Settings.logFile host.environment) else none) = none := by
  split_ifs with hfile
  · exact h.opens (by simpa using hfile)
  · rfl

/-- With a log level the command goes on to run the program. -/
lemma use_of_level (h : host.Starts words args source) {rank : Nat}
    (hlevel : threshold (Settings.levelName args host.environment) = .rank rank)
    (hresolve : Settings.resolve args host.environment = .ok (settings, log)) :
    ∃ toFile, host.use words = keepLog rank log toFile (host.runProgram settings source) := by
  refine ⟨!(Settings.logFile host.environment).isEmpty, ?_⟩
  simp only [use, h.parse, useWith, h.path, h.opened, hlevel, hresolve, readAndRun, h.readable]
  rfl

/-- Without one it crashes. -/
lemma use_of_no_level (h : host.Starts words args source)
    (hlevel : ∀ rank, threshold (Settings.levelName args host.environment) ≠ .rank rank) :
    ∃ c, (host.use words).exit = .crash c := by
  simp only [use, h.parse, useWith, h.path, h.opened]
  cases hthreshold : threshold (Settings.levelName args host.environment) with
  | rank n => exact absurd hthreshold (hlevel n)
  | unknownLevel => exact ⟨.unknownLevel, rfl⟩
  | noLevel => exact ⟨.noLevel, rfl⟩

/-- **What the command reports**, with options that can be used. -/
lemma Starts.accounts (h : host.Starts words args source) (hargs : args.IsComplete)
    (hresolve : Settings.resolve args host.environment = .ok (settings, log)) :
    ∃ start rows, settings.panel? = some (start, rows) ∧
      (host.use words).Accounts settings.trace start rows
        ((Machine.initial defaultSize).interpret (Text.lines source)) := by
  obtain ⟨settings', log', hsettings, -, hnothing, hpositive, hpanel⟩ :=
    Settings.exists_resolve (Arguments.positive_of_parse h.parse) host.environment
  obtain ⟨rfl, rfl⟩ : settings' = settings ∧ log' = log := by
    rw [hresolve] at hsettings
    cases hsettings
    exact ⟨rfl, rfl⟩
  obtain ⟨rank, hlevel⟩ := (Settings.exists_rank_iff h.level).2 hargs.logLevel
  obtain ⟨toFile, huse⟩ := use_of_level h hlevel hresolve
  obtain ⟨⟨start, rows⟩, hwindow⟩ :=
    Option.isSome_iff_exists.1 (hpanel.2 ⟨hargs.memoryAddress, hargs.rows⟩)
  cases hbatch : settings'.batchSize with
  | nothing => exact absurd (hnothing.1 hbatch) hargs.batchSize
  | value n =>
      obtain ⟨r, t, told, hrun, hanswer, hview, htold, hnone, hviews⟩ :=
        exists_runProgram (silent_hooks h.calm fun _ => by rw [hwindow]; rfl) hbatch
          (hpositive n hbatch) h.short
      rw [sees_hooks] at hviews
      have haccounts := accounts_reportOf hwindow hanswer hview htold hnone hviews
      rw [← hrun] at haccounts
      rw [huse]
      exact ⟨start, rows, hwindow, haccounts.exit, haccounts.output⟩

/-- With options that cannot be used the command crashes. -/
lemma Starts.crashes (h : host.Starts words args source) (hargs : ¬ args.IsComplete) :
    ∃ c, (host.use words).exit = .crash c := by
  obtain ⟨settings, log, hresolve, -, hnothing, hpositive, hpanel⟩ :=
    Settings.exists_resolve (Arguments.positive_of_parse h.parse) host.environment
  by_cases hlevel : ∃ rank, threshold (Settings.levelName args host.environment) = .rank rank
  · obtain ⟨rank, hrank⟩ := hlevel
    obtain ⟨toFile, huse⟩ := use_of_level h hrank hresolve
    refine ⟨.run .nothingGiven, ?_⟩
    rw [huse]
    show (host.runProgram settings source).exit = _
    cases hbatch : settings.batchSize with
    | nothing => rw [runProgram, scheduler, hbatch]
    | value n =>
        have hgiven : args.batchSize ≠ some .nothing := fun hnone => by
          rw [hnothing.2 hnone] at hbatch
          cases hbatch
        have hlevel := (Settings.exists_rank_iff h.level).1 ⟨rank, hrank⟩
        refine runProgram_of_no_panel h.calm (Option.not_isSome_iff_eq_none.1 fun hsome => hargs ?_)
          hbatch (hpositive n hbatch) h.short
        obtain ⟨haddress, hrows⟩ := hpanel.1 hsome
        exact ⟨hgiven, haddress, hrows, hlevel⟩
  · exact use_of_no_level h fun rank hrank => hlevel ⟨rank, hrank⟩

/-- How interpretation of a program ends when no overlong numeral is reached. -/
lemma ending_of_short (h : StaysShort source) :
    let i := (Machine.initial defaultSize).interpret (Text.lines source)
    i.ending = .done ∨
      ∃ index fault, i.ending = .failed index fault ∧ index < (Text.lines source).length := by
  rcases Machine.ending_of_no_overlong rfl h with
    hdone | ⟨index, line, fault, m, hreach, -, hfailed⟩
  · exact .inl hdone
  · exact .inr ⟨index, fault, hfailed, (List.getElem?_eq_some_iff.1 hreach.1).1⟩

/-- **The command reports the run it made**, whatever the program, the words and the environment, if
every option was given something that can be used.  The status is 0 if the lines of the program can
be carried out one after the other from the state of a reset, and 1 if one of them fails.  Number of
instructions and panels are those of that, and one error is printed if a line failed.  Another use of
the command whose settings differ in the batch size only prints the same, apart from progress, and
exits with the same status.

An option that was left with nothing, or a log level that is none, lets the command crash. -/
theorem report_of_interpretation {host : Host} {words : List Text} {args : Arguments} {source : Text}
    (h : host.Starts words args source) :
    let i := (Machine.initial defaultSize).interpret (Text.lines source)
    (i.ending = .done ∨ ∃ index fault, i.ending = .failed index fault) ∧
      ((Text.lines source).length < Nat.pow 10 decimalLimit →
        i.errorLines.length = if i.ending = .done then 0 else 1) ∧
      ∃ settings log, Settings.resolve args host.environment = .ok (settings, log) ∧
        (args.IsComplete → ∃ start rows, settings.panel? = some (start, rows) ∧
          (host.use words).Accounts settings.trace start rows i) ∧
        (¬ args.IsComplete → ∃ c, (host.use words).exit = .crash c) ∧
        ∀ (host' : Host) (words' : List Text) (args' : Arguments) (settings' : Settings) (log' : Log),
          host'.Starts words' args' source → args.IsComplete → args'.IsComplete →
          Settings.resolve args' host'.environment = .ok (settings', log') →
          { settings' with batchSize := settings.batchSize } = settings →
            (host'.use words').exit = (host.use words).exit ∧
              (host'.use words').withoutProgress = (host.use words).withoutProgress := by
  intro i
  obtain ⟨settings, log, hresolve, -⟩ :=
    Settings.exists_resolve (Arguments.positive_of_parse h.parse) host.environment
  refine ⟨?_, fun hcount => ?_, settings, log, hresolve, fun hargs => h.accounts hargs hresolve,
    h.crashes, ?_⟩
  · exact (ending_of_short h.short).imp_right fun ⟨index, fault, hfailed, _⟩ =>
      ⟨index, fault, hfailed⟩
  · rcases ending_of_short h.short with hdone | ⟨index, fault, hfailed, hindex⟩
    · rw [if_pos hdone, Interpretation.errorLines_of_done hdone]
      rfl
    · have hne : i.ending ≠ .done := by
        rw [hfailed]
        exact Ending.noConfusion
      rw [if_neg hne]
      exact Interpretation.length_errorLines_of_failed hfailed (Nat.lt_of_le_of_lt hindex hcount)
  · intro host' words' args' settings' log' h' hargs hargs' hresolve' hsame
    obtain ⟨start, rows, hwindow, haccounts⟩ := h.accounts hargs hresolve
    obtain ⟨start', rows', hwindow', haccounts'⟩ := h'.accounts hargs' hresolve'
    have htrace : settings'.trace = settings.trace := by rw [← hsame]
    have hpanel : settings'.panel? = settings.panel? := by
      rw [← hsame]
      rfl
    rw [hwindow, hwindow', Option.some_inj, Prod.mk.injEq] at hpanel
    obtain ⟨rfl, rfl⟩ := hpanel
    rw [htrace] at haccounts'
    exact ⟨haccounts'.exit.trans haccounts.exit.symm, haccounts'.output.trans haccounts.output.symm⟩

/-- A host with one program and nothing in its environment. -/
def holding (source : Text) : Host where
  command := text "asm16"
  environment _ := none
  input := []
  read _ := .ok source
  openLog _ := none

lemma starts_holding {words : List Text} {args : Arguments} {source : Text}
    (hparse : Arguments.parse words = .ok args) (hfile : args.program ≠ ['-'])
    (hshort : ∀ line ∈ Text.lines source, ¬ IsOverlong line) :
    (holding source).Starts words args source where
  parse := hparse
  path := (by decide +kernel : (text "emu86.log").contains '\x00' = false)
  opens _ := rfl
  level := ⟨20, (by decide +kernel : threshold (text "INFO") = .rank 20)⟩
  readable := if_neg hfile
  calm := rfl
  short _ line hreach := hshort line (List.mem_of_getElem? hreach.1)

/-- The second line of the program fails, in one batch and in two. -/
theorem report_of_second_line_failing :
    let host := holding ['m', 'u', 'l', ' ', 'a', 'x', '\n', 'p', 'o', 'p', ' ', 'z']
    (host.use [text "p.asm"]).exit = .status 1 ∧
      (host.use [text "p.asm", text "--batch-size=1"]).exit = .status 1 ∧
      (host.use [text "p.asm", text "--batch-size=1"]).withoutProgress =
        (host.use [text "p.asm"]).withoutProgress := by
  intro host
  have hshort : ∀ line ∈ Text.lines ['m', 'u', 'l', ' ', 'a', 'x', '\n', 'p', 'o', 'p', ' ', 'z'],
      ¬ checkLine line = .error .longNumeral := by decide +kernel
  have hplain : host.Starts [text "p.asm"] { program := text "p.asm" } _ :=
    starts_holding (by decide +kernel) (by decide +kernel) hshort
  have hbatch : host.Starts [text "p.asm", text "--batch-size=1"]
      { program := text "p.asm", batchSize := some (.value 1) } _ :=
    starts_holding (by decide +kernel) (by decide +kernel) hshort
  obtain ⟨-, -, settings, log, hresolve, haccounts, -, hsame⟩ := report_of_interpretation hplain
  have hcomplete : Arguments.IsComplete { program := text "p.asm" } :=
    ⟨by simp, by simp, by simp, by simp⟩
  have hcomplete' : Arguments.IsComplete { program := text "p.asm", batchSize := some (.value 1) } :=
    ⟨by simp, by simp, by simp, by simp⟩
  have hsettings : Settings.resolve { program := text "p.asm" } host.environment =
      .ok (⟨.value 100, .value 0, .value 8, false⟩, []) := by decide +kernel
  have hsettings' : Settings.resolve { program := text "p.asm", batchSize := some (.value 1) }
      host.environment = .ok (⟨.value 1, .value 0, .value 8, false⟩, []) := by decide +kernel
  rw [hsettings] at hresolve
  cases hresolve
  obtain ⟨start, rows, -, hreport⟩ := haccounts hcomplete
  obtain ⟨hexit, hprinted⟩ := hsame host _ _ _ _ hbatch hcomplete hcomplete' hsettings' rfl
  have hfailed : ((Machine.initial defaultSize).interpret (Text.lines
      ['m', 'u', 'l', ' ', 'a', 'x', '\n', 'p', 'o', 'p', ' ', 'z'])).ending ≠ .done := by
    decide +kernel
  have hone := hreport.exit
  rw [if_neg hfailed] at hone
  exact ⟨hone, hexit.trans hone, hprinted⟩

/-- **An option can be left with nothing**, although its values are read as numbers; then the command
crashes on a program that has no line to fail. -/
theorem nothing_as_batch_size_crashes :
    let host := holding []
    Arguments.parse [text "p.asm", text "--rows", ['1'], text "--batch-size=--"] =
        .ok { program := text "p.asm", rows := .value 1, batchSize := some .nothing } ∧
      host.source (text "p.asm") = .ok [] ∧
      ((Machine.initial defaultSize).interpret (Text.lines [])).ending = .done ∧
      (host.use [text "p.asm", text "--rows", ['1'], text "--batch-size=--"]).exit =
        .crash (.run .nothingGiven) ∧
      (host.use [text "p.asm", text "--rows", ['1']]).exit = .status 0 := by
  exact ⟨by decide +kernel, rfl, by decide +kernel, by decide +kernel, by decide +kernel⟩

end Host
end Asm16

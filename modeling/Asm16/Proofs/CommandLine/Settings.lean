import Asm16.Proofs.CommandLine.Environment

/-!
# Which settings there are

Whatever the environment holds, looking the settings up comes to an end, and what it comes to can be
worked with: a batch has at least one line.  The options are another matter.  An option may be left
with nothing, and the name of a log level may be one that the log knows for other purposes.

* `Arguments.IsComplete` — every option that has a use was given something that can be used.
* `Draft.positive_read`, `positive_of_parse` — a batch size that was given is a positive number.
* `Settings.exists_resolve` — the settings, and when there is something to run and to show with them.
-/

namespace Asm16

/-! ## Options -/

namespace Arguments

/-- Every option that was given has a value, and the log level is a level. -/
structure IsComplete (args : Arguments) : Prop where
  batchSize : args.batchSize ≠ some .nothing
  memoryAddress : args.memoryAddress ≠ some .nothing
  rows : args.rows ≠ .nothing
  logLevel : ∀ name, args.logLevel = some name → name ≠ [] → ∃ rank, threshold name = .rank rank

/-- A batch size that was given as a number is positive. -/
def IsPositive (args : Arguments) : Prop := ∀ n, args.batchSize = some (.value n) → 1 ≤ n

lemma one_le_of_positiveInteger {t : Text} {n : Int} (h : positiveInteger t = .ok n) : 1 ≤ n := by
  rw [positiveInteger] at h
  split at h
  · cases h
  · split at h <;> cases h
    omega

/-- A number is given through its reader. -/
lemma exists_of_read_value {read : Text → Except Text Int} {t : Text} {n : Int}
    (h : Given.read read t = .ok (.value n)) : read t = .ok n := by
  rw [Given.read] at h
  split at h
  · cases h
  · cases hr : read t with
    | error message => rw [hr] at h; cases h
    | ok m => rw [hr] at h; cases h; rfl

namespace Draft

/-- What is read, if it is accepted, has no batch size but a positive one. -/
def Positive (r : Except Refusal Draft) : Prop := ∀ d, r = .ok d → d.rest.IsPositive

lemma Positive.ok {d : Draft} (h : d.rest.IsPositive) : Positive (.ok d) := by
  rintro d' ⟨⟩
  exact h

lemma Positive.error (refusal : Refusal) : Positive (.error refusal) := fun _ h => by cases h

lemma Positive.bind {r : Except Refusal Draft} {next : Draft → Except Refusal Draft}
    (h : Positive r) (hnext : ∀ d, d.rest.IsPositive → Positive (next d)) :
    Positive (r >>= next) := by
  cases r with
  | error refusal => exact .error refusal
  | ok d => exact hnext d (h d rfl)

variable {d : Draft}

lemma positive_assign (hd : d.rest.IsPositive) (o : CommandOption) (value : Text) :
    Positive (d.assign o value) := by
  cases o with
  | batchSize =>
      simp only [assign]
      cases hread : Given.read positiveInteger value with
      | error message => exact .error _
      | ok g =>
          refine .ok fun n hn => ?_
          obtain rfl : g = .value n := Option.some.inj hn
          exact one_le_of_positiveInteger (exists_of_read_value hread)
  | memoryAddress | rows =>
      simp only [assign]
      split
      · exact .ok hd
      · exact .error _
  | logLevel | help | trace => exact .ok hd

lemma positive_raise (hd : d.rest.IsPositive) (o : CommandOption) : Positive (d.raise o) := by
  cases o with
  | trace => exact .ok hd
  | _ => exact .error _

/-- Whatever the words, by induction along their reading. -/
lemma positive_read (words : List CommandWord) (d : Draft) (hd : d.rest.IsPositive) :
    Positive (read words d) := by
  fun_induction read words d with
  | case1 d => exact .ok hd
  | case2 t rest d ih => exact ih hd
  | case3 o short value rest d _ ih => exact (positive_assign hd o value).bind ih
  | case4 | case5 => exact .error _
  | case6 o short value rest d _ ih => exact (positive_assign hd o value).bind ih
  | case7 o short value rest d _ ih => exact (positive_raise hd o).bind ih
  | case8 o short rest d _ ih => exact (positive_raise hd o).bind ih
  | case9 | case10 | case11 | case12 | case13 | case14 | case15 => rename_i ih; exact ih hd

end Draft

/-- **A batch size that the words give** is a positive number. -/
theorem positive_of_parse {words : List Text} {args : Arguments} (h : parse words = .ok args) :
    args.IsPositive := by
  have hread : ∀ classes, Draft.Positive (read classes {}) := fun classes =>
    Draft.positive_read classes {} fun n hn => by cases hn
  rw [parse] at h
  cases hc : CommandWord.classifyAll words with
  | error refusal => rw [hc] at h; cases h
  | ok classes =>
      rw [hc] at h
      cases hr : read classes {} with
      | error refusal =>
          simp only [bind, Except.bind, hr] at h
          cases h
      | ok d =>
          simp only [bind, Except.bind, hr] at h
          split at h
          · cases h
          · split at h <;> cases h
            exact hread classes d hr

end Arguments

/-! ## Looking settings up -/

namespace Settings

/-- The log level is a level if the one that the words give is, or else the one of the environment. -/
lemma exists_rank_iff {args : Arguments} {env : Environment}
    (henv : ∃ rank, threshold ((env Environment.logLevelName).getD (text "INFO")) = .rank rank) :
    (∃ rank, threshold (levelName args env) = .rank rank) ↔
      ∀ name, args.logLevel = some name → name ≠ [] → ∃ rank, threshold name = .rank rank := by
  rw [levelName]
  cases args.logLevel with
  | none => exact ⟨fun _ _ hname => absurd hname (Option.some_ne_none _).symm, fun _ => henv⟩
  | some name =>
      cases name with
      | nil => exact ⟨fun _ _ hname hne => absurd (Option.some.inj hname).symm hne, fun _ => henv⟩
      | cons c name =>
          exact ⟨fun h _ hother _ => Option.some.inj hother ▸ h, fun h => h _ rfl (by simp)⟩

lemma resolve_eq {args : Arguments} {env : Environment} {batchSize address : Given Int}
    {batchLog addressLog : Log} (hbatch : batchSizeOf args env = .ok (batchSize, batchLog))
    (haddress : memoryAddressOf args env = .ok (address, addressLog)) :
    resolve args env =
      .ok (⟨batchSize, address, args.rows, args.trace⟩, batchLog ++ addressLog) := by
  rw [resolve, hbatch]
  simp only [bind, Except.bind, haddress]
  rfl

/-- **There are always settings.**  The batch size is positive, unless the option for it was left with
nothing; and there is a panel to show unless one of the options for it was. -/
theorem exists_resolve {args : Arguments} (hargs : args.IsPositive) (env : Environment) :
    ∃ settings log, resolve args env = .ok (settings, log) ∧ settings.trace = args.trace ∧
      (settings.batchSize = .nothing ↔ args.batchSize = some .nothing) ∧
      (∀ n, settings.batchSize = .value n → 1 ≤ n) ∧
      (settings.panel?.isSome = true ↔
        args.memoryAddress ≠ some .nothing ∧ args.rows ≠ .nothing) := by
  obtain ⟨batchSize, batchLog, hbatch, hbatchChosen, -⟩ :=
    exists_settled args.batchSize (show 2 ≤ 10 by decide) (by decide) 1 Scheduler.defaultBatchSize
      Environment.batchSizeName (env Environment.batchSizeName) (by decide) (by decide)
  obtain ⟨address, addressLog, haddress, haddressChosen, -⟩ :=
    exists_settled args.memoryAddress (show 2 ≤ 16 by decide) (by decide) 0 0
      Environment.memoryAddressName (env Environment.memoryAddressName) (by decide) (by decide)
  refine ⟨_, _, resolve_eq hbatch haddress, rfl, hbatchChosen.eq_nothing_iff, ?_, ?_⟩
  · intro n hn
    exact (hbatchChosen.least_le (by decide) hn).elim (hargs n) id
  · rw [Ne, ← haddressChosen.eq_nothing_iff, panel?]
    cases address <;> cases args.rows <;> simp

end Settings
end Asm16

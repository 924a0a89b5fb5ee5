import Asm16.CommandLine.Settings
import Asm16.Proofs.CommandLine.Integer
import Asm16.Proofs.Program.Reading

/-!
# A setting that may stand in the environment

Anybody can have written anything there.  Whatever it is, the setting has a value in the end: that
of its option, or else the one in the environment if that is an integer and not too small, or else
its default.

* `Usable`, `Rejected` — what stands in the environment can be used, or is left aside.
* `Chosen` — where the value of a setting comes from.
* `Leaves` — what looking it up leaves in the log.

`Settings.exists_settled` says that looking a setting up comes to an end in one of these ways.
-/

namespace Asm16

/-! ## One setting -/

/-- What stands in the environment is an integer that is not too small. -/
def Usable (base : Nat) (least : Int) (raw : Option Text) (n : Int) : Prop :=
  ∃ t, raw = some t ∧ States base t n ∧ least ≤ n

/-- There is more than blanks in a text, and it states no integer that is large enough. -/
structure Rejected (base : Nat) (least : Int) (t : Text) : Prop where
  filled : ∃ c ∈ t, isBlank c = false
  small : ∀ n, States base t n → n < least

/-- Where the value of a setting comes from: its option, the environment, or its default. -/
inductive Chosen (option : Option (Given Int)) (base : Nat) (least default : Int)
    (raw : Option Text) : Given Int → Prop
  | option {g : Given Int} (hgiven : option = some g) : Chosen option base least default raw g
  | environment {n : Int} (hopen : option = none) (hn : Usable base least raw n) :
    Chosen option base least default raw (.value n)
  | default (hopen : option = none) (hn : ∀ n, ¬ Usable base least raw n) :
    Chosen option base least default raw (.value default)

/-- One warning that names the setting, the text that was rejected and what is used instead. -/
def Warns (name t : Text) (default : Int) (log : Log) : Prop :=
  ∃ reason below, log = [⟨.warning, text "Ignoring " ++ reason ++ name ++ ['='] ++ t.quoted ++
    below ++ text ", using " ++ signedDecimal default⟩]

/-- What looking a setting up leaves in the log: a warning if it was left to the environment and
rejected there, and nothing if not. -/
inductive Leaves (option : Option (Given Int)) (base : Nat) (least default : Int) (name : Text)
    (raw : Option Text) : Log → Prop
  | warning {t : Text} {log : Log} (hopen : option = none) (hraw : raw = some t)
    (hrejected : Rejected base least t) (hlog : Warns name t default log) :
    Leaves option base least default name raw log
  | nothing (h : ¬ (option = none ∧ ∃ t, raw = some t ∧ Rejected base least t)) :
    Leaves option base least default name raw []

namespace Chosen

variable {option : Option (Given Int)} {base : Nat} {least default : Int} {raw : Option Text}
  {g : Given Int}

lemma eq_nothing_iff (h : Chosen option base least default raw g) :
    g = .nothing ↔ option = some .nothing := by
  cases h with
  | option hgiven => simp [hgiven]
  | environment hopen | default hopen => simp [hopen]

/-- A value is that of the option, or it is not too small. -/
lemma least_le (h : Chosen option base least default raw g) (hdefault : least ≤ default) {n : Int}
    (hn : g = .value n) : option = some (.value n) ∨ least ≤ n := by
  cases h with
  | option hgiven => exact .inl (hn ▸ hgiven)
  | environment hopen husable =>
      cases hn
      obtain ⟨t, -, -, hle⟩ := husable
      exact .inr hle
  | default =>
      cases hn
      exact .inr hdefault

end Chosen

/-! ## Blank texts -/

lemma StandsFor.not_isBlank {base d : Nat} {c : Char} (h : StandsFor base c d) :
    isBlank c = false := by
  rcases h with h | ⟨-, hdigit⟩
  · exact isBlank_of_toLower_mem (List.mem_append_left _ h.mem)
  · refine Bool.eq_false_iff.2 fun hblank => ?_
    rw [decimalDigit?_of_isBlank hblank] at hdigit
    cases hdigit

/-- A text that states an integer is not blank. -/
lemma States.filled {base : Nat} {t : Text} {n : Int} (h : States base t n) :
    ∃ c ∈ t, isBlank c = false := by
  cases h with
  | intro sign hfront hback hmark hdigits hlimit =>
      obtain ⟨c, rest, d, rfl, hc⟩ := hdigits.exists_cons
      exact ⟨c, by simp, hc.not_isBlank⟩

/-- There is more than blanks in a text if trimming leaves something. -/
lemma filled_iff {t : Text} : (∃ c ∈ t, isBlank c = false) ↔ t.trim ≠ [] := by
  constructor
  · rintro ⟨c, hc, hfalse⟩ htrim
    obtain ⟨u, w, hu, hw, ht⟩ := Text.exists_trim t
    rw [ht, htrim, List.append_nil, List.mem_append] at hc
    have hblank : isBlank c = true := hc.elim (hu c) (hw c)
    rw [hblank] at hfalse
    cases hfalse
  · intro htrim
    by_contra hnone
    refine htrim (Text.trim_eq_nil_of_blank fun c hc => ?_)
    cases hc' : isBlank c with
    | true => rfl
    | false => exact absurd ⟨c, hc, hc'⟩ hnone

/-! ## Looking one up -/

namespace Settings

variable {base : Nat} {least default : Int}

/-- Numbers as small as the bounds and defaults of settings can be written. -/
lemma decimal?_of_small {n : Int} (h : n.natAbs < Nat.pow 10 3) :
    decimal? n = .ok (signedDecimal n) := decimal?_of_lt (by decide) h

lemma warns_ignoring (reason name raw below : Text) (h : default.natAbs < Nat.pow 10 3) :
    ∃ log, ignoring reason name raw below default = .ok log ∧ Warns name raw default log := by
  rw [ignoring, decimal?_of_small h]
  exact ⟨_, rfl, reason, below, rfl⟩

variable {name t : Text}

lemma readInteger_of_blank (hblank : t.trim = []) :
    readInteger name (some t) default base (some least) = .ok (default, []) := by
  simp only [readInteger, hblank]
  rfl

lemma readInteger_of_states (hlow : 2 ≤ base) (hhigh : base ≤ 16) {n : Int} (hn : States base t n)
    (hle : least ≤ n) : readInteger name (some t) default base (some least) = .ok (n, []) := by
  have hfilled : t.trim.isEmpty = false := by simpa using filled_iff.1 hn.filled
  have hparse := (parseSetting?_eq_some_iff hlow hhigh).2 hn
  simp only [readInteger, hfilled, hparse, Int.not_lt.2 hle]
  rfl

lemma exists_of_rejected (hlow : 2 ≤ base) (hhigh : base ≤ 16) (h : Rejected base least t)
    (hdefault : default.natAbs < Nat.pow 10 3) (hleast : least.natAbs < Nat.pow 10 3) :
    ∃ log, readInteger name (some t) default base (some least) = .ok (default, log) ∧
      Warns name t default log := by
  have hfilled : t.trim.isEmpty = false := by simpa using filled_iff.1 h.filled
  simp only [readInteger, hfilled]
  cases hparse : parseSetting? base t with
  | none =>
      obtain ⟨log, hlog, hwarns⟩ := warns_ignoring (text "invalid ") name t [] hdefault
      exact ⟨log, by simp only [hlog]; rfl, hwarns⟩
  | some n =>
      obtain ⟨log, hlog, hwarns⟩ :=
        warns_ignoring [] name t (text " below " ++ signedDecimal least) hdefault
      have hsmall : n < least := h.small n ((parseSetting?_eq_some_iff hlow hhigh).1 hparse)
      refine ⟨log, ?_, hwarns⟩
      simp only [hsmall, if_true, decimal?_of_small hleast, bind, Except.bind, hlog]
      rfl

/-- **What is read of the environment**, whatever stands there. -/
lemma exists_looked_up (hlow : 2 ≤ base) (hhigh : base ≤ 16) (name : Text) (raw : Option Text)
    (hdefault : default.natAbs < Nat.pow 10 3) (hleast : least.natAbs < Nat.pow 10 3) :
    ∃ n log, readInteger name raw default base (some least) = .ok (n, log) ∧
      Chosen none base least default raw (.value n) ∧
      Leaves none base least default name raw log := by
  by_cases husable : ∃ n, Usable base least raw n
  · obtain ⟨n, t, rfl, hn, hle⟩ := husable
    refine ⟨n, [], readInteger_of_states hlow hhigh hn hle, .environment rfl ⟨t, rfl, hn, hle⟩,
      .nothing ?_⟩
    rintro ⟨-, t, ⟨⟩, hrejected⟩
    exact Int.not_lt.2 hle (hrejected.small n hn)
  · rw [not_exists] at husable
    cases raw with
    | none =>
        refine ⟨default, [], rfl, .default rfl husable, .nothing ?_⟩
        rintro ⟨-, t, ⟨⟩, -⟩
    | some t =>
        by_cases hfilled : ∃ c ∈ t, isBlank c = false
        · have hrejected : Rejected base least t := ⟨hfilled, fun n hn => Int.not_le.1 fun hle =>
            husable n ⟨t, rfl, hn, hle⟩⟩
          obtain ⟨log, hread, hwarns⟩ := exists_of_rejected hlow hhigh hrejected hdefault hleast
          exact ⟨default, log, hread, .default rfl husable, .warning rfl rfl hrejected hwarns⟩
        · have hblank : t.trim = [] := not_not.1 fun h => hfilled (filled_iff.2 h)
          refine ⟨default, [], readInteger_of_blank hblank, .default rfl husable, .nothing ?_⟩
          rintro ⟨-, t, ⟨⟩, hrejected⟩
          exact hfilled hrejected.filled

/-- An option that was given is taken as it is. -/
lemma exists_settled (option : Option (Given Int)) (hlow : 2 ≤ base) (hhigh : base ≤ 16)
    (least default : Int) (name : Text) (raw : Option Text)
    (hdefault : default.natAbs < Nat.pow 10 3) (hleast : least.natAbs < Nat.pow 10 3) :
    ∃ g log, given option (readInteger name raw default base (some least)) = .ok (g, log) ∧
      Chosen option base least default raw g ∧ Leaves option base least default name raw log := by
  cases option with
  | some g => exact ⟨g, [], rfl, .option rfl, .nothing (by simp)⟩
  | none =>
      obtain ⟨n, log, hread, hchosen, hleaves⟩ :=
        exists_looked_up hlow hhigh name raw hdefault hleast
      exact ⟨.value n, log, by rw [hread]; rfl, hchosen, hleaves⟩

end Settings
end Asm16

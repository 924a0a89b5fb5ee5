import Asm16.Program.Operation
import Asm16.Proofs.Step
import Mathlib.Tactic.SplitIfs

/-!
# What a line fails with on any machine

Most of what can be wrong with a line is wrong with it on every machine.  A check looks at the line
alone, in the order in which carrying it out does, and answers with the error it is bound to end in.

* `Operation.check`, `checkLine` — the check of an operation and of a line.
* `Foretold` — a step ends in the error that a check has foretold; if none was foretold, it ends
  well or in a fault.
* `foretold_executeLine` — the check of a line foretells what becomes of it, without watchers.
* `expects_checkLine` — a check foretells faults, and of other errors only one.  Lines that it
  foretells that error for are `IsOverlong`: a decimal numeral beyond the limit has to be read from
  them, or to be written into the message about a fault.
-/

namespace Asm16

/-! ## Checks -/

/-- Only a word transfer may name memory. -/
def Operand.checkValue : Operand → Except Error Unit
  | .memory a => do .error (.ofCause .badOperand (['['] ++ (← decimal? a) ++ [']']))
  | _ => .ok ()

/-- No memory has cells below address zero. -/
def checkAddress (a : Int) : Except Error Unit :=
  if a < 0 then .error (Memory.outOfRange a) else .ok ()

/-- The token means an operand that has a value. -/
def checkToken (token : Text) : Except Error Unit := do
  let operand ← resolve token
  operand.checkValue

def Operation.check : Operation → Except Error Unit
  | .mov dest src => do
    let source ← resolve src
    if isBracketed dest then
      let a ← addressOf dest
      source.checkValue
      checkAddress a
    else
      let _ ← resolveRegister dest
      match source with
      | .memory a => checkAddress a
      | _ => .ok ()
  | .push src | .mul src | .div src => checkToken src
  | .pop dest => do
    let _ ← resolveRegister dest
  | .add dest src | .sub dest src => do
    checkToken src
    let _ ← resolveRegister dest

def checkLine (line : Text) : Except Error Unit := do
  match ← Instruction.decode line with
  | none => .ok ()
  | some i =>
    let operation ← Operation.of i
    operation.check

def Error.IsFault : Error → Prop
  | .fault _ => True
  | _ => False

/-- The error is one that a line can end in: a fault, or that a decimal numeral is too long. -/
def Error.IsExpected : Error → Prop
  | .fault _ | .longNumeral => True
  | _ => False

/-- Errors that lines can end in come out of a run as they are. -/
lemma Error.outOfRun_of_isExpected {e : Error} (h : e.IsExpected) : e.outOfRun = e :=
  outOfRun_of_ne (by rintro rfl; exact h)

/-- No fault is replaced on the way out of a run, nor does one come in the place of an error. -/
lemma Error.isFault_outOfRun {e : Error} : e.outOfRun.IsFault ↔ e.IsFault := by
  cases e with
  | refused reason => cases reason <;> exact Iff.rfl
  | _ => exact Iff.rfl

/-- The line needs a decimal numeral that is too long. -/
def IsOverlong (line : Text) : Prop := checkLine line = .error .longNumeral

/-! ## Errors of checks -/

/-- The computation ends in no other errors. -/
inductive Expects {α : Type} : Except Error α → Prop
  | ok (a : α) : Expects (.ok a)
  | error {e : Error} (h : e.IsExpected) : Expects (.error e)

namespace Expects

variable {α β : Type} {r : Except Error α}

lemma cause (cause : Cause) (detail : Text) :
    Expects (.error (.ofCause cause detail) : Except Error α) :=
  .error trivial

lemma bind {next : α → Except Error β} (h : Expects r) (hnext : ∀ a, Expects (next a)) :
    Expects (r >>= next) := by
  cases h with
  | ok a => exact hnext a
  | error h => exact .error h

lemma map (f : α → β) (h : Expects r) : Expects (r.map f) := by
  cases h with
  | ok a => exact .ok (f a)
  | error h => exact .error h

end Expects

lemma expects_parseMagnitude (t : Text) : Expects (parseMagnitude t) := by
  simp only [parseMagnitude]
  cases digitsIn? (splitBase t).1 (splitBase t).2 with
  | none => exact .ok none
  | some ds =>
      simp only
      split_ifs
      · exact .error trivial
      · exact .ok _

lemma expects_parseLiteral (t : Text) : Expects (parseLiteral t) := by
  rw [parseLiteral]
  split
  · exact .ok _
  · exact (expects_parseMagnitude _).map _

lemma expects_decimal? (n : Int) : Expects (decimal? n) := by
  rw [decimal?]
  -- the limit is a number too long to be computed with
  generalize Nat.pow 10 decimalLimit = limit
  split
  · exact .ok _
  · exact .error trivial

lemma expects_addressOf (token : Text) : Expects (addressOf token) := by
  refine (expects_parseLiteral _).bind fun a? => ?_
  cases a? with
  | none => exact .cause _ _
  | some a => exact .ok a

lemma expects_immediateOf (token : Text) : Expects (immediateOf token) := by
  refine (expects_parseLiteral _).bind fun n? => ?_
  cases n? with
  | none => exact .cause _ _
  | some n => exact .ok n

lemma expects_resolve (token : Text) : Expects (resolve token) := by
  rw [resolve]
  split_ifs
  · exact (expects_addressOf token).map _
  · cases registerOf? token with
    | some r => exact .ok _
    | none => exact (expects_immediateOf token).map _

lemma expects_resolveRegister (token : Text) : Expects (resolveRegister token) := by
  rw [resolveRegister]
  cases registerOf? token with
  | some r => exact .ok r
  | none => exact .cause _ _

lemma expects_checkValue (operand : Operand) : Expects operand.checkValue := by
  cases operand with
  | memory a => exact (expects_decimal? a).bind fun shown => .cause _ _
  | _ => exact .ok ()

lemma isExpected_outOfRange (a : Int) : (Memory.outOfRange a).IsExpected := by
  have haddress : Expects (Memory.addressText a) := by
    rw [Memory.addressText]
    split_ifs
    · exact .ok _
    · exact expects_decimal? a
  rw [Memory.outOfRange]
  generalize Memory.addressText a = address at haddress
  cases haddress with
  | ok shown => trivial
  | error h => exact h

lemma expects_checkAddress (a : Int) : Expects (checkAddress a) := by
  rw [checkAddress]
  split_ifs
  · exact .error (isExpected_outOfRange a)
  · exact .ok ()

lemma expects_checkToken (token : Text) : Expects (checkToken token) :=
  (expects_resolve token).bind expects_checkValue

lemma Operation.expects_check : ∀ operation : Operation, Expects operation.check
  | .mov dest src => by
      refine (expects_resolve src).bind fun source => ?_
      split_ifs
      · exact (expects_addressOf dest).bind fun a =>
          (expects_checkValue source).bind fun _ => expects_checkAddress a
      · refine (expects_resolveRegister dest).bind fun _ => ?_
        cases source with
        | memory a => exact expects_checkAddress a
        | _ => exact .ok ()
  | .push src | .mul src | .div src => expects_checkToken src
  | .pop dest => (expects_resolveRegister dest).bind fun _ => .ok ()
  | .add dest src | .sub dest src =>
      (expects_checkToken src).bind fun _ => (expects_resolveRegister dest).bind fun _ => .ok ()

lemma Operation.expects_of (i : Instruction) : Expects (Operation.of i) := by
  rw [Operation.of]
  split
  · exact .cause _ _
  · split_ifs
    · exact .cause _ _
    · split
      case h_8 => exact .cause _ _
      all_goals exact .ok _

lemma Instruction.expects_decode (line : Text) : Expects (Instruction.decode line) := by
  simp only [Instruction.decode, Instruction.parse]
  split_ifs
  · exact .ok none
  · exact .cause _ _
  · exact .ok _

/-- **Whatever is wrong with a line** is a fault, or a decimal numeral that is too long. -/
theorem expects_checkLine (line : Text) : Expects (checkLine line) := by
  refine (Instruction.expects_decode line).bind fun i? => ?_
  cases i? with
  | none => exact .ok ()
  | some i => exact (Operation.expects_of i).bind Operation.expects_check

/-! ## What comes of it -/

/-- A step ends in the error that a check has foretold; if none was foretold, it ends well or in a
fault. -/
inductive Foretold {α : Type} (check : Except Error Unit) : EStateM.Result Error Machine α → Prop
  | ok {a : α} {m : Machine} (h : check = .ok ()) : Foretold check (.ok a m)
  | bound {e : Error} {m : Machine} (h : check = .error e) : Foretold check (.error e m)
  | fault {f : Fault} {m : Machine} (h : check = .ok ()) : Foretold check (.error (.fault f) m)

namespace Foretold

variable {α β γ : Type} {m : Machine}

/-- A check and a step that begin with the same computation. -/
lemma ofExcept_bind {r : Except Error γ} {check : γ → Except Error Unit} {next : γ → Step Machine β}
    (h : ∀ c, Foretold (check c) (next c m)) :
    Foretold (r >>= check) ((Step.ofExcept r >>= next) m) := by
  rw [Step.bind_apply]
  cases r with
  | ok c => exact h c
  | error e => exact .bound rfl

/-- What cannot fail any more changes nothing about what was foretold. -/
lemma then_ok {check : Except Error Unit} {step : Step Machine α} {next : α → Step Machine β}
    (h : Foretold check (step m)) (hnext : ∀ a m', ∃ b m'', next a m' = .ok b m'') :
    Foretold check ((step >>= next) m) := by
  rw [Step.bind_apply]
  generalize step m = r at h
  cases h with
  | @ok a m' hc =>
      obtain ⟨b, m'', hb⟩ := hnext a m'
      simp only [hb]
      exact .ok hc
  | bound hc => exact .bound hc
  | fault hc => exact .fault hc

end Foretold

namespace Operation

variable {m : Machine}

lemma value_checked (operand : Operand) (m : Machine) :
    (∃ e, operand.checkValue = .error e ∧ value m operand = .error e) ∨
      operand.checkValue = .ok () ∧ ∃ n, value m operand = .ok n := by
  cases operand with
  | register r => exact .inr ⟨rfl, _, rfl⟩
  | immediate n => exact .inr ⟨rfl, _, rfl⟩
  | memory a =>
      rw [Operand.checkValue, value]
      generalize decimal? a = shown
      cases shown with
      | ok t => exact .inl ⟨_, rfl, rfl⟩
      | error e => exact .inl ⟨e, rfl, rfl⟩

/-- The check of a token settles whether it has a value. -/
lemma valueOf_checked (token : Text) (m : Machine) :
    (∃ e, checkToken token = .error e ∧ valueOf token m = .error e m) ∨
      checkToken token = .ok () ∧ ∃ n, valueOf token m = .ok n m := by
  rw [checkToken, valueOf, Step.bind_apply]
  cases resolve token with
  | error e => exact .inl ⟨e, rfl, rfl⟩
  | ok operand =>
      simp only [Step.ofExcept_ok, Step.pure_apply, Step.bind_apply, Step.get_apply]
      rcases value_checked operand m with ⟨e, hcheck, hvalue⟩ | ⟨hcheck, n, hvalue⟩
      · exact .inl ⟨e, hcheck, by rw [hvalue]; rfl⟩
      · exact .inr ⟨hcheck, n, by rw [hvalue]; rfl⟩

lemma checkAddress_of_nonneg {a : Int} (h : 0 ≤ a) : checkAddress a = .ok () := by
  rw [checkAddress, if_neg (by omega)]

/-- An access that leaves memory is foretold if the address is negative, and a fault if not. -/
lemma foretold_outOfRange {α : Type} (a : Int) :
    Foretold (checkAddress a) (.error (Memory.outOfRange a) m : EStateM.Result Error Machine α) := by
  by_cases h : a < 0
  · exact .bound (by rw [checkAddress, if_pos h])
  · have hfault : Memory.outOfRange a = .ofCause .outOfRange (text "0x" ++ upperHex a.toNat) := by
      rw [Memory.outOfRange, Memory.addressText, if_pos (by omega)]
    rw [hfault]
    exact .fault (checkAddress_of_nonneg (by omega))

lemma nonneg_of_fits {cells : Cells} {a : Int} {width : Nat} (h : cells.fits a width = true) :
    0 ≤ a := by
  simp only [Cells.fits, Bool.and_eq_true, decide_eq_true_eq] at h
  exact h.1

lemma foretold_save (h : m.memory.subscribed = []) (a n : Int) :
    Foretold (checkAddress a) (save a n m) := by
  rw [save, Machine.onMemory_apply, Memory.writeWord_of_no_watchers h]
  split_ifs with hfits
  · exact .ok (checkAddress_of_nonneg (nonneg_of_fits hfits))
  · exact foretold_outOfRange a

lemma foretold_load (a : Int) : Foretold (checkAddress a) (load a m) := by
  refine Foretold.then_ok ?_ fun _ _ => ⟨_, _, rfl⟩
  rw [Machine.onMemory_apply, Memory.readWord_apply]
  split_ifs with hfits
  · exact .ok (checkAddress_of_nonneg (nonneg_of_fits hfits))
  · exact foretold_outOfRange a

lemma foretold_move (h : m.memory.subscribed = []) (dest src : Text) :
    Foretold (check (.mov dest src)) (move dest src m) := by
  refine Foretold.ofExcept_bind fun source => ?_
  split_ifs
  · refine Foretold.ofExcept_bind fun a => ?_
    rw [Step.bind_apply, Step.get_apply]
    simp only [Step.bind_apply]
    rcases value_checked source m with ⟨e, hcheck, hvalue⟩ | ⟨hcheck, n, hvalue⟩
    · rw [hcheck, hvalue]
      exact .bound rfl
    · rw [hcheck, hvalue]
      exact foretold_save h a n
  · refine Foretold.ofExcept_bind fun r => ?_
    cases source with
    | memory a => exact (foretold_load a).then_ok fun _ _ => ⟨_, _, rfl⟩
    | register q => exact .ok rfl
    | immediate n => exact .ok rfl

lemma foretold_pushWord (h : m.memory.subscribed = []) (src : Text) :
    Foretold (check (.push src)) (pushWord src m) := by
  rw [pushWord, Step.bind_apply, check]
  rcases valueOf_checked src m with ⟨e, hcheck, hvalue⟩ | ⟨hcheck, n, hvalue⟩
  · rw [hcheck, hvalue]
    exact .bound rfl
  · rw [hcheck, hvalue]
    have hsave := foretold_save (m := m.put .sp (m.valueAt .sp - 2)) h
      ((m.put .sp (m.valueAt .sp - 2)).valueAt .sp) n
    rw [checkAddress_of_nonneg (Machine.valueAt_nonneg _ .sp)] at hsave
    exact hsave

lemma foretold_popWord (dest : Text) : Foretold (check (.pop dest)) (popWord dest m) := by
  refine Foretold.ofExcept_bind fun r => ?_
  have hload := foretold_load (m := m) (m.valueAt .sp)
  rw [checkAddress_of_nonneg (m.valueAt_nonneg .sp)] at hload
  exact hload.then_ok fun _ _ => ⟨_, _, rfl⟩

lemma foretold_combine (dest src : Text) (adding : Bool) :
    Foretold (check (.add dest src)) (combine dest src adding m) := by
  rw [combine, Step.bind_apply, check]
  rcases valueOf_checked src m with ⟨e, hcheck, hvalue⟩ | ⟨hcheck, n, hvalue⟩
  · rw [hcheck, hvalue]
    exact .bound rfl
  · rw [hcheck, hvalue]
    refine Foretold.ofExcept_bind (r := resolveRegister dest) fun r => ?_
    exact .ok rfl

lemma foretold_multiply (src : Text) : Foretold (check (.mul src)) (multiply src m) := by
  rw [multiply, Step.bind_apply, check]
  rcases valueOf_checked src m with ⟨e, hcheck, hvalue⟩ | ⟨hcheck, n, hvalue⟩
  · rw [hcheck, hvalue]
    exact .bound rfl
  · rw [hcheck, hvalue]
    exact .ok rfl

lemma foretold_divide (src : Text) : Foretold (check (.div src)) (divide src m) := by
  rw [divide, Step.bind_apply, check]
  rcases valueOf_checked src m with ⟨e, hcheck, hvalue⟩ | ⟨hcheck, n, hvalue⟩
  · rw [hcheck, hvalue]
    exact .bound rfl
  · rw [hcheck, hvalue]
    simp only
    split_ifs
    · exact .fault rfl
    · rw [Step.bind_apply, Step.get_apply]
      simp only
      split_ifs
      · exact .fault rfl
      · exact .ok rfl

/-- **The check of an operation foretells what becomes of it.** -/
theorem foretold_perform (h : m.memory.subscribed = []) :
    ∀ operation : Operation, Foretold operation.check (operation.perform m)
  | .mov dest src => foretold_move h dest src
  | .push src => foretold_pushWord h src
  | .pop dest => foretold_popWord dest
  | .add dest src => foretold_combine dest src true
  | .sub dest src => foretold_combine dest src false
  | .mul src => foretold_multiply src
  | .div src => foretold_divide src

end Operation

/-- **The check of a line foretells what becomes of it**, on every machine that nobody watches. -/
theorem foretold_executeLine {m : Machine} (h : m.memory.subscribed = []) (line : Text) :
    Foretold (checkLine line) (Machine.executeLine line m) := by
  refine Foretold.ofExcept_bind fun i? => ?_
  cases i? with
  | none => exact .ok rfl
  | some i =>
      refine Foretold.then_ok ?_ fun _ _ => ⟨_, _, rfl⟩
      exact Foretold.ofExcept_bind fun operation => Operation.foretold_perform h operation

/-- Carrying out a line ends in no errors but faults and, just if the line is overlong, the one
error about numerals. -/
theorem error_of_executeLine {m m' : Machine} (h : m.memory.subscribed = []) {line : Text} {e : Error}
    (he : Machine.executeLine line m = .error e m') :
    e.IsFault ∨ e = .longNumeral ∧ IsOverlong line := by
  have hforetold := foretold_executeLine h line
  have hexpects := expects_checkLine line
  rw [he] at hforetold
  cases hforetold with
  | fault hc => exact .inl trivial
  | bound hc =>
      rw [hc] at hexpects
      cases hexpects with
      | error hexpected =>
          cases e with
          | fault fault => exact .inl trivial
          | longNumeral => exact .inr ⟨rfl, hc⟩
          | _ => exact absurd hexpected id

end Asm16

import Asm16.Proofs.Machine.Check
import Asm16.Proofs.Program.Token

/-!
# The signatures of the instruction set

An instruction is carried out just if it has one of the signatures of its mnemonic: so many
operands, each of such a form, with addresses inside memory.  Looking at the operands one by one, as
an operation does, comes to the same thing, and tells which error the others end in.

* `Machine.Accepts` — the signatures, one by one.
* `Operation.verdict` — what becomes of an operation, said without carrying it out.  It looks at the
  tokens and the size of memory, and at a register only for the divisor.
* `Operation.obeys_perform` — carrying it out obeys the verdict, without watchers and in a memory
  with room for the stack.
* `Machine.executes_its_signatures` — the result for instructions.
-/

namespace Asm16

/-! ## Signatures -/

/-- The token means a register or an immediate. -/
inductive MeansValue (token : Text) : Prop
  | register {r : Register} (h : Means token (.register r))
  | immediate {n : Int} (h : Means token (.immediate n))

namespace Machine

/-- A word at this address is inside memory. -/
def Holds (m : Machine) (a : Int) : Prop := 0 ≤ a ∧ a + 2 ≤ m.memory.cells.size

instance (m : Machine) (a : Int) : Decidable (m.Holds a) := inferInstanceAs (Decidable (_ ∧ _))

/-- The instruction has a signature of the instruction set. -/
inductive Accepts (m : Machine) : Instruction → Prop
  | move {dest src : Text} {r : Register} (hdest : Means dest (.register r))
    (hsrc : MeansValue src) : Accepts m ⟨Mnemonic.mov.name, [dest, src]⟩
  | load {dest src : Text} {r : Register} {a : Int} (hdest : Means dest (.register r))
    (hsrc : Means src (.memory a)) (holds : m.Holds a) : Accepts m ⟨Mnemonic.mov.name, [dest, src]⟩
  | store {dest src : Text} {a : Int} (hdest : Means dest (.memory a)) (hsrc : MeansValue src)
    (holds : m.Holds a) : Accepts m ⟨Mnemonic.mov.name, [dest, src]⟩
  | add {dest src : Text} {r : Register} (hdest : Means dest (.register r))
    (hsrc : MeansValue src) : Accepts m ⟨Mnemonic.add.name, [dest, src]⟩
  | sub {dest src : Text} {r : Register} (hdest : Means dest (.register r))
    (hsrc : MeansValue src) : Accepts m ⟨Mnemonic.sub.name, [dest, src]⟩
  | push {src : Text} (hsrc : MeansValue src) : Accepts m ⟨Mnemonic.push.name, [src]⟩
  | pop {dest : Text} {r : Register} (hdest : Means dest (.register r)) :
    Accepts m ⟨Mnemonic.pop.name, [dest]⟩
  | mul {src : Text} (hsrc : MeansValue src) : Accepts m ⟨Mnemonic.mul.name, [src]⟩
  | divRegister {src : Text} {r : Register} (hsrc : Means src (.register r))
    (nonzero : m.valueAt r ≠ 0) : Accepts m ⟨Mnemonic.div.name, [src]⟩
  | divImmediate {src : Text} {n : Int} (hsrc : Means src (.immediate n))
    (nonzero : n % 65536 ≠ 0) : Accepts m ⟨Mnemonic.div.name, [src]⟩

end Machine

/-- The instruction divides by what a register holds. -/
def Instruction.DividesByRegister (i : Instruction) : Prop :=
  ∃ src r, i = ⟨Mnemonic.div.name, [src]⟩ ∧ Means src (.register r)

/-! ## Verdicts -/

/-- The word at an address is in reach. -/
def Machine.checkReach (m : Machine) (a : Int) : Except Error Unit :=
  if m.memory.cells.fits a 2 then .ok () else .error (Memory.outOfRange a)

/-- What becomes of an operation in a memory with room for the stack. -/
def Operation.verdict (m : Machine) : Operation → Except Error Unit
  | .mov dest src => do
    let source ← resolve src
    if isBracketed dest then
      let a ← addressOf dest
      source.checkValue
      m.checkReach a
    else
      let _ ← resolveRegister dest
      match source with
      | .memory a => m.checkReach a
      | _ => .ok ()
  | .push src | .mul src => checkToken src
  | .pop dest => do
    let _ ← resolveRegister dest
  | .add dest src | .sub dest src => do
    checkToken src
    let _ ← resolveRegister dest
  | .div src => do
    let source ← resolve src
    let n ← value m source
    if n % 65536 = 0 then .error (.ofCause .divideByZero src.trim) else .ok ()

/-- A step ends as a verdict says: well, or in the error that it names. -/
inductive Obeys {α : Type} (verdict : Except Error Unit) : EStateM.Result Error Machine α → Prop
  | ok {a : α} {m : Machine} (h : verdict = .ok ()) : Obeys verdict (.ok a m)
  | error {e : Error} {m : Machine} (h : verdict = .error e) : Obeys verdict (.error e m)

namespace Obeys

variable {α β γ : Type} {m : Machine} {verdict : Except Error Unit}
  {r : EStateM.Result Error Machine α}

lemma ok_iff (h : Obeys verdict r) : (∃ a m', r = .ok a m') ↔ verdict = .ok () := by
  cases h with
  | ok hv => simp [hv]
  | error hv => simp [hv]

lemma error_iff (h : Obeys verdict r) {e : Error} :
    (∃ m', r = .error e m') ↔ verdict = .error e := by
  cases h with
  | ok hv => simp [hv]
  | error hv => simp [hv]

/-- A verdict and a step that begin with the same computation. -/
lemma ofExcept_bind {r : Except Error γ} {verdict : γ → Except Error Unit}
    {next : γ → Step Machine β} (h : ∀ c, Obeys (verdict c) (next c m)) :
    Obeys (r >>= verdict) ((Step.ofExcept r >>= next) m) := by
  rw [Step.bind_apply]
  cases r with
  | ok c => exact h c
  | error e => exact .error rfl

/-- What cannot fail any more changes nothing about the verdict. -/
lemma then_ok {step : Step Machine α} {next : α → Step Machine β} (h : Obeys verdict (step m))
    (hnext : ∀ a m', ∃ b m'', next a m' = .ok b m'') : Obeys verdict ((step >>= next) m) := by
  rw [Step.bind_apply]
  generalize step m = r at h
  cases h with
  | @ok a m' hv =>
      obtain ⟨b, m'', hb⟩ := hnext a m'
      simp only [hb]
      exact .ok hv
  | error hv => exact .error hv

end Obeys

namespace Operation

variable {m : Machine}

lemma checkReach_of_fits {a : Int} (h : m.memory.cells.fits a 2 = true) :
    m.checkReach a = .ok () := by rw [Machine.checkReach, if_pos h]

lemma obeys_load (a : Int) : Obeys (m.checkReach a) (load a m) := by
  refine Obeys.then_ok ?_ fun _ _ => ⟨_, _, rfl⟩
  rw [Machine.onMemory_apply, Memory.readWord_apply, Machine.checkReach]
  split_ifs
  · exact .ok rfl
  · exact .error rfl

lemma obeys_save (h : m.memory.subscribed = []) (a n : Int) :
    Obeys (m.checkReach a) (save a n m) := by
  rw [save, Machine.onMemory_apply, Memory.writeWord_of_no_watchers h, Machine.checkReach]
  split_ifs
  · exact .ok rfl
  · exact .error rfl

/-- Behind a token with a value comes what is done with the value. -/
lemma obeys_valueOf {α : Type} {next : Int → Step Machine α} {verdict : Except Error Unit}
    (token : Text) (h : ∀ n, Obeys verdict (next n m)) :
    Obeys (checkToken token >>= fun _ => verdict) ((valueOf token >>= next) m) := by
  rw [Step.bind_apply]
  rcases valueOf_checked token m with ⟨e, hcheck, hvalue⟩ | ⟨hcheck, n, hvalue⟩
  · rw [hcheck, hvalue]
    exact .error rfl
  · rw [hcheck, hvalue]
    exact h n

lemma obeys_valueOf_ok {α : Type} {next : Int → Step Machine α} (token : Text)
    (h : ∀ n, Obeys (.ok ()) (next n m)) :
    Obeys (checkToken token) ((valueOf token >>= next) m) := by
  have hnext := obeys_valueOf token h
  rwa [show (checkToken token >>= fun _ => .ok ()) = checkToken token from bind_pure_unit] at hnext

lemma obeys_move (h : m.memory.subscribed = []) (dest src : Text) :
    Obeys (verdict m (.mov dest src)) (move dest src m) := by
  refine Obeys.ofExcept_bind fun source => ?_
  split_ifs
  · refine Obeys.ofExcept_bind fun a => ?_
    rw [Step.bind_apply, Step.get_apply]
    simp only [Step.bind_apply]
    rcases value_checked source m with ⟨e, hcheck, hvalue⟩ | ⟨hcheck, n, hvalue⟩
    · rw [hcheck, hvalue]
      exact .error rfl
    · rw [hcheck, hvalue]
      exact obeys_save h a n
  · refine Obeys.ofExcept_bind fun r => ?_
    cases source with
    | memory a => exact (obeys_load a).then_ok fun _ _ => ⟨_, _, rfl⟩
    | register q => exact .ok rfl
    | immediate n => exact .ok rfl

/-- The stack pointer is a word, so what it points at is in reach. -/
lemma fits_valueAt (hsize : 65537 ≤ m.memory.cells.size) (m' : Machine) :
    m.memory.cells.fits (m'.valueAt .sp) 2 = true := by
  have hnonneg := m'.valueAt_nonneg .sp
  have hlt := m'.valueAt_lt .sp
  simp only [Cells.fits, Bool.and_eq_true, decide_eq_true_eq]
  omega

lemma obeys_pushWord (h : m.memory.subscribed = []) (hsize : 65537 ≤ m.memory.cells.size)
    (src : Text) : Obeys (verdict m (.push src)) (pushWord src m) := by
  refine obeys_valueOf_ok src fun n => ?_
  have hmoved : 65537 ≤ (m.put .sp (m.valueAt .sp - 2)).memory.cells.size := hsize
  have hsave := obeys_save (m := m.put .sp (m.valueAt .sp - 2)) h
    ((m.put .sp (m.valueAt .sp - 2)).valueAt .sp) n
  rw [checkReach_of_fits (fits_valueAt hmoved _)] at hsave
  exact hsave

lemma obeys_popWord (hsize : 65537 ≤ m.memory.cells.size) (dest : Text) :
    Obeys (verdict m (.pop dest)) (popWord dest m) := by
  refine Obeys.ofExcept_bind fun r => ?_
  have hload := obeys_load (m := m) (m.valueAt .sp)
  rw [checkReach_of_fits (fits_valueAt hsize m)] at hload
  exact hload.then_ok fun _ _ => ⟨_, _, rfl⟩

lemma obeys_combine (dest src : Text) (adding : Bool) :
    Obeys (verdict m (.add dest src)) (combine dest src adding m) := by
  refine obeys_valueOf src fun b => ?_
  exact Obeys.ofExcept_bind (r := resolveRegister dest) fun r => .ok rfl

lemma obeys_multiply (src : Text) : Obeys (verdict m (.mul src)) (multiply src m) := by
  exact obeys_valueOf_ok src fun b => .ok rfl

/-- The accumulator is a word, so a quotient of it is one too. -/
lemma quotient_le (m : Machine) (b : Int) : m.valueAt .ax / b ≤ 0xFFFF := by
  have hlt := m.valueAt_lt .ax
  have hle : m.valueAt .ax / b ≤ m.valueAt .ax := Int.ediv_le_self b (m.valueAt_nonneg .ax)
  omega

lemma valueOf_apply (token : Text) (m : Machine) :
    valueOf token m = (Step.ofExcept (resolve token >>= value m) : Step Machine Int) m := by
  rw [valueOf, Step.bind_apply]
  cases resolve token <;> rfl

lemma obeys_divide (src : Text) : Obeys (verdict m (.div src)) (divide src m) := by
  have hverdict : verdict m (.div src) = (resolve src >>= value m) >>= fun n =>
      if n % 65536 = 0 then .error (.ofCause .divideByZero src.trim) else .ok () :=
    (bind_assoc _ _ _).symm
  rw [hverdict, divide, Step.bind_apply, valueOf_apply, ← Step.bind_apply]
  refine Obeys.ofExcept_bind fun n => ?_
  simp only
  split_ifs with hzero
  · exact .error rfl
  · rw [Step.bind_apply, Step.get_apply]
    simp only [if_neg (Int.not_lt.2 (quotient_le m (n % 65536)))]
    exact .ok rfl

/-- **Carrying out an operation obeys the verdict.** -/
theorem obeys_perform (h : m.memory.subscribed = []) (hsize : 65537 ≤ m.memory.cells.size) :
    ∀ operation : Operation, Obeys (operation.verdict m) (operation.perform m)
  | .mov dest src => obeys_move h dest src
  | .push src => obeys_pushWord h hsize src
  | .pop dest => obeys_popWord hsize dest
  | .add dest src => obeys_combine dest src true
  | .sub dest src => obeys_combine dest src false
  | .mul src => obeys_multiply src
  | .div src => obeys_divide src

end Operation

/-! ## Verdicts and signatures -/

lemma checkValue_memory_ne_ok (a : Int) : (Operand.memory a).checkValue ≠ .ok () := by
  intro h
  obtain ⟨shown, -, hno⟩ := bind_eq_ok_iff.1 h
  cases hno

/-- Registers and immediates are the operands that have a value. -/
lemma meansValue_iff {token : Text} :
    MeansValue token ↔ ∃ o, Means token o ∧ o.checkValue = .ok () := by
  constructor
  · rintro (h | h)
    · exact ⟨_, h, rfl⟩
    · exact ⟨_, h, rfl⟩
  · rintro ⟨o, ho, hvalue⟩
    cases o with
    | register r => exact .register ho
    | immediate n => exact .immediate ho
    | memory a => exact absurd hvalue (checkValue_memory_ne_ok a)

lemma checkToken_eq_ok_iff {token : Text} : checkToken token = .ok () ↔ MeansValue token := by
  simp only [checkToken, bind_eq_ok_iff, resolve_eq_ok_iff, meansValue_iff]

namespace Machine

variable {m : Machine}

lemma checkReach_eq_ok_iff {a : Int} : m.checkReach a = .ok () ↔ m.Holds a := by
  simp only [checkReach, Cells.fits, Holds, Bool.and_eq_true, decide_eq_true_eq]
  split_ifs with h
  · exact ⟨fun _ => h, fun _ => rfl⟩
  · exact ⟨fun h => (by cases h), fun holds => absurd holds h⟩

end Machine

namespace Operation

variable {m : Machine}

/-- The instruction that an operation is read from. -/
def source : Operation → Instruction
  | .mov dest src => ⟨Mnemonic.mov.name, [dest, src]⟩
  | .push src => ⟨Mnemonic.push.name, [src]⟩
  | .pop dest => ⟨Mnemonic.pop.name, [dest]⟩
  | .add dest src => ⟨Mnemonic.add.name, [dest, src]⟩
  | .sub dest src => ⟨Mnemonic.sub.name, [dest, src]⟩
  | .mul src => ⟨Mnemonic.mul.name, [src]⟩
  | .div src => ⟨Mnemonic.div.name, [src]⟩

lemma of_source (operation : Operation) : of operation.source = .ok operation := by
  cases operation <;> rfl

lemma eq_source_of_eq_ok {i : Instruction} {operation : Operation} (h : of i = .ok operation) :
    i = operation.source := by
  obtain ⟨mnemonic, operands⟩ := i
  rw [of] at h
  split at h
  next => cases h
  next name hname =>
    obtain rfl := Mnemonic.ofName?_eq_some_iff.1 hname
    split at h
    next => cases h
    next =>
      simp only at h
      split at h <;> cases h <;> rfl

lemma accepts_of_verdict {operation : Operation} (h : operation.verdict m = .ok ()) :
    m.Accepts operation.source := by
  cases operation with
  | mov dest src =>
      obtain ⟨o, ho, h⟩ := bind_eq_ok_iff.1 h
      have hsrc := resolve_eq_ok_iff.1 ho
      split_ifs at h with hbracketed
      · obtain ⟨a, ha, h⟩ := bind_eq_ok_iff.1 h
        obtain ⟨_, hvalue, hreach⟩ := bind_eq_ok_iff.1 h
        exact .store (means_memory_iff.2 ⟨hbracketed, ha⟩) (meansValue_iff.2 ⟨o, hsrc, hvalue⟩)
          (Machine.checkReach_eq_ok_iff.1 hreach)
      · obtain ⟨r, hr, h⟩ := bind_eq_ok_iff.1 h
        have hdest := resolveRegister_eq_ok_iff.1 hr
        cases o with
        | memory a => exact .load hdest hsrc (Machine.checkReach_eq_ok_iff.1 h)
        | register q => exact .move hdest (.register hsrc)
        | immediate n => exact .move hdest (.immediate hsrc)
  | push src => exact .push (checkToken_eq_ok_iff.1 h)
  | pop dest =>
      obtain ⟨r, hr, -⟩ := bind_eq_ok_iff.1 h
      exact .pop (resolveRegister_eq_ok_iff.1 hr)
  | add dest src =>
      obtain ⟨_, hsrc, h⟩ := bind_eq_ok_iff.1 h
      obtain ⟨r, hr, -⟩ := bind_eq_ok_iff.1 h
      exact .add (resolveRegister_eq_ok_iff.1 hr) (checkToken_eq_ok_iff.1 hsrc)
  | sub dest src =>
      obtain ⟨_, hsrc, h⟩ := bind_eq_ok_iff.1 h
      obtain ⟨r, hr, -⟩ := bind_eq_ok_iff.1 h
      exact .sub (resolveRegister_eq_ok_iff.1 hr) (checkToken_eq_ok_iff.1 hsrc)
  | mul src => exact .mul (checkToken_eq_ok_iff.1 h)
  | div src =>
      obtain ⟨o, ho, h⟩ := bind_eq_ok_iff.1 h
      obtain ⟨n, hn, h⟩ := bind_eq_ok_iff.1 h
      split_ifs at h with hzero
      have hsrc := resolve_eq_ok_iff.1 ho
      cases o with
      | register r =>
          cases hn
          exact .divRegister hsrc fun hr => hzero (by rw [hr]; rfl)
      | immediate k =>
          cases hn
          exact .divImmediate hsrc hzero
      | memory a =>
          obtain ⟨shown, -, hno⟩ := bind_eq_ok_iff.1 hn
          cases hno

end Operation

namespace Machine

variable {m : Machine} {i : Instruction}

/-- A register is not between brackets, and it is what it is resolved to. -/
lemma resolved_register {token : Text} {r : Register} (h : Means token (.register r)) :
    isBracketed token = false ∧ resolveRegister token = .ok r :=
  ⟨isBracketed_of_register (means_register_iff.1 h), resolveRegister_eq_ok_iff.2 h⟩

lemma verdict_of_accepts (h : m.Accepts i) :
    ∃ operation : Operation, i = operation.source ∧ operation.verdict m = .ok () := by
  cases h with
  | @move dest src r hdest hsrc =>
      obtain ⟨o, ho, hvalue⟩ := meansValue_iff.1 hsrc
      obtain ⟨hbracketed, hr⟩ := resolved_register hdest
      refine ⟨.mov dest src, rfl, bind_eq_ok_iff.2 ⟨o, resolve_eq_ok_iff.2 ho, ?_⟩⟩
      rw [if_neg (by simp [hbracketed])]
      refine bind_eq_ok_iff.2 ⟨r, hr, ?_⟩
      cases o with
      | memory a => exact absurd hvalue (checkValue_memory_ne_ok a)
      | _ => rfl
  | @load dest src r a hdest hsrc holds =>
      obtain ⟨hbracketed, hr⟩ := resolved_register hdest
      refine ⟨.mov dest src, rfl, bind_eq_ok_iff.2 ⟨.memory a, resolve_eq_ok_iff.2 hsrc, ?_⟩⟩
      rw [if_neg (by simp [hbracketed])]
      exact bind_eq_ok_iff.2 ⟨r, hr, checkReach_eq_ok_iff.2 holds⟩
  | @store dest src a hdest hsrc holds =>
      obtain ⟨o, ho, hvalue⟩ := meansValue_iff.1 hsrc
      obtain ⟨hbracketed, ha⟩ := means_memory_iff.1 hdest
      refine ⟨.mov dest src, rfl, bind_eq_ok_iff.2 ⟨o, resolve_eq_ok_iff.2 ho, ?_⟩⟩
      rw [if_pos hbracketed]
      refine bind_eq_ok_iff.2 ⟨a, ha, bind_eq_ok_iff.2 ⟨(), hvalue, ?_⟩⟩
      exact checkReach_eq_ok_iff.2 holds
  | @add dest src r hdest hsrc =>
      refine ⟨.add dest src, rfl, bind_eq_ok_iff.2 ⟨(), checkToken_eq_ok_iff.2 hsrc, ?_⟩⟩
      exact bind_eq_ok_iff.2 ⟨r, resolveRegister_eq_ok_iff.2 hdest, rfl⟩
  | @sub dest src r hdest hsrc =>
      refine ⟨.sub dest src, rfl, bind_eq_ok_iff.2 ⟨(), checkToken_eq_ok_iff.2 hsrc, ?_⟩⟩
      exact bind_eq_ok_iff.2 ⟨r, resolveRegister_eq_ok_iff.2 hdest, rfl⟩
  | @push src hsrc => exact ⟨.push src, rfl, checkToken_eq_ok_iff.2 hsrc⟩
  | @pop dest r hdest =>
      exact ⟨.pop dest, rfl, bind_eq_ok_iff.2 ⟨r, resolveRegister_eq_ok_iff.2 hdest, rfl⟩⟩
  | @mul src hsrc => exact ⟨.mul src, rfl, checkToken_eq_ok_iff.2 hsrc⟩
  | @divRegister src r hsrc nonzero =>
      have hmod : m.valueAt r % 65536 ≠ 0 := by
        have := m.valueAt_nonneg r
        have := m.valueAt_lt r
        omega
      refine ⟨.div src, rfl, bind_eq_ok_iff.2 ⟨_, resolve_eq_ok_iff.2 hsrc, ?_⟩⟩
      exact bind_eq_ok_iff.2 ⟨_, rfl, if_neg hmod⟩
  | @divImmediate src n hsrc nonzero =>
      refine ⟨.div src, rfl, bind_eq_ok_iff.2 ⟨_, resolve_eq_ok_iff.2 hsrc, ?_⟩⟩
      exact bind_eq_ok_iff.2 ⟨n, rfl, if_neg nonzero⟩

/-- What becomes of an instruction. -/
def verdict (m : Machine) (i : Instruction) : Except Error Unit := do
  let operation ← Operation.of i
  operation.verdict m

lemma verdict_eq_ok_iff : m.verdict i = .ok () ↔ m.Accepts i := by
  rw [verdict, bind_eq_ok_iff]
  constructor
  · rintro ⟨operation, hof, h⟩
    rw [Operation.eq_source_of_eq_ok hof]
    exact Operation.accepts_of_verdict h
  · intro h
    obtain ⟨operation, rfl, hverdict⟩ := verdict_of_accepts h
    exact ⟨operation, Operation.of_source operation, hverdict⟩

/-- Two machines with memories of the same size differ in the verdict on a division by a register
only. -/
lemma verdict_congr {m' : Machine} (hsize : m'.memory.cells.size = m.memory.cells.size)
    (hdiv : ¬ i.DividesByRegister) : m'.verdict i = m.verdict i := by
  have hreach : m'.checkReach = m.checkReach := by
    funext a
    have hfits : m'.memory.cells.fits a 2 = m.memory.cells.fits a 2 := by
      simp only [Cells.fits, hsize]
    rw [checkReach, checkReach, hfits]
  rw [verdict, verdict]
  cases hof : Operation.of i with
  | error e => rfl
  | ok operation =>
      show operation.verdict m' = operation.verdict m
      cases operation with
      | mov dest src => simp only [Operation.verdict, hreach]
      | div src =>
          simp only [Operation.verdict]
          cases ho : resolve src with
          | error e => rfl
          | ok o =>
              cases o with
              | register r =>
                  exact absurd ⟨src, r, Operation.eq_source_of_eq_ok hof, resolve_eq_ok_iff.1 ho⟩ hdiv
              | _ => rfl
      | _ => rfl

lemma obeys_execute (h : m.memory.subscribed = []) (hsize : 65537 ≤ m.memory.cells.size)
    (i : Instruction) : Obeys (m.verdict i) (execute i m) :=
  Obeys.ofExcept_bind fun operation => Operation.obeys_perform h hsize operation

/-- **An instruction is carried out just if it has a signature of the instruction set**, in a memory
with room for the stack that nobody watches.  What becomes of any other is the same, down to the
error, on all machines with as much memory, unless it divides by a register. -/
theorem executes_its_signatures (h : m.memory.subscribed = [])
    (hsize : 65537 ≤ m.memory.cells.size) (i : Instruction) :
    ((∃ m', execute i m = .ok () m') ↔ m.Accepts i) ∧
      (¬ i.DividesByRegister → ∀ e m', execute i m = .error e m' →
        ∀ n : Machine, n.memory.subscribed = [] → n.memory.cells.size = m.memory.cells.size →
          ∃ n', execute i n = .error e n') := by
  have hobeys := obeys_execute h hsize i
  constructor
  · rw [← verdict_eq_ok_iff, ← hobeys.ok_iff]
    exact ⟨fun ⟨m', hm'⟩ => ⟨(), m', hm'⟩, fun ⟨(), m', hm'⟩ => ⟨m', hm'⟩⟩
  · intro hdiv e m' he n hn hsizes
    have hverdict : m.verdict i = .error e := hobeys.error_iff.1 ⟨m', he⟩
    rw [← verdict_congr hsizes hdiv] at hverdict
    exact (obeys_execute hn (hsizes ▸ hsize) i).error_iff.2 hverdict

/-- Of 65537 cells the last word can be loaded, and a division by zero is one on every machine. -/
theorem loads_last_word :
    (∃ m', execute ⟨['m', 'o', 'v'], [['a', 'x'], ['[', '6', '5', '5', '3', '5', ']']]⟩
        (initial 65537) = .ok () m') ∧
      ∀ n : Machine, n.memory.subscribed = [] → n.memory.cells.size = 65537 →
        ∃ n', execute ⟨['d', 'i', 'v'], [['0']]⟩ n = .error (.ofCause .divideByZero ['0']) n' := by
  constructor
  · refine (executes_its_signatures (m := initial 65537) rfl (by decide) _).1.2 ?_
    exact .load (r := .ax) (a := 65535) (.register rfl)
      (.memory (t := ['6', '5', '5', '3', '5']) rfl rfl) (by decide)
  · intro n hn hsize
    refine (executes_its_signatures (m := initial 65537) rfl (by decide)
      ⟨['d', 'i', 'v'], [['0']]⟩).2 ?_ _ (initial 65537) rfl n hn hsize
    rintro ⟨src, r, hi, hsrc⟩
    cases hi
    cases hsrc with
    | register named => cases r <;> cases named

end Machine
end Asm16

import Asm16.Proofs.Machine.Atomic
import Asm16.Proofs.Machine.Signature

/-!
# What an operation does

An operation that succeeds has one effect on the machine, which the values of its operands determine.
It is said here once for every operation, in both directions: an operation whose operands are as
they should be succeeds, and one that has succeeded has done nothing else.

* `Machine.HasValue` — the value of a source, be it a register or an immediate.
* `Machine.combined`, `multiplied`, `divided` — what arithmetic leaves behind.
* `Operation.Effect` — the effects, one by one.  A store goes to memory with all that watchers do on
  hearing of it; `save_eq_ok_iff` says what it comes to when there are none.
* `Operation.perform_eq_ok_iff` — an operation succeeds just with its effect.

Whoever reasons about instructions that succeed starts from here and opens no operation.
-/

namespace Asm16

/-! ## Values and results -/

namespace Machine

/-- The token has this value on the machine: what the register holds that it names, or the immediate
itself. -/
inductive HasValue (m : Machine) (token : Text) : Int → Prop
  | register {r : Register} (h : Means token (.register r)) : HasValue m token (m.valueAt r)
  | immediate {n : Int} (h : Means token (.immediate n)) : HasValue m token n

/-- The machine when `n` was added to a register, or subtracted from it. -/
def combined (m : Machine) (r : Register) (n : Int) (adding : Bool) : Machine :=
  let result := if adding then m.valueAt r + n else m.valueAt r - n
  let carry : Bool := if adding then 0xFFFF < result else m.valueAt r < n
  (m.put r result).updateFlags result carry (overflows (m.valueAt r) n result adding)

/-- The machine when the accumulator was multiplied. -/
def multiplied (m : Machine) (n : Int) : Machine :=
  let product := m.valueAt .ax * (n % 65536)
  let long : Bool := 0xFFFF < product
  { m.put .ax product with flags := (m.flags.put .cf long).put .of long }

/-- The machine when the accumulator was divided. -/
def divided (m : Machine) (n : Int) : Machine :=
  (m.put .ax (m.valueAt .ax / (n % 65536))).put .dx (m.valueAt .ax % (n % 65536))

/-- The word at an address, as it is loaded. -/
def wordAt (m : Machine) (a : Int) : Int := ((m.memory.cells.word a.toNat).toNat : Int)

/-- The machine when a word was stored and nobody was told. -/
def withWord (m : Machine) (a n : Int) : Machine :=
  { m with memory := (m.memory.put a.toNat (lowByte n)).put (a.toNat + 1) (highByte n) }

variable {m : Machine} {token : Text}

/-- A token that may stand as a source has a value on every machine. -/
lemma exists_hasValue (h : MeansValue token) (m : Machine) : ∃ n, m.HasValue token n := by
  cases h with
  | register h => exact ⟨_, .register h⟩
  | immediate h => exact ⟨_, .immediate h⟩

lemma fits_iff_holds {a : Int} : m.memory.cells.fits a 2 = true ↔ m.Holds a := by
  simp only [Cells.fits, Holds, Bool.and_eq_true, decide_eq_true_eq]
  exact Iff.rfl

end Machine

namespace Operation

variable {m m' : Machine} {src dest : Text} {n a : Int}

lemma value_eq_ok_iff {o : Operand} :
    value m o = .ok n ↔ (∃ r, o = .register r ∧ m.valueAt r = n) ∨ o = .immediate n := by
  cases o with
  | register r => simp [value]
  | immediate k => simp [value]
  | memory a =>
      simp only [value, bind_eq_ok_iff, reduceCtorEq, false_and, exists_false, or_self, iff_false]
      rintro ⟨shown, -, h⟩
      cases h

/-- An operand that is looked up for its value has one, if its token does. -/
lemma exists_value_iff :
    (∃ o, Means src o ∧ value m o = .ok n) ↔ m.HasValue src n := by
  simp only [value_eq_ok_iff]
  constructor
  · rintro ⟨o, ho, ⟨r, rfl, rfl⟩ | rfl⟩
    · exact .register ho
    · exact .immediate ho
  · intro h
    cases h with
    | register h => exact ⟨_, h, .inl ⟨_, rfl, rfl⟩⟩
    | immediate h => exact ⟨_, h, .inr rfl⟩

lemma valueOf_eq_ok_iff : valueOf src m = .ok n m' ↔ m.HasValue src n ∧ m' = m := by
  rw [valueOf, Step.ofExcept_bind_eq_ok_iff, ← exists_value_iff]
  simp only [Step.get_bind_apply, Step.ofExcept_eq_ok_iff, resolve_eq_ok_iff]
  constructor
  · rintro ⟨o, ho, hn, hm⟩
    exact ⟨⟨o, ho, hn⟩, hm⟩
  · rintro ⟨⟨o, ho, hn⟩, hm⟩
    exact ⟨o, ho, hn, hm⟩

lemma load_eq_ok_iff : load a m = .ok n m' ↔ m.Holds a ∧ n = m.wordAt a ∧ m' = m := by
  rw [load, Step.bind_eq_ok_iff, ← Machine.fits_iff_holds]
  simp only [Machine.onMemory_apply, Memory.readWord_apply]
  split_ifs with hfits
  · simp only [hfits, EStateM.Result.ok.injEq, Step.pure_apply, true_and]
    constructor
    · rintro ⟨w, m₁, ⟨rfl, rfl⟩, rfl, rfl⟩
      exact ⟨rfl, rfl⟩
    · rintro ⟨rfl, rfl⟩
      exact ⟨_, _, ⟨rfl, rfl⟩, rfl, rfl⟩
  · simp [hfits]

lemma save_eq_ok_iff (h : m.memory.subscribed = []) :
    save a n m = .ok () m' ↔ m.Holds a ∧ m' = m.withWord a n := by
  rw [save, Machine.onMemory_apply, Memory.writeWord_of_no_watchers h, ← Machine.fits_iff_holds]
  split_ifs with hfits
  · simp only [hfits, EStateM.Result.ok.injEq, true_and]
    exact eq_comm
  · simp [hfits]

/-! ## Effects -/

/-- What an operation that succeeds makes of the machine. -/
inductive Effect (m : Machine) : Operation → Machine → Prop
  | move {dest src : Text} {r : Register} {n : Int} (hdest : Means dest (.register r))
    (hsrc : m.HasValue src n) : Effect m (.mov dest src) (m.put r n)
  | load {dest src : Text} {r : Register} {a : Int} (hdest : Means dest (.register r))
    (hsrc : Means src (.memory a)) (holds : m.Holds a) :
    Effect m (.mov dest src) (m.put r (m.wordAt a))
  | store {dest src : Text} {a n : Int} {m' : Machine} (hdest : Means dest (.memory a))
    (hsrc : m.HasValue src n) (stored : save a n m = .ok () m') : Effect m (.mov dest src) m'
  | push {src : Text} {n : Int} {m' : Machine} (hsrc : m.HasValue src n)
    (stored : save m.pushedTo n (m.put .sp (m.valueAt .sp - 2)) = .ok () m') :
    Effect m (.push src) m'
  | pop {dest : Text} {r : Register} (hdest : Means dest (.register r))
    (holds : m.Holds (m.valueAt .sp)) :
    Effect m (.pop dest) ((m.put .sp (m.valueAt .sp + 2)).put r (m.wordAt (m.valueAt .sp)))
  | add {dest src : Text} {r : Register} {n : Int} (hdest : Means dest (.register r))
    (hsrc : m.HasValue src n) : Effect m (.add dest src) (m.combined r n true)
  | sub {dest src : Text} {r : Register} {n : Int} (hdest : Means dest (.register r))
    (hsrc : m.HasValue src n) : Effect m (.sub dest src) (m.combined r n false)
  | mul {src : Text} {n : Int} (hsrc : m.HasValue src n) : Effect m (.mul src) (m.multiplied n)
  | div {src : Text} {n : Int} (hsrc : m.HasValue src n) (nonzero : n % 65536 ≠ 0) :
    Effect m (.div src) (m.divided n)

/-- A destination between brackets, or one that is not: a move goes to memory or to a register. -/
lemma move_eq_ok_iff : move dest src m = .ok () m' ↔ Effect m (.mov dest src) m' := by
  rw [move, Step.ofExcept_bind_eq_ok_iff]
  simp only [resolve_eq_ok_iff]
  constructor
  · rintro ⟨o, ho, h⟩
    split_ifs at h with hbracketed
    · simp only [Step.ofExcept_bind_eq_ok_iff, Step.get_bind_apply] at h
      obtain ⟨a, ha, n, hn, hstored⟩ := h
      exact .store (means_memory_iff.2 ⟨hbracketed, ha⟩) (exists_value_iff.1 ⟨o, ho, hn⟩) hstored
    · obtain ⟨r, hr, h⟩ := Step.ofExcept_bind_eq_ok_iff.1 h
      have hdest := resolveRegister_eq_ok_iff.1 hr
      cases o with
      | memory a =>
          obtain ⟨n, m₁, hload, h⟩ := Step.bind_eq_ok_iff.1 h
          obtain ⟨holds, rfl, rfl⟩ := load_eq_ok_iff.1 hload
          cases h
          exact .load hdest ho holds
      | register q =>
          cases h
          exact .move hdest (.register ho)
      | immediate n =>
          cases h
          exact .move hdest (.immediate ho)
  · intro h
    cases h with
    | @move _ _ r n hdest hsrc =>
        obtain ⟨hbracketed, hr⟩ := Machine.resolved_register hdest
        cases hsrc with
        | register ho =>
            refine ⟨_, ho, ?_⟩
            rw [if_neg (by simp [hbracketed]), Step.ofExcept_bind_eq_ok_iff]
            exact ⟨r, hr, rfl⟩
        | immediate ho =>
            refine ⟨_, ho, ?_⟩
            rw [if_neg (by simp [hbracketed]), Step.ofExcept_bind_eq_ok_iff]
            exact ⟨r, hr, rfl⟩
    | @load _ _ r a hdest hsrc holds =>
        obtain ⟨hbracketed, hr⟩ := Machine.resolved_register hdest
        refine ⟨_, hsrc, ?_⟩
        rw [if_neg (by simp [hbracketed]), Step.ofExcept_bind_eq_ok_iff]
        refine ⟨r, hr, Step.bind_eq_ok_iff.2 ⟨_, m, load_eq_ok_iff.2 ⟨holds, rfl, rfl⟩, rfl⟩⟩
    | @store _ _ a n _ hdest hsrc hstored =>
        obtain ⟨hbracketed, ha⟩ := means_memory_iff.1 hdest
        obtain ⟨o, ho, hn⟩ := exists_value_iff.2 hsrc
        refine ⟨o, ho, ?_⟩
        rw [if_pos hbracketed]
        simp only [Step.ofExcept_bind_eq_ok_iff, Step.get_bind_apply]
        exact ⟨a, ha, n, hn, hstored⟩

lemma pushWord_eq_ok_iff : pushWord src m = .ok () m' ↔ Effect m (.push src) m' := by
  constructor
  · intro h
    obtain ⟨n, m₁, hn, -⟩ := Step.bind_eq_ok_iff.1 h
    obtain ⟨hsrc, rfl⟩ := valueOf_eq_ok_iff.1 hn
    rw [pushWord_of_ok hn] at h
    exact .push hsrc h
  · intro h
    cases h with
    | push hsrc hstored =>
        rw [pushWord_of_ok (valueOf_eq_ok_iff.2 ⟨hsrc, rfl⟩)]
        exact hstored

lemma popWord_eq_ok_iff : popWord dest m = .ok () m' ↔ Effect m (.pop dest) m' := by
  rw [popWord, Step.ofExcept_bind_eq_ok_iff]
  simp only [resolveRegister_eq_ok_iff, Step.get_bind_apply, Step.bind_eq_ok_iff, load_eq_ok_iff]
  constructor
  · rintro ⟨r, hdest, n, m₁, ⟨holds, rfl, rfl⟩, h⟩
    cases h
    exact .pop hdest holds
  · intro h
    cases h with
    | pop hdest holds => exact ⟨_, hdest, _, m, ⟨holds, rfl, rfl⟩, rfl⟩

lemma combine_eq_ok_iff {adding : Bool} : combine dest src adding m = .ok () m' ↔
    ∃ r n, Means dest (.register r) ∧ m.HasValue src n ∧ m' = m.combined r n adding := by
  rw [combine, Step.bind_eq_ok_iff]
  simp only [valueOf_eq_ok_iff, Step.ofExcept_bind_eq_ok_iff, resolveRegister_eq_ok_iff]
  constructor
  · rintro ⟨n, m₁, ⟨hsrc, rfl⟩, r, hdest, h⟩
    cases h
    exact ⟨r, n, hdest, hsrc, rfl⟩
  · rintro ⟨r, n, hdest, hsrc, rfl⟩
    exact ⟨n, m, ⟨hsrc, rfl⟩, r, hdest, rfl⟩

lemma multiply_eq_ok_iff : multiply src m = .ok () m' ↔ Effect m (.mul src) m' := by
  rw [multiply, Step.bind_eq_ok_iff]
  simp only [valueOf_eq_ok_iff]
  constructor
  · rintro ⟨n, m₁, ⟨hsrc, rfl⟩, h⟩
    cases h
    exact .mul hsrc
  · intro h
    cases h with
    | mul hsrc => exact ⟨_, m, ⟨hsrc, rfl⟩, rfl⟩

/-- The check of the quotient never fails, since the dividend is a word. -/
lemma divide_eq_ok_iff : divide src m = .ok () m' ↔ Effect m (.div src) m' := by
  rw [divide, Step.bind_eq_ok_iff]
  simp only [valueOf_eq_ok_iff]
  constructor
  · rintro ⟨n, m₁, ⟨hsrc, rfl⟩, h⟩
    split_ifs at h with hzero
    · cases h
    · rw [Step.get_bind_apply, if_neg (Int.not_lt.2 (quotient_le m₁ _))] at h
      cases h
      exact .div hsrc hzero
  · intro h
    cases h with
    | div hsrc hzero =>
        refine ⟨_, m, ⟨hsrc, rfl⟩, ?_⟩
        rw [if_neg hzero, Step.get_bind_apply, if_neg (Int.not_lt.2 (quotient_le m _))]
        rfl

/-- **An operation succeeds just with its effect.** -/
theorem perform_eq_ok_iff {operation : Operation} :
    operation.perform m = .ok () m' ↔ Effect m operation m' := by
  cases operation with
  | mov dest src => exact move_eq_ok_iff
  | push src => exact pushWord_eq_ok_iff
  | pop dest => exact popWord_eq_ok_iff
  | add dest src =>
      refine combine_eq_ok_iff.trans ⟨fun ⟨r, n, hdest, hsrc, hm⟩ => hm ▸ .add hdest hsrc, ?_⟩
      intro h
      cases h with
      | add hdest hsrc => exact ⟨_, _, hdest, hsrc, rfl⟩
  | sub dest src =>
      refine combine_eq_ok_iff.trans ⟨fun ⟨r, n, hdest, hsrc, hm⟩ => hm ▸ .sub hdest hsrc, ?_⟩
      intro h
      cases h with
      | sub hdest hsrc => exact ⟨_, _, hdest, hsrc, rfl⟩
  | mul src => exact multiply_eq_ok_iff
  | div src => exact divide_eq_ok_iff

end Operation

namespace Machine

/-- An instruction is carried out as the operation that it is read as. -/
lemma execute_source (operation : Operation) (m : Machine) :
    execute operation.source m = operation.perform m := by
  rw [execute, Step.bind_apply, Operation.of_source]
  rfl

/-- The instruction succeeds just with the effect of its operation. -/
lemma execute_source_eq_ok_iff {operation : Operation} {m m' : Machine} :
    execute operation.source m = .ok () m' ↔ Operation.Effect m operation m' := by
  rw [execute_source, Operation.perform_eq_ok_iff]

end Machine
end Asm16

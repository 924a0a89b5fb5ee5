import Asm16.Proofs.Machine.Effect

/-!
# Multiplication and division

The accumulator is multiplied and divided as an unsigned word, and so is the source, whatever integer
it is: only its sixteen low bits count.  Both results are exact.  A product keeps its low word and
says whether there was more of it; a quotient and its remainder give the dividend back.

* `Machine.GetsProduct`, `Machine.GetsQuotient` — the accumulator has got a product or a quotient, and
  all else is as it was.
* `Blames` — what a computation can be at fault for.  A token is at fault for being no operand or for
  naming no address, and a division for nothing but that and a divisor of zero.
* `Machine.multiplies_and_divides` — the result for instructions.  A quotient is never too long for a
  word, so the check of its length refuses nothing.
-/

namespace Asm16

/-! ## Products and quotients -/

namespace Machine

/-- The accumulator has been multiplied by `d`. -/
structure GetsProduct (m m' : Machine) (d : Int) : Prop where
  value : m'.valueAt .ax = m.valueAt .ax * d % 65536
  carry : m'.flags.cf = true ↔ 65536 ≤ m.valueAt .ax * d
  overflow : m'.flags.of = true ↔ 65536 ≤ m.valueAt .ax * d
  flags : ∀ f, f ≠ .cf → f ≠ .of → m'.flags.get f = m.flags.get f
  added : m'.flags.added = m.flags.added
  others : ∀ q, q ≠ .ax → m'.valueAt q = m.valueAt q
  memory : m'.memory = m.memory

/-- The accumulator has been divided by `d`, and the data register has got the remainder. -/
structure GetsQuotient (m m' : Machine) (d : Int) : Prop where
  dividend : m.valueAt .ax = m'.valueAt .ax * d + m'.valueAt .dx
  remainder_nonneg : 0 ≤ m'.valueAt .dx
  remainder_lt : m'.valueAt .dx < d
  flags : m'.flags = m.flags
  others : ∀ q, q ≠ .ax → q ≠ .dx → m'.valueAt q = m.valueAt q
  memory : m'.memory = m.memory

variable {m : Machine}

lemma getsProduct_multiplied (m : Machine) (n : Int) :
    m.GetsProduct (m.multiplied n) (n % 65536) := by
  have hlong : (m.multiplied n).flags.of = true ↔ 65536 ≤ m.valueAt .ax * (n % 65536) := by
    show decide (0xFFFF < m.valueAt .ax * (n % 65536)) = true ↔ _
    rw [decide_eq_true_iff]
    omega
  refine ⟨valueAt_put_self m .ax _, hlong, hlong, fun f hcf hof => ?_, ?_, fun q hq => ?_, rfl⟩
  · simp only [multiplied, Flags.get_put, hcf, hof, if_false]
  · simp only [multiplied, Flags.added_put]
  · exact valueAt_put_of_ne m hq _

/-- What fits into a register is kept by it. -/
lemma valueAt_put_of_lt {n : Int} (m : Machine) (r : Register) (hnonneg : 0 ≤ n) (hlt : n < 65536) :
    (m.put r n).valueAt r = n := by
  rw [valueAt_put_self, Int.emod_eq_of_lt hnonneg hlt]

/-- Quotient and remainder are both at most the dividend, which is a word: none of them is cut. -/
lemma getsQuotient_divided (m : Machine) {n : Int} (nonzero : n % 65536 ≠ 0) :
    m.GetsQuotient (m.divided n) (n % 65536) := by
  have hx := m.valueAt_nonneg .ax
  have hpos : 0 < n % 65536 := by omega
  have hlt : n % 65536 < 65536 := by omega
  have hquotient : (m.divided n).valueAt .ax = m.valueAt .ax / (n % 65536) := by
    rw [divided, valueAt_put_of_ne _ (by decide)]
    have hle := Operation.quotient_le m (n % 65536)
    exact valueAt_put_of_lt m .ax (Int.ediv_nonneg hx (Int.le_of_lt hpos)) (by omega)
  have hremainder : (m.divided n).valueAt .dx = m.valueAt .ax % (n % 65536) :=
    valueAt_put_of_lt _ .dx (Int.emod_nonneg _ nonzero)
      (Int.lt_trans (Int.emod_lt_of_pos _ hpos) hlt)
  refine ⟨?_, ?_, ?_, rfl, fun q hax hdx => ?_, rfl⟩
  · rw [hquotient, hremainder]
    exact (Int.ediv_mul_add_emod _ _).symm
  · rw [hremainder]
    exact Int.emod_nonneg _ nonzero
  · rw [hremainder]
    exact Int.emod_lt_of_pos _ hpos
  · rw [divided, valueAt_put_of_ne _ hdx, valueAt_put_of_ne _ hax]

end Machine

/-! ## What a division is at fault for -/

/-- If the computation is at fault, then for a cause of this kind. -/
def Blames {α : Type} (P : Cause → Prop) (r : Except Error α) : Prop :=
  ∀ f, r = .error (.fault f) → P f.cause

namespace Blames

variable {α β : Type} {P Q : Cause → Prop} {r : Except Error α}

lemma ok (a : α) : Blames P (.ok a : Except Error α) := fun _ h => by cases h

lemma ofCause {cause : Cause} (h : P cause) (detail : Text) :
    Blames P (.error (.ofCause cause detail) : Except Error α) := fun f hf => by
  cases hf
  exact h

lemma longNumeral : Blames P (.error .longNumeral : Except Error α) := fun _ h => by cases h

lemma bind {next : α → Except Error β} (h : Blames P r) (hnext : ∀ a, Blames P (next a)) :
    Blames P (r >>= next) := by
  cases r with
  | ok a => exact hnext a
  | error e => exact fun f hf => h f (congrArg _ (Except.error.inj hf))

lemma map (f : α → β) (h : Blames P r) : Blames P (r.map f) := by
  cases r with
  | ok a => exact ok (f a)
  | error e => exact fun f hf => h f (congrArg _ (Except.error.inj hf))

lemma mono (h : Blames P r) (hPQ : ∀ cause, P cause → Q cause) : Blames Q r :=
  fun f hf => hPQ _ (h f hf)

end Blames

/-- The causes for which a token is at fault: it is no operand, or names no address. -/
def Cause.OfToken (cause : Cause) : Prop := cause = .badOperand ∨ cause = .badAddress

/-- A literal is never at fault: the only error it can end in is that it is too long. -/
lemma blames_parseLiteral {P : Cause → Prop} (t : Text) : Blames P (parseLiteral t) := by
  have hmagnitude : ∀ t, Blames P (parseMagnitude t) := by
    intro t
    simp only [parseMagnitude]
    cases digitsIn? (splitBase t).1 (splitBase t).2 with
    | none => exact .ok none
    | some ds =>
        simp only
        split_ifs
        · exact .longNumeral
        · exact .ok _
  rw [parseLiteral]
  split
  · exact .ok _
  · exact (hmagnitude _).map _

lemma blames_resolve (token : Text) : Blames Cause.OfToken (resolve token) := by
  have haddress : Blames Cause.OfToken (addressOf token) := by
    refine (blames_parseLiteral _).bind fun a? => ?_
    cases a? with
    | none => exact .ofCause (.inr rfl) _
    | some a => exact .ok a
  have himmediate : Blames Cause.OfToken (immediateOf token) := by
    refine (blames_parseLiteral _).bind fun n? => ?_
    cases n? with
    | none => exact .ofCause (.inl rfl) _
    | some n => exact .ok n
  rw [resolve]
  split_ifs
  · exact haddress.map _
  · cases registerOf? token with
    | some r => exact .ok _
    | none => exact himmediate.map _

namespace Operation

lemma blames_value (m : Machine) (o : Operand) : Blames Cause.OfToken (value m o) := by
  cases o with
  | register r => exact .ok _
  | immediate n => exact .ok n
  | memory a =>
      refine Blames.bind ?_ fun shown => .ofCause (.inl rfl) _
      rw [decimal?]
      -- the limit is a number too long to be computed with
      generalize Nat.pow 10 decimalLimit = limit
      split
      · exact .ok _
      · exact .longNumeral

/-- A division is at fault for its token or for a divisor of zero. -/
lemma cause_of_divide {m m' : Machine} {src : Text} {f : Fault}
    (h : divide src m = .error (.fault f) m') : f.cause.OfToken ∨ f.cause = .divideByZero := by
  have hverdict := (obeys_divide (m := m) src).error_iff.1 ⟨m', h⟩
  refine Blames.bind (P := fun cause => cause.OfToken ∨ cause = .divideByZero)
    ((blames_resolve src).mono fun _ => .inl) (fun o => ?_) f hverdict
  refine ((blames_value m o).mono fun _ => .inl).bind fun n => ?_
  split_ifs
  · exact .ofCause (.inr rfl) _
  · exact .ok ()

/-- An instruction that is no operation is not at fault for a quotient. -/
lemma cause_of_error {i : Instruction} {f : Fault} (h : of i = .error (.fault f)) :
    f.cause ≠ .divideOverflow := by
  refine (?_ : Blames (· ≠ .divideOverflow) (of i)) f h
  rw [of]
  split
  · exact .ofCause (by decide) _
  · split_ifs
    · exact .ofCause (by decide) _
    · split
      case h_8 => exact .ofCause (by decide) _
      all_goals exact .ok _

/-- A division that is read from an instruction has one operand. -/
lemma exists_of_div {operands : List Text} {operation : Operation}
    (h : of ⟨Mnemonic.div.name, operands⟩ = .ok operation) : ∃ src, operation = .div src := by
  have hsource := eq_source_of_eq_ok h
  cases operation with
  | div src => exact ⟨src, rfl⟩
  | _ =>
      have hname := congrArg (fun i => Mnemonic.ofName? i.mnemonic) hsource
      simp [source] at hname

end Operation

/-! ## Instructions -/

namespace Machine

variable {m : Machine} {src : Text} {n : Int}

lemma execute_div_apply (src : Text) (m : Machine) :
    execute ⟨Mnemonic.div.name, [src]⟩ m = Operation.divide src m :=
  execute_source (.div src) m

/-- **Division by zero** is a fault that leaves the machine alone. -/
lemma execute_div_of_zero (hsrc : m.HasValue src n) (hzero : n % 65536 = 0) :
    execute ⟨Mnemonic.div.name, [src]⟩ m = .error (.ofCause .divideByZero src.trim) m := by
  rw [execute_div_apply, Operation.divide, Step.bind_apply,
    Operation.valueOf_eq_ok_iff.2 ⟨hsrc, rfl⟩]
  simp only [hzero, if_true, Step.throw_apply]

/-- The quotient of a division is never too long. -/
lemma execute_div_ne_overflow (operands : List Text) (detail : Option Text) (m m' : Machine) :
    execute ⟨Mnemonic.div.name, operands⟩ m ≠ .error (.fault ⟨.divideOverflow, detail⟩) m' := by
  rw [execute, Step.bind_apply]
  intro h
  cases hof : Operation.of ⟨Mnemonic.div.name, operands⟩ with
  | error e =>
      rw [hof] at h
      cases h
      exact Operation.cause_of_error hof rfl
  | ok operation =>
      obtain ⟨src, rfl⟩ := Operation.exists_of_div hof
      rw [hof] at h
      rcases Operation.cause_of_divide h with (hcause | hcause) | hcause <;> cases hcause

/-- **Multiplication and division are exact on unsigned words.**  With an accumulator `x` and a source
of the value `n`, be it a register, also one that is overwritten, or any immediate, let `d` be `n`
modulo 65536.  Multiplying leaves `x * d` modulo 65536, and carry and overflow say if that is less
than `x * d`.  Dividing is refused just if `d` is zero, and else leaves a quotient and a remainder
below `d` that give `x` back.  No division at all, whatever its operands, ends with a quotient that
is too long. -/
theorem multiplies_and_divides (hsrc : m.HasValue src n) :
    (∃ m', execute ⟨Mnemonic.mul.name, [src]⟩ m = .ok () m' ∧ m.GetsProduct m' (n % 65536)) ∧
      ((∃ m', execute ⟨Mnemonic.div.name, [src]⟩ m =
          .error (.ofCause .divideByZero src.trim) m') ↔ n % 65536 = 0) ∧
      (n % 65536 = 0 → Step.final (execute ⟨Mnemonic.div.name, [src]⟩) m = m) ∧
      (n % 65536 ≠ 0 → ∃ m', execute ⟨Mnemonic.div.name, [src]⟩ m = .ok () m' ∧
        m.GetsQuotient m' (n % 65536)) ∧
      ∀ (operands : List Text) (detail : Option Text) (k k' : Machine),
        execute ⟨Mnemonic.div.name, operands⟩ k ≠ .error (.fault ⟨.divideOverflow, detail⟩) k' := by
  have hmul : execute (Operation.mul src).source m = .ok () (m.multiplied n) :=
    execute_source_eq_ok_iff.2 (.mul hsrc)
  have hdiv : n % 65536 ≠ 0 → execute (Operation.div src).source m = .ok () (m.divided n) :=
    fun nonzero => execute_source_eq_ok_iff.2 (.div hsrc nonzero)
  refine ⟨⟨_, hmul, getsProduct_multiplied m n⟩, ⟨fun ⟨m', he⟩ => ?_, fun hzero => ?_⟩,
    fun hzero => Step.final_of_error (execute_div_of_zero hsrc hzero),
    fun nonzero => ⟨_, hdiv nonzero, getsQuotient_divided m nonzero⟩, execute_div_ne_overflow⟩
  · by_cases hzero : n % 65536 = 0
    · exact hzero
    · have hok := hdiv hzero
      rw [show execute (Operation.div src).source m = _ from he] at hok
      cases hok
  · exact ⟨m, execute_div_of_zero hsrc hzero⟩

/-- The data register is what the accumulator is multiplied and divided by, and what the remainder
goes to.  Minus one is the greatest divisor of all, and 65536 is none. -/
theorem multiplies_and_divides_by_dx :
    (∃ m', execute ⟨['m', 'u', 'l'], [['D', 'X']]⟩ (((initial 16).put .ax 40000).put .dx 7) =
        .ok () m' ∧ m'.valueAt .ax = 17856 ∧ m'.flags.cf = true ∧ m'.flags.of = true) ∧
      (∃ m', execute ⟨['d', 'i', 'v'], [['D', 'X']]⟩ (((initial 16).put .ax 40000).put .dx 7) =
        .ok () m' ∧ 40000 = m'.valueAt .ax * 7 + m'.valueAt .dx ∧ m'.valueAt .dx < 7) ∧
      (∃ m', execute ⟨['d', 'i', 'v'], [['-', '1']]⟩ (((initial 16).put .ax 40000).put .dx 7) =
        .ok () m' ∧ 40000 = m'.valueAt .ax * 65535 + m'.valueAt .dx) ∧
      ∃ m', execute ⟨['d', 'i', 'v'], [['6', '5', '5', '3', '6']]⟩
        (((initial 16).put .ax 40000).put .dx 7) =
          .error (.ofCause .divideByZero ['6', '5', '5', '3', '6']) m' := by
  have hdx : (((initial 16).put .ax 40000).put .dx 7).HasValue ['D', 'X'] 7 :=
    .register (r := .dx) (.register rfl)
  have hminus : (((initial 16).put .ax 40000).put .dx 7).HasValue ['-', '1'] (-1) :=
    .immediate (.immediate rfl)
  have hwide : (((initial 16).put .ax 40000).put .dx 7).HasValue ['6', '5', '5', '3', '6'] 65536 :=
    .immediate (.immediate rfl)
  obtain ⟨⟨m₁, hmul, hproduct⟩, -, -, hdiv, -⟩ := multiplies_and_divides hdx
  obtain ⟨m₂, hdiv, hquotient⟩ := hdiv (by decide)
  obtain ⟨m₃, hminus, hgreatest⟩ := (multiplies_and_divides hminus).2.2.2.1 (by decide)
  refine ⟨⟨m₁, hmul, hproduct.value, hproduct.carry.2 (by decide), hproduct.overflow.2 (by decide)⟩,
    ⟨m₂, hdiv, hquotient.dividend, hquotient.remainder_lt⟩, ⟨m₃, hminus, hgreatest.dividend⟩, ?_⟩
  exact (multiplies_and_divides hwide).2.1.2 (by decide)

end Machine
end Asm16

import Asm16.Proofs.Machine.Arithmetic

/-!
# Immediates modulo a word

An immediate is an integer of any size, and a machine keeps words.  Two immediates with the same word
are as good as each other to every operation, with one exception: an addition or a subtraction takes
its carry from the integer as it is written, so `-1` and `0xFFFF` need not carry alike.

* `Operation.TakesSource` — an operation but for its source.
* `EndsAlike` — two results of the same kind, in related machines.  Errors are alike if they differ
  in the details of a fault only, which quote the source.
* `Machine.withoutCarry` — what is left of a machine when the carry is not looked at.
* `Machine.alike_immediates` — all that two such immediates have in common, and just when an addition
  or a subtraction tells them apart.
* `Machine.minus_one_does_not_carry` — one that does.
-/

namespace Asm16

/-! ## Results that are alike -/

/-- The same error, or two faults of the same cause. -/
inductive Error.Akin : Error → Error → Prop
  | refl (e : Error) : Akin e e
  | fault (cause : Cause) (detail detail' : Option Text) :
    Akin (.fault ⟨cause, detail⟩) (.fault ⟨cause, detail'⟩)

/-- Both end well, or both in errors that are alike, and in related machines in either case. -/
inductive EndsAlike (R : Machine → Machine → Prop) :
    EStateM.Result Error Machine Unit → EStateM.Result Error Machine Unit → Prop
  | ok {m m' : Machine} (related : R m m') : EndsAlike R (.ok () m) (.ok () m')
  | error {e e' : Error} {m m' : Machine} (akin : e.Akin e') (related : R m m') :
    EndsAlike R (.error e m) (.error e' m')

lemma EndsAlike.refl {R : Machine → Machine → Prop} (hR : ∀ m, R m m)
    (r : EStateM.Result Error Machine Unit) : EndsAlike R r r := by
  cases r with
  | ok u m => exact .ok (hR m)
  | error e m => exact .error (.refl e) (hR m)

lemma EndsAlike.mono {R S : Machine → Machine → Prop} (h : ∀ m m', R m m' → S m m')
    {r r' : EStateM.Result Error Machine Unit} (hr : EndsAlike R r r') : EndsAlike S r r' := by
  cases hr with
  | ok related => exact .ok (h _ _ related)
  | error akin related => exact .error akin (h _ _ related)

lemma EndsAlike.of_eq {r r' : EStateM.Result Error Machine Unit} (h : r = r') :
    EndsAlike Eq r r' := h ▸ .refl (fun _ => rfl) r

/-- What is left of a machine when the carry is not looked at. -/
def Machine.withoutCarry (m : Machine) : Machine := { m with flags := m.flags.put .cf false }

/-- A machine is the rest of it and its carry. -/
lemma Machine.eq_of_withoutCarry {m m' : Machine} (h : m.withoutCarry = m'.withoutCarry)
    (hcarry : m.flags.cf = m'.flags.cf) : m = m' := by
  have hback : ∀ m : Machine, { m.withoutCarry with
      flags := m.withoutCarry.flags.put .cf m.flags.cf } = m := fun _ => rfl
  rw [← hback m, ← hback m', h, hcarry]

/-! ## Integers with the same word -/

section Congruent

variable {u v : Int} (h : u % 65536 = v % 65536)
include h

lemma lowByte_congr : lowByte u = lowByte v := by
  rw [lowByte_eq_setWidth, lowByte_eq_setWidth, wordOfInt_congr h]

lemma highByte_congr : highByte u = highByte v := by
  apply BitVec.eq_of_toNat_eq
  have hu := toNat_highByte u
  have hv := toNat_highByte v
  omega

lemma Machine.put_congr (m : Machine) (r : Register) : m.put r u = m.put r v := by
  rw [put, put, wordOfInt_congr h]

lemma Operation.save_congr (a : Int) : save a u = save a v := by
  rw [save, save, Memory.writeWord, Memory.writeWord, lowByte_congr h, highByte_congr h]

/-- All but the carry of an addition or a subtraction depends on the word alone. -/
lemma Machine.combined_congr (m : Machine) (r : Register) (adding : Bool) :
    (m.combined r u adding).withoutCarry = (m.combined r v adding).withoutCarry := by
  have hword := wordOfInt_congr h
  have hresult : ∀ a, (if adding then a + u else a - u) % 65536 =
      (if adding then a + v else a - v) % 65536 := by
    intro a
    split_ifs <;> omega
  have hput := put_congr (hresult (m.valueAt r)) m r
  have hlow := lowByte_congr (hresult (m.valueAt r))
  have hresultWord := wordOfInt_congr (hresult (m.valueAt r))
  simp only [combined, withoutCarry, updateFlags, Flags.afterResult, Flags.put, overflows, signBit,
    hput, hlow, hresultWord, hword]

end Congruent

/-! ## Operations -/

namespace Operation

/-- An operation but for its source. -/
inductive TakesSource : (Text → Operation) → Prop
  | mov (dest : Text) : TakesSource (.mov dest)
  | push : TakesSource .push
  | add (dest : Text) : TakesSource (.add dest)
  | sub (dest : Text) : TakesSource (.sub dest)
  | mul : TakesSource .mul
  | div : TakesSource .div

/-- The operation takes its carry from the integers that it adds or subtracts. -/
def addsOrSubtracts : Operation → Bool
  | .add _ _ | .sub _ _ => true
  | _ => false

section Immediates

variable {su sv : Text} {u v : Int} {m : Machine}

lemma resolve_immediate (hu : Means su (.immediate u)) : resolve su = .ok (.immediate u) :=
  resolve_eq_ok_iff.2 hu

lemma valueOf_immediate (hu : Means su (.immediate u)) (m : Machine) :
    valueOf su m = .ok u m := valueOf_eq_ok_iff.2 ⟨.immediate hu, rfl⟩

variable (hu : Means su (.immediate u)) (hv : Means sv (.immediate v))
  (h : u % 65536 = v % 65536)
include hu hv h

lemma move_immediate (dest : Text) : move dest su = move dest sv := by
  simp only [move, resolve_immediate hu, resolve_immediate hv, Step.ofExcept_ok, pure_bind, value,
    save_congr h, Machine.put_congr h]

lemma pushWord_immediate (m : Machine) : pushWord su m = pushWord sv m := by
  rw [pushWord_of_ok (valueOf_immediate hu m), pushWord_of_ok (valueOf_immediate hv m),
    save_congr h]

lemma multiply_immediate (m : Machine) : multiply su m = multiply sv m := by
  simp only [multiply, Step.bind_apply, valueOf_immediate hu, valueOf_immediate hv, h]

/-- A division by zero quotes its source. -/
lemma divide_immediate (m : Machine) : EndsAlike Eq (divide su m) (divide sv m) := by
  simp only [divide, Step.bind_apply, valueOf_immediate hu, valueOf_immediate hv, h]
  split_ifs
  · exact .error (.fault _ _ _) rfl
  · exact .refl (fun _ => rfl) _

lemma combine_immediate (dest : Text) (adding : Bool) (m : Machine) :
    EndsAlike (fun m₁ m₂ => m₁.withoutCarry = m₂.withoutCarry)
      (combine dest su adding m) (combine dest sv adding m) := by
  cases hdest : resolveRegister dest with
  | error e =>
      simp only [combine, Step.bind_apply, valueOf_immediate hu, valueOf_immediate hv, hdest]
      exact .error (.refl e) rfl
  | ok r =>
      have hr := resolveRegister_eq_ok_iff.1 hdest
      rw [combine_eq_ok_iff.2 ⟨r, u, hr, .immediate hu, rfl⟩,
        combine_eq_ok_iff.2 ⟨r, v, hr, .immediate hv, rfl⟩]
      exact .ok (Machine.combined_congr h m r adding)

/-- Where the carries are alike, all is. -/
lemma combine_immediate_iff {dest : Text} {r : Register} (hdest : Means dest (.register r))
    (adding : Bool) (m : Machine) : combine dest su adding m = combine dest sv adding m ↔
      (m.combined r u adding).flags.cf = (m.combined r v adding).flags.cf := by
  rw [combine_eq_ok_iff.2 ⟨r, u, hdest, .immediate hu, rfl⟩,
    combine_eq_ok_iff.2 ⟨r, v, hdest, .immediate hv, rfl⟩]
  constructor
  · intro hresult
    injection hresult with _ hmachines
    rw [hmachines]
  · intro hcarry
    rw [Machine.eq_of_withoutCarry (Machine.combined_congr h m r adding) hcarry]

/-- All but an addition or a subtraction comes to the same. -/
lemma perform_immediate {operation : Text → Operation} (hsource : TakesSource operation)
    (hsums : (operation su).addsOrSubtracts = false) (m : Machine) :
    EndsAlike Eq ((operation su).perform m) ((operation sv).perform m) := by
  cases hsource with
  | mov dest => exact .of_eq (congrFun (move_immediate hu hv h dest) m)
  | push => exact .of_eq (pushWord_immediate hu hv h m)
  | add dest => cases hsums
  | sub dest => cases hsums
  | mul => exact .of_eq (multiply_immediate hu hv h m)
  | div => exact divide_immediate hu hv h m

/-- Every operation comes to the same, but for the carry. -/
lemma perform_immediate_withoutCarry {operation : Text → Operation}
    (hsource : TakesSource operation) (m : Machine) :
    EndsAlike (fun m₁ m₂ => m₁.withoutCarry = m₂.withoutCarry)
      ((operation su).perform m) ((operation sv).perform m) := by
  cases hsums : (operation su).addsOrSubtracts with
  | false =>
      exact (perform_immediate hu hv h hsource hsums m).mono fun m₁ m₂ hm => by rw [hm]
  | true =>
      cases hsource with
      | add dest => exact combine_immediate hu hv h dest true m
      | sub dest => exact combine_immediate hu hv h dest false m
      | _ => cases hsums

end Immediates
end Operation

/-! ## Instructions -/

namespace Machine

/-- **Immediates with the same word come to the same, but for the carry.**  Whatever takes a source
takes either with the same outcome and leaves the same machine, if the carry is not looked at; what
does not add or subtract leaves the same machine altogether.  An addition does so just if both sums
reach past a word or neither does, and a subtraction just if the register is below both immediates
or below neither. -/
theorem alike_immediates {su sv : Text} {u v : Int} (hu : Means su (.immediate u))
    (hv : Means sv (.immediate v)) (h : u % 65536 = v % 65536) (m : Machine) :
    (∀ operation, Operation.TakesSource operation →
        EndsAlike (fun m₁ m₂ => m₁.withoutCarry = m₂.withoutCarry)
          (execute (operation su).source m) (execute (operation sv).source m) ∧
        ((operation su).addsOrSubtracts = false →
          EndsAlike Eq (execute (operation su).source m) (execute (operation sv).source m))) ∧
      ∀ dest r, Means dest (.register r) →
        (execute (Operation.add dest su).source m = execute (Operation.add dest sv).source m ↔
          (65536 ≤ m.valueAt r + u ↔ 65536 ≤ m.valueAt r + v)) ∧
        (execute (Operation.sub dest su).source m = execute (Operation.sub dest sv).source m ↔
          (m.valueAt r < u ↔ m.valueAt r < v)) := by
  refine ⟨fun operation hsource => ?_, fun dest r hdest => ⟨?_, ?_⟩⟩
  · rw [execute_source, execute_source]
    exact ⟨Operation.perform_immediate_withoutCarry hu hv h hsource m,
      fun hsums => Operation.perform_immediate hu hv h hsource hsums m⟩
  · have hiff := Operation.combine_immediate_iff hu hv h hdest true m
    rw [Bool.eq_iff_iff, carry_add, carry_add] at hiff
    rw [execute_source, execute_source]
    exact hiff
  · have hiff := Operation.combine_immediate_iff hu hv h hdest false m
    rw [Bool.eq_iff_iff, carry_sub, carry_sub] at hiff
    rw [execute_source, execute_source]
    exact hiff

/-- Zero and the size of a word fail alike as divisors, but added or subtracted they carry apart. -/
theorem alike_zero_and_word_size :
    EndsAlike Eq (execute ⟨['d', 'i', 'v'], [['0']]⟩ (initial 16))
        (execute ⟨['d', 'i', 'v'], [['6', '5', '5', '3', '6']]⟩ (initial 16)) ∧
      execute ⟨['a', 'd', 'd'], [['a', 'x'], ['0']]⟩ (initial 16) ≠
        execute ⟨['a', 'd', 'd'], [['a', 'x'], ['6', '5', '5', '3', '6']]⟩ (initial 16) ∧
      execute ⟨['s', 'u', 'b'], [['s', 'p'], ['0']]⟩ (initial 16) ≠
        execute ⟨['s', 'u', 'b'], [['s', 'p'], ['6', '5', '5', '3', '6']]⟩ (initial 16) := by
  have hzero : Means ['0'] (.immediate 0) := .immediate rfl
  have hsize : Means ['6', '5', '5', '3', '6'] (.immediate 65536) := .immediate rfl
  have halike := alike_immediates hzero hsize rfl (initial 16)
  refine ⟨(halike.1 _ .div).2 rfl, fun h => ?_, fun h => ?_⟩
  · have hcarry := (halike.2 ['a', 'x'] .ax (.register rfl)).1.1 h
    revert hcarry
    decide
  · have hborrow := (halike.2 ['s', 'p'] .sp (.register rfl)).2.1 h
    revert hborrow
    decide

/-- `-1` is `0xFFFF` as a word.  Added to one, the word carries and the integer does not. -/
theorem minus_one_does_not_carry :
    Means ['-', '1'] (.immediate (-1)) ∧
      Means ['0', 'x', 'F', 'F', 'F', 'F'] (.immediate 65535) ∧ (-1) % 65536 = (65535 : Int) % 65536 ∧
      ∃ m₁ m₂,
        execute ⟨['a', 'd', 'd'], [['a', 'x'], ['-', '1']]⟩ ((initial 16).put .ax 1) = .ok () m₁ ∧
        execute ⟨['a', 'd', 'd'], [['a', 'x'], ['0', 'x', 'F', 'F', 'F', 'F']]⟩
          ((initial 16).put .ax 1) = .ok () m₂ ∧
        m₁.flags.cf = false ∧ m₂.flags.cf = true := by
  have hshort : Means ['-', '1'] (.immediate (-1)) := .immediate rfl
  have hword : Means ['0', 'x', 'F', 'F', 'F', 'F'] (.immediate 65535) := .immediate rfl
  have hax : Means ['a', 'x'] (.register .ax) := .register rfl
  have hadd : ∀ {src : Text} {n : Int}, Means src (.immediate n) →
      execute (Operation.add ['a', 'x'] src).source ((initial 16).put .ax 1) =
        .ok () (((initial 16).put .ax 1).combined .ax n true) := fun hsrc =>
    execute_source_eq_ok_iff.2 (.add hax (.immediate hsrc))
  refine ⟨hshort, hword, rfl, _, _, hadd hshort, hadd hword, ?_, ?_⟩
  · rw [Bool.eq_false_iff, Ne, carry_add]
    decide
  · rw [carry_add]
    decide

end Machine
end Asm16

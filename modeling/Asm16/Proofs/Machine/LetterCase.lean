import Asm16.Proofs.Machine.Immediate
import Asm16.Proofs.Program.LetterCase

/-!
# Lines in either case

Two lines that differ in the case of letters only are carried out alike, unless there are quotes in
them: they leave the same machine, with the same mnemonic or with faults of the same cause.  The
details of the faults may differ, since these quote the line.

* `AnswersAlike`, `ComesAlike` — computations and steps with related values, or with errors that are
  akin; the steps leave the same machine.  Both go through sequencing.
* `Instruction.Recased`, `Operation.Recased` — instructions and operations whose operands differ in
  case.
* `Operation.Recased.comesAlike_perform` — such operations come to the same, one by one.
* `Machine.executes_in_either_case` — the result for lines.
-/

namespace Asm16

/-! ## Answers that are alike -/

/-- Both answer, with related values, or both end in errors that are akin. -/
inductive AnswersAlike {α β : Type} (R : α → β → Prop) : Except Error α → Except Error β → Prop
  | ok {a : α} {b : β} (related : R a b) : AnswersAlike R (.ok a) (.ok b)
  | error {e e' : Error} (akin : e.Akin e') : AnswersAlike R (.error e) (.error e')

namespace AnswersAlike

variable {α β γ δ : Type} {R : α → β → Prop} {S : γ → δ → Prop} {r : Except Error α}
  {r' : Except Error β}

lemma ofCause (cause : Cause) (detail detail' : Text) :
    AnswersAlike R (.error (.ofCause cause detail)) (.error (.ofCause cause detail')) :=
  .error (.fault _ _ _)

lemma map {f : α → γ} {g : β → δ} (h : AnswersAlike R r r') (hfg : ∀ a b, R a b → S (f a) (g b)) :
    AnswersAlike S (r.map f) (r'.map g) := by
  cases h with
  | ok related => exact .ok (hfg _ _ related)
  | error akin => exact .error akin

lemma refl (r : Except Error α) : AnswersAlike Eq r r := by
  cases r with
  | ok a => exact .ok rfl
  | error e => exact .error (.refl e)

end AnswersAlike

/-- Both end well, with related values, or both in errors that are akin; either way they leave the
same machine. -/
inductive ComesAlike {α β : Type} (R : α → β → Prop) :
    EStateM.Result Error Machine α → EStateM.Result Error Machine β → Prop
  | ok {a : α} {b : β} {m : Machine} (related : R a b) : ComesAlike R (.ok a m) (.ok b m)
  | error {e e' : Error} {m : Machine} (akin : e.Akin e') : ComesAlike R (.error e m) (.error e' m)

namespace ComesAlike

variable {α β γ δ : Type} {R : α → β → Prop} {S : γ → δ → Prop} {m : Machine}

lemma refl (r : EStateM.Result Error Machine α) : ComesAlike Eq r r := by
  cases r with
  | ok a m => exact .ok rfl
  | error e m => exact .error (.refl e)

lemma ofExcept {r : Except Error α} {r' : Except Error β} (h : AnswersAlike R r r') (m : Machine) :
    ComesAlike R ((Step.ofExcept r : Step Machine α) m) ((Step.ofExcept r' : Step Machine β) m) := by
  cases h with
  | ok related => exact .ok related
  | error akin => exact .error akin

/-- **Steps that come alike may be followed by steps that do.** -/
lemma bind {step : Step Machine α} {step' : Step Machine β} {next : α → Step Machine γ}
    {next' : β → Step Machine δ} (h : ComesAlike R (step m) (step' m))
    (hnext : ∀ a b m, R a b → ComesAlike S (next a m) (next' b m)) :
    ComesAlike S ((step >>= next) m) ((step' >>= next') m) := by
  rw [Step.bind_apply, Step.bind_apply]
  generalize step m = r, step' m = r' at h
  cases h with
  | ok related => exact hnext _ _ _ related
  | error akin => exact .error akin

/-- The same value, and then the same step. -/
lemma then_same {step step' : Step Machine α} (h : ComesAlike Eq (step m) (step' m))
    (next : α → Step Machine γ) : ComesAlike Eq ((step >>= next) m) ((step' >>= next) m) :=
  h.bind fun _ _ _ hab => hab ▸ .refl _

end ComesAlike

/-! ## Operands -/

section Tokens

variable {t u : Text}

lemma answersAlike_addressOf (h : Recased t u) :
    AnswersAlike Eq (addressOf t) (addressOf u) := by
  rw [addressOf, addressOf, h.trim.inner.parseLiteral]
  rcases parseLiteral (inner u.trim) with e | _ | a
  · exact .error (.refl e)
  · exact .ofCause _ _ _
  · exact .ok rfl

lemma answersAlike_immediateOf (h : Recased t u) :
    AnswersAlike Eq (immediateOf t) (immediateOf u) := by
  rw [immediateOf, immediateOf, h.trim.parseLiteral]
  rcases parseLiteral u.trim with e | _ | n
  · exact .error (.refl e)
  · exact .ofCause _ _ _
  · exact .ok rfl

lemma answersAlike_resolve (h : Recased t u) : AnswersAlike Eq (resolve t) (resolve u) := by
  rw [resolve, resolve, h.isBracketed, h.registerOf?]
  split_ifs
  · exact (answersAlike_addressOf h).map fun _ _ hab => by rw [hab]
  · cases registerOf? u with
    | some r => exact .ok rfl
    | none => exact (answersAlike_immediateOf h).map fun _ _ hab => by rw [hab]

lemma answersAlike_resolveRegister (h : Recased t u) :
    AnswersAlike Eq (resolveRegister t) (resolveRegister u) := by
  rw [resolveRegister, resolveRegister, h.registerOf?]
  cases registerOf? u with
  | some r => exact .ok rfl
  | none => exact .ofCause _ _ _

lemma comesAlike_valueOf (h : Recased t u) (m : Machine) :
    ComesAlike Eq (Operation.valueOf t m) (Operation.valueOf u m) :=
  (ComesAlike.ofExcept (answersAlike_resolve h) m).then_same _

end Tokens

/-! ## Operations -/

namespace Operation

/-- The operations are of the same kind, and their operands differ in case. -/
inductive Recased : Operation → Operation → Prop
  | mov {dest dest' src src' : Text} (hdest : Asm16.Recased dest dest')
    (hsrc : Asm16.Recased src src') : Recased (.mov dest src) (.mov dest' src')
  | push {src src' : Text} (hsrc : Asm16.Recased src src') : Recased (.push src) (.push src')
  | pop {dest dest' : Text} (hdest : Asm16.Recased dest dest') : Recased (.pop dest) (.pop dest')
  | add {dest dest' src src' : Text} (hdest : Asm16.Recased dest dest')
    (hsrc : Asm16.Recased src src') : Recased (.add dest src) (.add dest' src')
  | sub {dest dest' src src' : Text} (hdest : Asm16.Recased dest dest')
    (hsrc : Asm16.Recased src src') : Recased (.sub dest src) (.sub dest' src')
  | mul {src src' : Text} (hsrc : Asm16.Recased src src') : Recased (.mul src) (.mul src')
  | div {src src' : Text} (hsrc : Asm16.Recased src src') : Recased (.div src) (.div src')

section Handlers

variable {dest dest' src src' : Text} (m : Machine)

lemma comesAlike_move (hdest : Asm16.Recased dest dest') (hsrc : Asm16.Recased src src') :
    ComesAlike Eq (move dest src m) (move dest' src' m) := by
  refine (ComesAlike.ofExcept (answersAlike_resolve hsrc) m).bind fun o _ m ho => ?_
  subst ho
  rw [hdest.isBracketed]
  split_ifs
  · exact (ComesAlike.ofExcept (answersAlike_addressOf hdest) m).then_same _
  · exact (ComesAlike.ofExcept (answersAlike_resolveRegister hdest) m).then_same _

lemma comesAlike_popWord (hdest : Asm16.Recased dest dest') :
    ComesAlike Eq (popWord dest m) (popWord dest' m) :=
  (ComesAlike.ofExcept (answersAlike_resolveRegister hdest) m).then_same _

lemma comesAlike_combine (hdest : Asm16.Recased dest dest') (hsrc : Asm16.Recased src src')
    (adding : Bool) : ComesAlike Eq (combine dest src adding m) (combine dest' src' adding m) := by
  refine (comesAlike_valueOf hsrc m).bind fun n _ m hn => ?_
  subst hn
  exact (ComesAlike.ofExcept (answersAlike_resolveRegister hdest) m).then_same _

/-- A division by zero quotes its operand. -/
lemma comesAlike_divide (hsrc : Asm16.Recased src src') :
    ComesAlike Eq (divide src m) (divide src' m) := by
  refine (comesAlike_valueOf hsrc m).bind fun n _ m hn => ?_
  subst hn
  simp only
  split_ifs
  · exact .error (.fault _ _ _)
  · exact .refl _

end Handlers

/-- **Operations whose operands differ in case come to the same.** -/
lemma Recased.comesAlike_perform {operation operation' : Operation}
    (h : Recased operation operation') (m : Machine) :
    ComesAlike Eq (operation.perform m) (operation'.perform m) := by
  cases h with
  | mov hdest hsrc => exact comesAlike_move m hdest hsrc
  | push hsrc => exact (comesAlike_valueOf hsrc m).then_same _
  | pop hdest => exact comesAlike_popWord m hdest
  | add hdest hsrc => exact comesAlike_combine m hdest hsrc true
  | sub hdest hsrc => exact comesAlike_combine m hdest hsrc false
  | mul hsrc => exact (comesAlike_valueOf hsrc m).then_same _
  | div hsrc => exact comesAlike_divide m hsrc

end Operation

/-! ## Instructions -/

namespace Instruction

/-- The mnemonics are the same, and the operands differ in case. -/
structure Recased (i i' : Instruction) : Prop where
  mnemonic : i.mnemonic = i'.mnemonic
  operands : List.Forall₂ Asm16.Recased i.operands i'.operands

variable {t u : Text}

lemma answersAlike_parse (h : Asm16.Recased t u) :
    AnswersAlike Recased (parse t) (parse u) := by
  have hmnemonic := h.takeWhile_isWord
  have hrest : Asm16.Recased (Text.trimLeft (t.dropWhile isWord))
      (Text.trimLeft (u.dropWhile isWord)) :=
    (h.dropWhile isWord_toLower).dropWhile isBlank_toLower
  have hnewline := hrest.congr (f := fun t => t.contains '\n') fun t => by
    rw [Bool.eq_iff_iff, List.contains_iff_mem, List.contains_iff_mem,
      Text.mem_asciiLower_iff (by decide)]
  simp only [parse, hmnemonic.isEmpty, hnewline]
  split_ifs
  · exact .ofCause _ _ _
  · exact .ok ⟨hmnemonic.lower, hrest.trim.tokens⟩

/-- **Lines that differ in case hold instructions that do**, or neither holds any. -/
lemma answersAlike_decode (h : Asm16.Recased t u) :
    AnswersAlike (Option.Rel Recased) (decode t) (decode u) := by
  have htext := h.stripComment
  simp only [decode, htext.isEmpty, htext.isLabel]
  split_ifs
  · exact .ok .none
  · exact (answersAlike_parse htext).map fun _ _ hi => .some hi

/-- Which operation an instruction stands for depends on the mnemonic and the number of operands. -/
lemma Recased.answersAlike_of {i i' : Instruction} (h : Recased i i') :
    AnswersAlike Operation.Recased (Operation.of i) (Operation.of i') := by
  obtain ⟨mnemonic, operands⟩ := i
  obtain ⟨mnemonic', operands'⟩ := i'
  obtain ⟨hmnemonic, hoperands⟩ := h
  obtain rfl : mnemonic = mnemonic' := hmnemonic
  have hlength : operands.length = operands'.length := hoperands.length_eq
  simp only [Operation.of, hlength]
  cases Mnemonic.ofName? mnemonic with
  | none => exact .ofCause _ _ _
  | some m =>
      simp only
      split_ifs
      · exact .ofCause _ _ _
      · rcases hoperands with _ | ⟨hfirst, _ | ⟨hsecond, _ | ⟨hthird, hrest⟩⟩⟩
        · cases m <;> exact .ofCause _ _ _
        · cases m with
          | push => exact .ok (.push hfirst)
          | pop => exact .ok (.pop hfirst)
          | mul => exact .ok (.mul hfirst)
          | div => exact .ok (.div hfirst)
          | _ => exact .ofCause _ _ _
        · cases m with
          | mov => exact .ok (.mov hfirst hsecond)
          | add => exact .ok (.add hfirst hsecond)
          | sub => exact .ok (.sub hfirst hsecond)
          | _ => exact .ofCause _ _ _
        · cases m <;> exact .ofCause _ _ _

end Instruction

namespace Machine

lemma comesAlike_execute {i i' : Instruction} (h : i.Recased i') (m : Machine) :
    ComesAlike Eq (execute i m) (execute i' m) :=
  (ComesAlike.ofExcept h.answersAlike_of m).bind fun _ _ m ho => ho.comesAlike_perform m

/-- **Lines that differ in the case of letters only are carried out alike.**  The letters may be
anywhere: in mnemonics, registers, literals and comments.  If there are no quotes in the lines, then
on every machine either both end well and leave the same machine, with the same mnemonic or both
without an instruction, or both fail with errors that are akin, and leave the same machine as well. -/
theorem executes_in_either_case {line line' : Text} (hcase : line.asciiLower = line'.asciiLower)
    (hquote : '\'' ∉ line) (m : Machine) :
    ComesAlike (Option.Rel fun i i' => i.mnemonic = i'.mnemonic) (executeLine line m)
      (executeLine line' m) := by
  have hdecode := Instruction.answersAlike_decode (t := line) (u := line') ⟨hcase, hquote⟩
  refine (ComesAlike.ofExcept hdecode m).bind fun i? i'? m hi => ?_
  cases hi with
  | none => exact .ok .none
  | some hi =>
      exact (comesAlike_execute hi m).bind fun _ _ m _ => .ok (.some hi.mnemonic)

/-- A mnemonic, a register, a mark, digits and a comment in another case; and a line that fails. -/
theorem executes_small_and_capital :
    ComesAlike (Option.Rel fun i i' => i.mnemonic = i'.mnemonic)
        (executeLine ['M', 'o', 'v', ' ', 'a', 'X', ',', '0', 'x', 'f', 'F', ';', 'k'] (initial 16))
        (executeLine ['m', 'O', 'V', ' ', 'A', 'x', ',', '0', 'X', 'F', 'f', ';', 'K'] (initial 16)) ∧
      ComesAlike (Option.Rel fun i i' => i.mnemonic = i'.mnemonic)
        (executeLine ['p', 'o', 'p', ' ', '0', 'x', 'g'] (initial 16))
        (executeLine ['P', 'o', 'P', ' ', '0', 'X', 'G'] (initial 16)) :=
  ⟨executes_in_either_case (by decide) (by decide) _, executes_in_either_case (by decide) (by decide) _⟩

end Machine
end Asm16

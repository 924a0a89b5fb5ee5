import Asm16.Proofs.Machine.Effect
import Asm16.Proofs.Machine.Interpretation
import Asm16.Proofs.Program.Layout

/-!
# Character literals in instructions

A character between quotes is a literal whatever the character (`parseLiteral_char`).  Inside a line
that is not so: quotes protect nothing, so a semicolon between them begins a comment, a comma
separates two operands and a newline ends the instruction.

* `characterLine` — the line that moves a character into a register.
* `MovesCharacter` — the line does that and nothing else.
* `moves_all_but_separators` — it does just if the character is none of the three.
-/

namespace Asm16

/-- A character as a literal. -/
def characterLiteral (c : Char) : Text := ['\'', c, '\'']

/-- The line that moves a character into a register. -/
def characterLine (r : Register) (c : Char) : Text :=
  ['m', 'o', 'v', ' '] ++ r.name ++ [',', ' '] ++ characterLiteral c

/-- The characters that mean something to a line, quotes or not. -/
def separators : Text := ['\n', ';', ',']

namespace Machine

/-- The line moves the character into the register and changes nothing else. -/
def MovesCharacter (m : Machine) (r : Register) (c : Char) : Prop :=
  ∃ i? m', executeLine (characterLine r c) m = .ok i? m' ∧
    m'.valueAt r = c.toNat % 65536 ∧ (∀ q, q ≠ r → m'.valueAt q = m.valueAt q) ∧
      m'.flags = m.flags ∧ m'.memory = m.memory

/-! ## Characters that a line leaves alone -/

/-- The move as an instruction. -/
def characterMove (r : Register) (c : Char) : Instruction :=
  ⟨Mnemonic.mov.name, [r.name, characterLiteral c]⟩

lemma print_characterMove (r : Register) (c : Char) :
    (characterMove r c).print = characterLine r c := by
  cases r <;> rfl

lemma trim_characterLiteral (c : Char) : (characterLiteral c).trim = characterLiteral c :=
  Text.trim_eq_self (by simp [characterLiteral]; decide) (by simp [characterLiteral]; decide)

/-- A register and a character can be written side by side. -/
lemma writable_characterMove (r : Register) {c : Char} (hc : c ∉ separators) :
    Writable (characterMove r c).operands := by
  have hname : ∀ d ∈ [',', ';', '\n'], d ∉ r.name := by
    intro d hd
    simp only [List.mem_cons, List.not_mem_nil, or_false] at hd
    rcases hd with rfl | rfl | rfl <;> cases r <;> decide
  have hliteral : ∀ d ∈ [',', ';', '\n'], d ∉ characterLiteral c := by
    intro d hd hmem
    have hquote : d ≠ '\'' := by
      rintro rfl
      exact absurd hd (by decide)
    simp only [characterLiteral, List.mem_cons, hquote, List.not_mem_nil, or_false, false_or] at hmem
    rw [hmem] at hd
    simp only [List.mem_cons, List.not_mem_nil, or_false] at hd
    rcases hd with rfl | rfl | rfl <;> exact hc (by decide)
  have hboth : ∀ d ∈ [',', ';', '\n'], ∀ arg ∈ [r.name, characterLiteral c], d ∉ arg := by
    intro d hd arg harg
    rcases List.mem_pair.1 harg with rfl | rfl
    · exact hname d hd
    · exact hliteral d hd
  refine ⟨fun arg harg => ?_, hboth ',' (by decide), hboth ';' (by decide), hboth '\n' (by decide),
    by simp [characterMove], fun arg harg => ?_⟩
  · rcases List.mem_pair.1 harg with rfl | rfl
    · cases r <;> rfl
    · exact trim_characterLiteral c
  · cases harg
    simp [characterLiteral]

lemma decode_characterLine (r : Register) {c : Char} (hc : c ∉ separators) :
    Instruction.decode (characterLine r c) = .ok (some (characterMove r c)) := by
  have hword : Mnemonic.mov.name.all isWord = true := by decide
  rw [← print_characterMove]
  exact Instruction.decode_print (List.cons_ne_nil _ _) (List.all_eq_true.1 hword) rfl
    (writable_characterMove r hc)

lemma effect_characterMove (m : Machine) (r : Register) (c : Char) :
    Operation.Effect m (.mov r.name (characterLiteral c)) (m.put r c.toNat) := by
  have hdest : Means r.name (.register r) := .register (by cases r <;> rfl)
  have hsrc : Means (characterLiteral c) (.immediate c.toNat) :=
    .immediate (by rw [parseLiteral_trim]; exact parseLiteral_char)
  exact .move hdest (.immediate hsrc)

lemma moves_character (m : Machine) (r : Register) {c : Char} (hc : c ∉ separators) :
    m.MovesCharacter r c := by
  have hexecute : execute (characterMove r c) m = .ok () (m.put r c.toNat) :=
    execute_source_eq_ok_iff.2 (effect_characterMove m r c)
  refine ⟨some (characterMove r c), m.put r c.toNat, ?_, ?_, ?_, rfl, rfl⟩
  · rw [executeLine_apply, decode_characterLine r hc]
    simp only [hexecute]
  · exact valueAt_put_self m r c.toNat
  · exact fun q hq => valueAt_put_of_ne m hq c.toNat

/-! ## Characters that a line is cut at -/

/-- A separator between quotes leaves the machine with a line that it cannot carry out. -/
lemma error_of_separator (m : Machine) (r : Register) {c : Char} (hc : c ∈ separators) :
    ∃ e, executeLine (characterLine r c) m = .error e m := by
  simp only [separators, List.mem_cons, List.not_mem_nil, or_false] at hc
  rw [executeLine_apply]
  rcases hc with rfl | rfl | rfl
  · cases r <;> exact ⟨_, rfl⟩
  · cases r <;> exact ⟨_, rfl⟩
  · cases r <;> exact ⟨_, rfl⟩

/-- **A character between quotes can be moved into a register**, just if it is no separator.  The
line fails otherwise and leaves the machine as it is. -/
theorem moves_all_but_separators :
    (∀ c, parseLiteral (characterLiteral c) = .ok (some (c.toNat : Int))) ∧
      ∀ (m : Machine) (r : Register) (c : Char),
        (m.MovesCharacter r c ↔ c ≠ '\n' ∧ c ≠ ';' ∧ c ≠ ',') ∧
          (m.MovesCharacter r c ∨ ∃ e, executeLine (characterLine r c) m = .error e m) := by
  refine ⟨fun c => parseLiteral_char, fun m r c => ?_⟩
  have hseparators : c ∉ separators ↔ c ≠ '\n' ∧ c ≠ ';' ∧ c ≠ ',' := by
    simp only [separators, List.mem_cons, List.not_mem_nil, or_false, not_or]
  rw [← hseparators]
  by_cases hc : c ∈ separators
  · obtain ⟨e, he⟩ := error_of_separator m r hc
    refine ⟨iff_of_false ?_ (not_not_intro hc), .inr ⟨e, he⟩⟩
    rintro ⟨i?, m', hok, -⟩
    rw [he] at hok
    cases hok
  · exact ⟨iff_of_true (moves_character m r hc) hc, .inl (moves_character m r hc)⟩

/-- The semicolon between quotes begins a comment, and a quote alone is no operand. -/
theorem semicolon_is_not_moved :
    executeLine ['m', 'o', 'v', ' ', 'a', 'x', ',', ' ', '\'', ';', '\''] (initial 16) =
        .error (.ofCause .badOperand ['\'']) (initial 16) ∧
      ¬ (initial 16).MovesCharacter .ax ';' := by
  have hfails : executeLine (characterLine .ax ';') (initial 16) =
      .error (.ofCause .badOperand ['\'']) (initial 16) := by
    rw [executeLine_apply]
    rfl
  refine ⟨hfails, ?_⟩
  rintro ⟨i?, m', hok, -⟩
  rw [hfails] at hok
  cases hok

end Machine
end Asm16

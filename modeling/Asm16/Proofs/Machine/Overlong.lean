import Asm16.Proofs.Machine.Check
import Mathlib.Data.List.TakeWhile
import Mathlib.Tactic.Set

/-!
# Overlong numerals

Which lines are overlong can be told from their text.  It is worked out here for lines that push a
decimal numeral: such a line is overlong just if the numeral has more digits than the limit allows.

* `parseLiteral_digits` — a decimal numeral is read just if it is within the limit.
* `isOverlong_push` — the line that pushes it is overlong otherwise.
-/

namespace Asm16

def decimalDigits : Text := ['0', '1', '2', '3', '4', '5', '6', '7', '8', '9']

/-- What can be seen of each decimal digit holds of all of them. -/
lemma of_decimalDigits {p : Char → Bool} (hp : decimalDigits.all p = true) {c : Char}
    (hc : c ∈ decimalDigits) : p c = true :=
  List.all_eq_true.1 hp c hc

lemma isBlank_digit {c : Char} (hc : c ∈ decimalDigits) : isBlank c = false := by
  simpa using of_decimalDigits (p := fun c => !isBlank c) (by decide) hc

lemma ne_of_digit {c d : Char} (hc : c ∈ decimalDigits) (hd : decimalDigits.contains d = false) :
    c ≠ d := by
  rintro rfl
  simp [hc] at hd

section Numerals

variable {digits : Text} (h : ∀ c ∈ digits, c ∈ decimalDigits) (hne : digits ≠ [])
include h

lemma trim_digits : Text.trim digits = digits :=
   Text.trim_eq_self (fun c hc => isBlank_digit (h c (List.mem_of_mem_head? hc)))
    fun c hc => isBlank_digit (h c (List.mem_of_getLast? hc))

lemma splitBase_digits : splitBase digits = (10, digits) := by
  rw [splitBase]
  · rintro rest rfl
    exact absurd (h 'x' (by simp)) (by decide)
  · rintro rest rfl
    exact absurd (h 'b' (by simp)) (by decide)
  · rintro rest rfl
    exact absurd (h 'o' (by simp)) (by decide)

lemma asciiLower_digits : Text.asciiLower digits = digits := by
  have hlower : ∀ c ∈ digits, c.toLower = c := fun c hc => by
    simpa using of_decimalDigits (p := fun c => c.toLower == c) (by decide) (h c hc)
  exact (List.map_congr_left hlower).trans (List.map_id' digits)

lemma splitSign_digits : splitSign digits = (false, digits) := by
  rw [splitSign]
  · rintro rest rfl
    exact absurd (h '-' (by simp)) (by decide)
  · rintro rest rfl
    exact absurd (h '+' (by simp)) (by decide)

include hne

lemma digitsIn?_digits : ∃ ds, digitsIn? 10 digits = some ds ∧ ds.length = digits.length := by
  have hall : ∀ t : Text, (∀ c ∈ t, c ∈ decimalDigits) →
      ∃ ds, t.mapM (digitIn? 10) = some ds ∧ ds.length = t.length := by
    intro t
    induction t with
    | nil => exact fun _ => ⟨[], rfl, rfl⟩
    | cons c t ih =>
        intro ht
        obtain ⟨d, hd⟩ := Option.isSome_iff_exists.1
          (of_decimalDigits (p := fun c => (digitIn? 10 c).isSome) (by decide) (ht c (by simp)))
        obtain ⟨ds, hds, hlength⟩ := ih fun c' hc' => ht c' (by simp [hc'])
        exact ⟨d :: ds, by rw [List.mapM_cons, hd, hds]; rfl, by simp [hlength]⟩
  rw [digitsIn?, if_neg (by simpa using hne)]
  exact hall digits h

/-- **A decimal numeral is read just if it is within the limit.** -/
theorem parseLiteral_digits :
    parseLiteral digits = .error .longNumeral ↔ decimalLimit < digits.length := by
  obtain ⟨ds, hds, hlength⟩ := digitsIn?_digits h hne
  have hsigned : parseLiteral digits = parseSigned digits := by
    rw [parseLiteral, trim_digits h]
    split
    · exact absurd (h '\'' (by simp)) (by decide)
    · rfl
  have hmagnitude : parseMagnitude digits =
      if decimalLimit < digits.length then .error .longNumeral else .ok (some (ofDigits 10 ds)) := by
    simp only [parseMagnitude, splitBase_digits h, hds, hlength, decide_true, Bool.true_and,
      decide_eq_true_eq]
  rw [hsigned, parseSigned, splitSign_digits h]
  simp only [asciiLower_digits h, hmagnitude]
  by_cases hlimit : decimalLimit < digits.length
  · simp only [hlimit, if_true, iff_true]
    rfl
  · simp only [hlimit, if_false, iff_false]
    intro hok
    cases hok

/-- A line that pushes a decimal numeral is read as that. -/
lemma decode_push :
    Instruction.decode (['p', 'u', 's', 'h', ' '] ++ digits) =
      .ok (some ⟨['p', 'u', 's', 'h'], [digits]⟩) := by
  set line := ['p', 'u', 's', 'h', ' '] ++ digits with hline
  obtain ⟨first, rest, hcons⟩ := List.exists_cons_of_ne_nil hne
  have hlast : ∀ c, line.getLast? = some c → c ∈ decimalDigits := by
    intro c hc
    rw [hline, List.getLast?_append, List.getLast?_eq_some_getLast hne, Option.some_or] at hc
    cases hc
    exact h _ (List.getLast_mem hne)
  have hsemicolon : ∀ c ∈ line, decide (c ≠ ';') = true := by
    intro c hc
    rw [decide_eq_true_iff]
    rcases List.mem_append.1 hc with hc | hc
    · rintro rfl
      exact absurd hc (by decide)
    · exact ne_of_digit (h c hc) (by decide)
  have hstrip : stripComment line = line := by
    have hbefore : Text.before ';' line = line := List.takeWhile_eq_self_iff.2 hsemicolon
    rw [stripComment, hbefore]
    exact Text.trim_eq_self (fun c hc => by cases hc; decide) fun c hc => isBlank_digit (hlast c hc)
  have hlabel : isLabel line = false := by
    rw [isLabel, Text.endsWith]
    cases hl : line.getLast? with
    | none => rfl
    | some c => simpa using ne_of_digit (hlast c hl) (d := ':') (by decide)
  have hempty : line.isEmpty = false := rfl
  have hrest : Text.trimLeft (line.dropWhile isWord) = digits := by
    have hdrop : line.dropWhile isWord = [' '] ++ digits := by
      have hword : isWord 'p' = true ∧ isWord 'u' = true ∧ isWord 's' = true ∧ isWord 'h' = true ∧
          isWord ' ' = false := by decide
      simp [hline, hword]
    have hblank : ∀ c ∈ [' '], isBlank c = true := fun c hc => by
      rw [List.mem_singleton.1 hc]
      rfl
    rw [hdrop, Text.trimLeft_append hblank]
    exact Text.trimLeft_eq_self fun c hc => isBlank_digit (h c (List.mem_of_mem_head? hc))
  have hmnemonic : line.takeWhile isWord = ['p', 'u', 's', 'h'] := by
    have hword : isWord 'p' = true ∧ isWord 'u' = true ∧ isWord 's' = true ∧ isWord 'h' = true ∧
        isWord ' ' = false := by decide
    simp [hline, hword]
  have hbreak : digits.contains '\n' = false := by
    rw [List.contains_eq_mem, decide_eq_false_iff_not]
    exact fun hn => absurd (h _ hn) (by decide)
  have htokens : Instruction.tokens digits = [digits] := by
    have hcut : digits.cut ',' = [digits] :=
      Text.cut_of_not_mem ',' fun hn => absurd (h _ hn) (by decide)
    rw [Instruction.tokens, if_neg (by simpa using hne), hcut, List.map_singleton, trim_digits h]
  have hparse : Instruction.parse line = .ok ⟨['p', 'u', 's', 'h'], [digits]⟩ := by
    simp only [Instruction.parse, hmnemonic, hrest, hbreak, trim_digits h, htokens]
    rfl
  rw [Instruction.decode, hstrip]
  simp only [hempty, hlabel, hparse, Bool.or_self, Bool.false_eq_true, if_false]
  rfl

/-- **A line that pushes a decimal numeral** is overlong just if the numeral is beyond the limit. -/
theorem isOverlong_push :
    IsOverlong (['p', 'u', 's', 'h', ' '] ++ digits) ↔ decimalLimit < digits.length := by
  have hbracket : isBracketed digits = false := by
    have hopen : Text.startsWith '[' digits = false := by
      rw [Text.startsWith]
      cases hd : digits.head? with
      | none => rfl
      | some c => simpa using ne_of_digit (h c (List.mem_of_mem_head? hd)) (d := '[') (by decide)
    rw [isBracketed, trim_digits h]
    simp only [hopen, Bool.false_and]
  have hregister : registerOf? digits = none := by
    have hletter : ∀ r : Register, r.name.any (fun c => !decimalDigits.contains c) = true := by
      intro r
      cases r <;> decide
    rw [registerOf?, trim_digits h, asciiLower_digits h]
    cases hr : Register.ofName? digits with
    | none => rfl
    | some r =>
        obtain ⟨c, hc, hnot⟩ := List.any_eq_true.1 (hletter r)
        rw [Register.ofName?_eq_some_iff.1 hr] at h
        simp [h c hc] at hnot
  have hcheck : checkLine (['p', 'u', 's', 'h', ' '] ++ digits) = checkToken digits := by
    rw [checkLine, decode_push h hne]
    rfl
  rw [IsOverlong, hcheck, ← parseLiteral_digits h hne, checkToken, resolve, hbracket, hregister,
    immediateOf, trim_digits h]
  cases parseLiteral digits with
  | error e =>
      constructor
      · intro he
        cases he
        rfl
      · intro he
        cases he
        rfl
  | ok n? =>
      constructor
      · intro he
        cases n? <;> cases he
      · intro he
        cases he

end Numerals
end Asm16

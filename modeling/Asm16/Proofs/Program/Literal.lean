import Asm16.Numeral.Literal
import Asm16.Text.Lower
import Mathlib.Tactic.Lemma
import Mathlib.Tactic.SplitIfs

/-!
# The grammar of literals

A literal is read by cutting a sign and a mark off its front.  What may be written, and what it
stands for, is said here without cutting anything:

* `IsDigit`, `Spells` — a character stands for a digit, a text of them for a number by position.
* `Sign`, `Radix` — what may stand in front of the digits.
* `IsNumeral`, `IsLiteral` — the two forms of a literal, each with its value.

The two descriptions agree (`parseLiteral_iff_isLiteral`): a text is read as a number just if the
grammar gives it that number.  Numerals are written in ASCII only, so folding letters of every
script before the digits are read makes no difference (`parseMagnitude_lower`).
-/

namespace Asm16

/-! ## Digits -/

/-- The signs of the digits in order. -/
def digitSigns : Text :=
  ['0', '1', '2', '3', '4', '5', '6', '7', '8', '9', 'a', 'b', 'c', 'd', 'e', 'f']

/-- A character stands for a digit of the base, as a small letter or a capital. -/
def IsDigit (base : Nat) (c : Char) (d : Nat) : Prop := d < base ∧ digitSigns[d]? = some c.toLower

/-- Digits stand for a number, each with the weight of its position. -/
inductive Spells (base : Nat) : Text → Nat → Prop
  | digit {c : Char} {d : Nat} (h : IsDigit base c d) : Spells base [c] d
  | cons {c : Char} {d : Nat} {t : Text} {n : Nat} (first : IsDigit base c d)
    (rest : Spells base t n) : Spells base (c :: t) (d * Nat.pow base t.length + n)

/-! ## Literals -/

inductive Sign
  | absent | plus | minus
  deriving DecidableEq, Repr

namespace Sign

def written : Sign → Text
  | absent => []
  | plus => ['+']
  | minus => ['-']

def apply : Sign → Nat → Int
  | minus, n => -(n : Int)
  | _, n => n

end Sign

/-- The bases that a numeral can be written in. -/
inductive Radix
  | binary | octal | decimal | hexadecimal
  deriving DecidableEq, Repr

namespace Radix

def base : Radix → Nat
  | binary => 2
  | octal => 8
  | decimal => 10
  | hexadecimal => 16

/-- What stands in front of the digits, in small letters. -/
def mark : Radix → Text
  | binary => ['0', 'b']
  | octal => ['0', 'o']
  | decimal => []
  | hexadecimal => ['0', 'x']

lemma base_le (radix : Radix) : radix.base ≤ 16 := by cases radix <;> decide

lemma one_lt_base (radix : Radix) : 1 < radix.base := by cases radix <;> decide

lemma base_eq_ten_iff {radix : Radix} : radix.base = 10 ↔ radix = decimal := by
  cases radix <;> decide

end Radix

/-- A text without a sign: a mark in letters of either case and digits of the base it names. -/
structure Counts (radix : Radix) (mark digits : Text) (n : Nat) : Prop where
  marked : mark.asciiLower = radix.mark
  spelled : Spells radix.base digits n

/-- A numeral with its sign. -/
inductive IsNumeral : Text → Int → Prop
  | intro (sign : Sign) {radix : Radix} {mark digits : Text} {n : Nat}
    (counts : Counts radix mark digits n) :
    IsNumeral (sign.written ++ (mark ++ digits)) (sign.apply n)

/-- The two forms of a literal. -/
inductive IsLiteral : Text → Int → Prop
  | character (c : Char) : IsLiteral ['\'', c, '\''] c.toNat
  | numeral {t : Text} {n : Int} (h : IsNumeral t n) : IsLiteral t n

/-- If the text is a decimal numeral, it has no more digits than the limit. -/
def WithinLimit (t : Text) : Prop :=
  ∀ (sign : Sign) (digits : Text), t = sign.written ++ digits →
    (∀ c ∈ digits, c.isDigit = true) → digits.length ≤ decimalLimit

/-! ## Characters of a numeral -/

/-- The characters that numerals are written with, in small letters. -/
def numeralSigns : Text := digitSigns ++ ['+', '-', 'o', 'x']

/-- What holds of the ASCII codes holds of the ASCII characters. -/
lemma of_ascii {p : Char → Prop} (h : ∀ n < 0x80, p (Char.ofNat n)) {c : Char}
    (hc : c.toNat < 0x80) : p c := by
  have hcode := h c.toNat hc
  rwa [Char.ofNat_toNat] at hcode

lemma toLower_of_not_ascii {c : Char} (h : ¬ c.toNat < 0x80) : c.toLower = c := by
  refine dif_neg ?_
  rintro ⟨-, hz⟩
  have hle : c.toNat ≤ 'Z'.toNat := UInt32.le_iff_toNat_le.1 hz
  have hZ : 'Z'.toNat = 90 := rfl
  omega

lemma toLower_toLower (c : Char) : c.toLower.toLower = c.toLower := by
  by_cases hc : c.toNat < 0x80
  · exact of_ascii (p := fun c => c.toLower.toLower = c.toLower) (by decide +kernel) hc
  · rw [toLower_of_not_ascii hc, toLower_of_not_ascii hc]

lemma toNat_lt_of_toLower_mem {c : Char} (h : c.toLower ∈ numeralSigns) : c.toNat < 0x80 := by
  have hsigns : numeralSigns.all (fun d => decide (d.toNat < 0x80)) = true := by decide
  by_cases hc : c.toNat < 0x80
  · exact hc
  · rw [toLower_of_not_ascii hc] at h
    simpa using List.all_eq_true.1 hsigns c h

lemma isBlank_of_toLower_mem {c : Char} (h : c.toLower ∈ numeralSigns) : isBlank c = false :=
  of_ascii (p := fun c => c.toLower ∈ numeralSigns → isBlank c = false) (by decide +kernel)
    (toNat_lt_of_toLower_mem h) h

lemma IsDigit.mem {base d : Nat} {c : Char} (h : IsDigit base c d) : c.toLower ∈ digitSigns :=
  List.mem_of_getElem? h.2

namespace Spells

variable {base n : Nat} {t : Text}

lemma ne_nil (h : Spells base t n) : t ≠ [] := by cases h <;> simp

/-- What holds of every digit holds throughout the text. -/
lemma of_digits {p : Char → Prop} (hp : ∀ c d, IsDigit base c d → p c) (h : Spells base t n) :
    ∀ c ∈ t, p c := by
  induction h with
  | digit hc => exact fun c h => List.mem_singleton.1 h ▸ hp _ _ hc
  | cons first rest ih =>
      intro c h
      rcases List.mem_cons.1 h with rfl | h
      · exact hp _ _ first
      · exact ih c h

end Spells

lemma Sign.written_subset (sign : Sign) : sign.written ⊆ numeralSigns := by
  cases sign <;> decide

lemma Sign.asciiLower_written (sign : Sign) : sign.written.asciiLower = sign.written := by
  cases sign <;> decide

lemma Radix.mark_subset (radix : Radix) : radix.mark ⊆ numeralSigns := by
  cases radix <;> decide

/-- A numeral is written in ASCII and without blanks. -/
lemma IsNumeral.toLower_mem {t : Text} {n : Int} (h : IsNumeral t n) :
    ∀ c ∈ t, c.toLower ∈ numeralSigns := by
  cases h with
  | @intro sign radix mark digits n counts =>
      intro c hc
      simp only [List.mem_append] at hc
      rcases hc with hc | hc | hc
      · exact sign.written_subset (sign.asciiLower_written ▸ List.mem_map_of_mem hc)
      · exact radix.mark_subset (counts.marked ▸ List.mem_map_of_mem hc)
      · exact List.mem_append_left _ (counts.spelled.of_digits (fun _ _ h => h.mem) c hc)

/-! ## Reading digits -/

lemma digitValue?_of_not_ascii {c : Char} (h : ¬ c.toNat < 0x80) : digitValue? c = none := by
  have hbeyond : ∀ d : Char, d.toNat < 0x80 → ¬ c.val ≤ d.val := by
    intro d hd hle
    exact h (Nat.lt_of_le_of_lt (UInt32.le_iff_toNat_le.1 hle) hd)
  have hdigit : c.isDigit = false := by
    rw [Char.isDigit, decide_eq_false (hbeyond '9' (by decide)), Bool.and_false]
  have hlower : c.isLower = false :=
    Bool.and_eq_false_imp.2 fun _ => decide_eq_false (hbeyond 'z' (by decide))
  have hupper : c.isUpper = false := decide_eq_false fun hc => hbeyond 'Z' (by decide) hc.2
  simp [digitValue?, hdigit, hlower, hupper]

/-- The characters of a base up to sixteen are those of the table. -/
lemma digitIn?_eq_some_iff {base : Nat} (hbase : base ≤ 16) {c : Char} {d : Nat} :
    digitIn? base c = some d ↔ IsDigit base c d := by
  have htable : d < base → (digitValue? c = some d ↔ digitSigns[d]? = some c.toLower) := by
    intro hd
    by_cases hc : c.toNat < 0x80
    · exact of_ascii (p := fun c => ∀ d < 16,
        (digitValue? c = some d ↔ digitSigns[d]? = some c.toLower)) (by decide +kernel) hc d
        (by omega)
    · rw [digitValue?_of_not_ascii hc]
      refine iff_of_false (by simp) fun hsign => hc ?_
      exact toNat_lt_of_toLower_mem (List.mem_append_left _ (List.mem_of_getElem? hsign))
  rw [digitIn?, Option.filter_eq_some_iff, IsDigit, decide_eq_true_iff]
  constructor
  · rintro ⟨hvalue, hd⟩
    exact ⟨hd, (htable hd).1 hvalue⟩
  · rintro ⟨hd, hsign⟩
    exact ⟨(htable hd).2 hsign, hd⟩

lemma digitsIn?_singleton (base : Nat) (c : Char) :
    digitsIn? base [c] = (digitIn? base c).map fun d => [d] := by
  cases h : digitIn? base c <;> simp [digitsIn?, h]

lemma digitsIn?_cons (base : Nat) (c : Char) {t : Text} (ht : t ≠ []) :
    digitsIn? base (c :: t) =
      (digitIn? base c).bind fun d => (digitsIn? base t).map fun ds => d :: ds := by
  have hempty : t.isEmpty = false := by simpa using ht
  simp only [digitsIn?, List.isEmpty_cons, hempty, List.mapM_cons]
  cases digitIn? base c with
  | none => rfl
  | some d => cases t.mapM (digitIn? base) <;> rfl

lemma ofDigits_cons (base d : Nat) (ds : List Nat) :
    ofDigits base (d :: ds) = d * Nat.pow base ds.length + ofDigits base ds := by
  have happend := ofDigits_append base [d] ds
  simpa [ofDigits] using happend

lemma length_digitsIn? {base : Nat} : ∀ {t : Text} {ds : List Nat},
    digitsIn? base t = some ds → ds.length = t.length
  | [], ds, h => by cases h
  | [c], ds, h => by
      rw [digitsIn?_singleton] at h
      obtain ⟨d, -, rfl⟩ := Option.map_eq_some_iff.1 h
      rfl
  | c :: c' :: t, ds, h => by
      rw [digitsIn?_cons base c (by simp)] at h
      obtain ⟨d, -, h⟩ := Option.bind_eq_some_iff.1 h
      obtain ⟨ds', hds', rfl⟩ := Option.map_eq_some_iff.1 h
      rw [List.length_cons, length_digitsIn? hds']
      rfl

/-- **Digits are read by position.** -/
lemma spells_iff {base : Nat} (hbase : base ≤ 16) {t : Text} {n : Nat} :
    Spells base t n ↔ ∃ ds, digitsIn? base t = some ds ∧ ofDigits base ds = n := by
  constructor
  · intro h
    induction h with
    | @digit c d hc =>
        refine ⟨[d], ?_, by simp [ofDigits]⟩
        rw [digitsIn?_singleton, (digitIn?_eq_some_iff hbase).2 hc, Option.map_some]
    | @cons c d t n first rest ih =>
        obtain ⟨ds, hds, rfl⟩ := ih
        refine ⟨d :: ds, ?_, ?_⟩
        · rw [digitsIn?_cons base c rest.ne_nil, (digitIn?_eq_some_iff hbase).2 first, hds]
          rfl
        · rw [ofDigits_cons, length_digitsIn? hds]
  · rintro ⟨ds, hds, rfl⟩
    induction t generalizing ds with
    | nil => cases hds
    | cons c t ih =>
        by_cases ht : t = []
        · rw [ht, digitsIn?_singleton] at hds
          obtain ⟨d, hd, rfl⟩ := Option.map_eq_some_iff.1 hds
          rw [ht]
          simpa [ofDigits] using Spells.digit ((digitIn?_eq_some_iff hbase).1 hd)
        · rw [digitsIn?_cons base c ht] at hds
          obtain ⟨d, hd, hds⟩ := Option.bind_eq_some_iff.1 hds
          obtain ⟨ds, hrest, rfl⟩ := Option.map_eq_some_iff.1 hds
          rw [ofDigits_cons, length_digitsIn? hrest]
          exact .cons ((digitIn?_eq_some_iff hbase).1 hd) (ih ds hrest)

lemma digitIn?_toLower {base : Nat} (hbase : base ≤ 16) (c : Char) :
    digitIn? base c.toLower = digitIn? base c := by
  ext d
  rw [digitIn?_eq_some_iff hbase, digitIn?_eq_some_iff hbase, IsDigit, IsDigit, toLower_toLower]

lemma digitsIn?_asciiLower {base : Nat} (hbase : base ≤ 16) (t : Text) :
    digitsIn? base t.asciiLower = digitsIn? base t := by
  have hfold : (digitIn? base ∘ Char.toLower) = digitIn? base := funext (digitIn?_toLower hbase)
  rw [digitsIn?, digitsIn?, Text.asciiLower, List.mapM_map, hfold, List.isEmpty_map]

lemma Text.asciiLower_append (t u : Text) : asciiLower (t ++ u) = asciiLower t ++ asciiLower u :=
  List.map_append

/-! ## Reading the mark -/

/-- What is read of a decimal numeral is not taken for a mark. -/
lemma splitBase_of_digits {t : Text} (h : ∀ c ∈ t, c ≠ 'x' ∧ c ≠ 'b' ∧ c ≠ 'o') :
    splitBase t = (10, t) := by
  rw [splitBase]
  · rintro rest rfl
    exact (h 'x' (by simp)).1 rfl
  · rintro rest rfl
    exact (h 'b' (by simp)).2.1 rfl
  · rintro rest rfl
    exact (h 'o' (by simp)).2.2 rfl

lemma not_mark_of_decimal {c : Char} {d : Nat} (h : IsDigit 10 c d) :
    c.toLower ≠ 'x' ∧ c.toLower ≠ 'b' ∧ c.toLower ≠ 'o' := by
  have hsigns : ∀ d < 10, digitSigns[d]? ≠ some 'x' ∧ digitSigns[d]? ≠ some 'b' ∧
      digitSigns[d]? ≠ some 'o' := by decide
  simpa [h.2] using hsigns d h.1

lemma splitBase_of_counts {radix : Radix} {mark digits : Text} {n : Nat}
    (h : Counts radix mark digits n) :
    splitBase (mark ++ digits).asciiLower = (radix.base, digits.asciiLower) := by
  rw [Text.asciiLower_append, h.marked]
  cases radix with
  | binary => rfl
  | octal => rfl
  | hexadecimal => rfl
  | decimal =>
      refine splitBase_of_digits fun c hc => ?_
      obtain ⟨d, hd, rfl⟩ := List.mem_map.1 hc
      exact h.spelled.of_digits (fun _ _ => not_mark_of_decimal) d hd

/-- The mark that is cut off names the base of what is left. -/
lemma exists_radix (t : Text) :
    ∃ radix digits, t = Radix.mark radix ++ digits ∧ splitBase t = (radix.base, digits) := by
  rw [splitBase.eq_def]
  split
  next digits => exact ⟨.hexadecimal, digits, rfl, rfl⟩
  next digits => exact ⟨.binary, digits, rfl, rfl⟩
  next digits => exact ⟨.octal, digits, rfl, rfl⟩
  next => exact ⟨.decimal, t, rfl, rfl⟩

lemma parseMagnitude_of_counts {radix : Radix} {mark digits : Text} {n : Nat}
    (h : Counts radix mark digits n) :
    parseMagnitude (mark ++ digits).asciiLower =
      if radix = .decimal ∧ decimalLimit < digits.length then .error .longNumeral
      else .ok (some n) := by
  obtain ⟨ds, hds, rfl⟩ := (spells_iff radix.base_le).1 h.spelled
  rw [parseMagnitude, splitBase_of_counts h]
  simp only [digitsIn?_asciiLower radix.base_le, hds, Bool.and_eq_true, decide_eq_true_eq,
    Radix.base_eq_ten_iff, length_digitsIn? hds]

/-- Nothing else is read. -/
lemma exists_counts {t : Text} (h : parseMagnitude t.asciiLower ≠ .ok none) :
    ∃ radix mark digits n, t = mark ++ digits ∧ Counts radix mark digits n := by
  obtain ⟨radix, lowered, hwhole, hsplit⟩ := exists_radix t.asciiLower
  obtain ⟨mark, digits, rfl, hmark, rfl⟩ := List.map_eq_append_iff.1 hwhole
  have hread : digitsIn? radix.base digits ≠ none := by
    intro hnone
    rw [← digitsIn?_asciiLower radix.base_le, Text.asciiLower] at hnone
    exact h (by simp only [parseMagnitude, hsplit, hnone])
  obtain ⟨ds, hds⟩ := Option.ne_none_iff_exists'.1 hread
  exact ⟨radix, mark, digits, _, rfl, hmark, (spells_iff radix.base_le).2 ⟨ds, hds, rfl⟩⟩

/-! ## Reading the sign -/

lemma apply_eq (sign : Sign) (n : Nat) :
    (if decide (sign = .minus) = true then -(n : Int) else n) = sign.apply n := by
  cases sign <;> rfl

lemma Counts.no_sign {radix : Radix} {mark digits : Text} {n : Nat}
    (h : Counts radix mark digits n) : ∀ c ∈ mark ++ digits, c ≠ '+' ∧ c ≠ '-' := by
  have hfolded : ∀ c ∈ mark ++ digits, c.toLower ∈ digitSigns ++ ['o', 'x'] := by
    intro c hc
    rcases List.mem_append.1 hc with hc | hc
    · have hmark : radix.mark ⊆ digitSigns ++ ['o', 'x'] := by cases radix <;> decide
      exact hmark (h.marked ▸ List.mem_map_of_mem hc)
    · exact List.mem_append_left _ (h.spelled.of_digits (fun _ _ h => h.mem) c hc)
  intro c hc
  constructor
  · rintro rfl
    exact absurd (hfolded '+' hc) (by decide)
  · rintro rfl
    exact absurd (hfolded '-' hc) (by decide)

lemma splitSign_written (sign : Sign) {t : Text} (h : ∀ c ∈ t, c ≠ '+' ∧ c ≠ '-') :
    splitSign (sign.written ++ t) = (decide (sign = .minus), t) := by
  cases sign with
  | plus => rfl
  | minus => rfl
  | absent =>
      rw [Sign.written, List.nil_append, splitSign]
      · rfl
      · rintro rest rfl
        exact (h '-' (by simp)).2 rfl
      · rintro rest rfl
        exact (h '+' (by simp)).1 rfl

/-- The sign that is cut off is the one that is written. -/
lemma exists_sign (t : Text) :
    ∃ sign rest, t = Sign.written sign ++ rest ∧ splitSign t = (decide (sign = .minus), rest) := by
  rw [splitSign.eq_def]
  split
  next rest => exact ⟨.minus, rest, rfl, rfl⟩
  next rest => exact ⟨.plus, rest, rfl, rfl⟩
  next => exact ⟨.absent, t, rfl, rfl⟩

lemma parseSigned_of_counts (sign : Sign) {radix : Radix} {mark digits : Text} {n : Nat}
    (h : Counts radix mark digits n) :
    parseSigned (sign.written ++ (mark ++ digits)) =
      if radix = .decimal ∧ decimalLimit < digits.length then .error .longNumeral
      else .ok (some (sign.apply n)) := by
  simp only [parseSigned, splitSign_written sign h.no_sign, parseMagnitude_of_counts h]
  by_cases hlong : radix = .decimal ∧ decimalLimit < digits.length
  · rw [if_pos hlong, if_pos hlong]
    rfl
  · rw [if_neg hlong, if_neg hlong]
    exact congrArg (fun value => Except.ok (some value)) (apply_eq sign n)

/-- Nothing else is read. -/
lemma exists_counts_of_parseSigned {t : Text} (h : parseSigned t ≠ .ok none) :
    ∃ sign radix mark digits n,
      t = Sign.written sign ++ (mark ++ digits) ∧ Counts radix mark digits n := by
  obtain ⟨sign, rest, rfl, hsplit⟩ := exists_sign t
  have hread : parseMagnitude rest.asciiLower ≠ .ok none := by
    intro hnone
    refine h ?_
    simp only [parseSigned, hsplit, hnone]
    rfl
  obtain ⟨radix, mark, digits, n, rfl, hcounts⟩ := exists_counts hread
  exact ⟨sign, radix, mark, digits, n, rfl, hcounts⟩

/-! ## The grammar -/

lemma Counts.mark_eq_nil {mark digits : Text} {n : Nat} (h : Counts .decimal mark digits n) :
    mark = [] := List.map_eq_nil_iff.1 h.marked

lemma isDigit_of_decimal {c : Char} {d : Nat} (h : IsDigit 10 c d) : c.isDigit = true :=
  of_ascii (p := fun c => ∀ d < 10, digitSigns[d]? = some c.toLower → c.isDigit = true)
    (by decide +kernel) (toNat_lt_of_toLower_mem (List.mem_append_left _ h.mem)) d h.1 h.2

lemma WithinLimit.length_le {sign : Sign} {radix : Radix} {mark digits : Text} {n : Nat}
    (h : WithinLimit (sign.written ++ (mark ++ digits))) (hcounts : Counts radix mark digits n) :
    ¬ (radix = .decimal ∧ decimalLimit < digits.length) := by
  rintro ⟨rfl, hlong⟩
  have hmark := hcounts.mark_eq_nil
  subst hmark
  have hshort := h sign digits rfl
    (hcounts.spelled.of_digits fun _ _ => isDigit_of_decimal)
  omega

/-- **A numeral is read as the number it stands for**, and nothing else is read as one. -/
lemma parseSigned_eq_ok_some_iff {t : Text} (hlimit : WithinLimit t) {n : Int} :
    parseSigned t = .ok (some n) ↔ IsNumeral t n := by
  constructor
  · intro h
    obtain ⟨sign, radix, mark, digits, m, rfl, hcounts⟩ :=
      exists_counts_of_parseSigned (t := t) (by rw [h]; simp)
    rw [parseSigned_of_counts sign hcounts, if_neg (hlimit.length_le hcounts)] at h
    cases h
    exact ⟨sign, hcounts⟩
  · rintro ⟨sign, hcounts⟩
    rw [parseSigned_of_counts sign hcounts, if_neg (hlimit.length_le hcounts)]

lemma parseSigned_eq_ok_none_iff {t : Text} (hlimit : WithinLimit t) :
    parseSigned t = .ok none ↔ ∀ n, ¬ IsNumeral t n := by
  constructor
  · intro h n hn
    rw [(parseSigned_eq_ok_some_iff hlimit).2 hn] at h
    cases h
  · intro h
    by_cases hnone : parseSigned t = .ok none
    · exact hnone
    · obtain ⟨sign, radix, mark, digits, m, rfl, hcounts⟩ := exists_counts_of_parseSigned hnone
      exact absurd ⟨sign, hcounts⟩ (h (sign.apply m))

/-- No numeral begins with a quote. -/
lemma not_isNumeral_quote {rest : Text} {n : Int} : ¬ IsNumeral ('\'' :: rest) n :=
  fun h => absurd (h.toLower_mem '\'' (by simp)) (by decide)

/-- What a text between quotes is not, it is not as a literal either. -/
lemma parseLiteral_eq {t : Text} (h : ∀ c, t.trim ≠ ['\'', c, '\'']) :
    parseLiteral t = parseSigned t.trim := by
  rw [parseLiteral]
  split
  next c hc => exact absurd hc (h c)
  next => rfl

/-- A character between quotes is read as a literal, and so is a numeral. -/
lemma parseLiteral_eq_ok_some_iff {t : Text} (hlimit : WithinLimit t.trim) {n : Int} :
    parseLiteral t = .ok (some n) ↔ IsLiteral t.trim n := by
  by_cases hquoted : ∃ c, t.trim = ['\'', c, '\'']
  · obtain ⟨c, hc⟩ := hquoted
    rw [← parseLiteral_trim, hc, parseLiteral_char]
    constructor
    · intro h
      cases h
      exact .character c
    · intro h
      cases h with
      | character => rfl
      | numeral h => exact absurd h not_isNumeral_quote
  · rw [not_exists] at hquoted
    rw [parseLiteral_eq hquoted, parseSigned_eq_ok_some_iff hlimit]
    refine ⟨.numeral, fun h => ?_⟩
    generalize ht : t.trim = trimmed at h
    cases h with
    | character c => exact absurd ht (hquoted c)
    | numeral h => exact h

lemma parseLiteral_eq_ok_none_iff {t : Text} (hlimit : WithinLimit t.trim) :
    parseLiteral t = .ok none ↔ ∀ n, ¬ IsLiteral t.trim n := by
  constructor
  · intro h n hn
    rw [(parseLiteral_eq_ok_some_iff hlimit).2 hn] at h
    cases h
  · intro h
    have hquoted : ∀ c, t.trim ≠ ['\'', c, '\''] := fun c hc =>
      h c.toNat (hc ▸ IsLiteral.character c)
    rw [parseLiteral_eq hquoted]
    exact (parseSigned_eq_ok_none_iff hlimit).2 fun n hn => h n (.numeral hn)

/-! ## Numerals that are written -/

lemma IsDigit.digitChar {base d : Nat} (hbase : base ≤ 16) (hd : d < base) :
    IsDigit base (Nat.digitChar d) d := by
  have hsigns : ∀ d < 16, digitSigns[d]? = some (Nat.digitChar d).toLower := by decide
  exact ⟨hd, hsigns d (by omega)⟩

lemma Spells.snoc {base n d : Nat} {t : Text} {c : Char} (h : Spells base t n)
    (hc : IsDigit base c d) : Spells base (t ++ [c]) (n * base + d) := by
  induction h with
  | @digit c' d' first => simpa using Spells.cons first (.digit hc)
  | @cons c' d' t n first rest ih =>
      have hvalue : (d' * Nat.pow base t.length + n) * base + d =
          d' * Nat.pow base (t ++ [c]).length + (n * base + d) := by
        rw [List.length_append, List.length_singleton, Nat.pow_eq, Nat.pow_eq, Nat.pow_succ,
          Nat.add_mul, Nat.mul_assoc, Nat.add_assoc]
      rw [List.cons_append, hvalue]
      exact .cons first ih

/-- The numeral of a number stands for it. -/
lemma spells_numeral {base : Nat} (hlow : 1 < base) (hhigh : base ≤ 16) (n : Nat) :
    Spells base (numeral base n) n := by
  induction n using Nat.strongRecOn with
  | ind n ih =>
      rw [numeral, Nat.toDigits_eq_if hlow]
      split_ifs with hn
      · exact .digit (.digitChar hhigh hn)
      · have hfront := ih (n / base) (Nat.div_lt_self (by omega) hlow)
        have hlast : IsDigit base (Nat.digitChar (n % base)) (n % base) :=
          .digitChar hhigh (Nat.mod_lt n (by omega))
        have hwhole := hfront.snoc hlast
        rwa [Nat.div_add_mod'] at hwhole

/-- Zeros in front do not count. -/
lemma Spells.zeros {base n : Nat} {t : Text} (hbase : 0 < base) (h : Spells base t n) (k : Nat) :
    Spells base (List.replicate k '0' ++ t) n := by
  induction k with
  | zero => exact h
  | succ k ih =>
      have hcons : Spells base ('0' :: (List.replicate k '0' ++ t)) (0 * _ + n) :=
        .cons ⟨hbase, rfl⟩ ih
      rwa [Nat.zero_mul, Nat.zero_add] at hcons

lemma Spells.of_asciiLower {base n : Nat} {t : Text} (hbase : base ≤ 16)
    (h : Spells base t.asciiLower n) : Spells base t n := by
  rwa [spells_iff hbase, digitsIn?_asciiLower hbase, ← spells_iff hbase] at h

/-- A numeral has no blanks around it. -/
lemma IsNumeral.trim_eq {t : Text} {n : Int} (h : IsNumeral t n) : t.trim = t :=
  Text.trim_eq_self
    (fun c hc => isBlank_of_toLower_mem (h.toLower_mem c (List.mem_of_mem_head? hc)))
    fun c hc => isBlank_of_toLower_mem (h.toLower_mem c (List.mem_of_getLast? hc))

/-- A numeral is read, whatever its sign and its mark, unless it is decimal and too long. -/
theorem parseLiteral_of_counts (sign : Sign) {radix : Radix} {mark digits : Text} {n : Nat}
    (h : Counts radix mark digits n) :
    parseLiteral (sign.written ++ (mark ++ digits)) =
      if radix = .decimal ∧ decimalLimit < digits.length then .error .longNumeral
      else .ok (some (sign.apply n)) := by
  have hnumeral : IsNumeral (sign.written ++ (mark ++ digits)) (sign.apply n) := ⟨sign, h⟩
  have hquoted : ∀ c, Text.trim (sign.written ++ (mark ++ digits)) ≠ ['\'', c, '\''] := by
    intro c hc
    rw [hnumeral.trim_eq] at hc
    rw [hc] at hnumeral
    exact not_isNumeral_quote hnumeral
  rw [parseLiteral_eq hquoted, hnumeral.trim_eq, parseSigned_of_counts sign h]

/-! ## Folding letters of every script -/

/-- A character with no part in numerals, folded already. -/
def IsForeign (d : Char) : Prop := ¬ d.toNat < 0x80 ∨ d = 'i' ∨ d = 'k'

lemma IsForeign.toLower_not_mem {d : Char} (h : IsForeign d) : d.toLower ∉ numeralSigns := by
  rcases h with h | rfl | rfl
  · exact fun hmem => h (toNat_lt_of_toLower_mem hmem)
  · decide
  · decide

/-- The folded form of a character beyond ASCII holds one with no part in numerals. -/
lemma exists_isForeign {c : Char} (hc : ¬ c.toNat < 0x80) :
    ∀ {t : Text} (before : Text), c ∈ t → ∃ d ∈ Text.lowerBehind before t, IsForeign d
  | first :: t, before, hmem => by
      rw [Text.lowerBehind]
      rcases List.mem_cons.1 hmem with rfl | hmem
      · split_ifs with hsigma
        · refine ⟨lowerSigma before t, by simp, .inl ?_⟩
          unfold lowerSigma
          split <;> decide
        · have hne : Text.lower [c] ≠ [] := mt Text.lower_eq_nil_iff.1 (by simp)
          rw [Text.lower, Text.lowerBehind, if_neg hsigma, Text.lowerBehind, List.append_nil] at hne
          obtain ⟨d, hd⟩ := List.exists_mem_of_ne_nil _ hne
          refine ⟨d, List.mem_append_left _ hd, ?_⟩
          by_cases hascii : d.toNat < 0x80
          · exact .inr ((ascii_of_mem_lowerChar hd hascii).resolve_left fun h => hc h.1)
          · exact .inl hascii
      · obtain ⟨d, hd, hforeign⟩ := exists_isForeign hc (first :: before) hmem
        exact ⟨d, List.mem_append_right _ hd, hforeign⟩

/-- A text with a foreign character is no numeral. -/
lemma parseMagnitude_of_not_mem {t : Text} {d : Char} (hd : d ∈ t)
    (hforeign : d.toLower ∉ numeralSigns) : parseMagnitude t.asciiLower = .ok none := by
  by_cases hnone : parseMagnitude t.asciiLower = .ok none
  · exact hnone
  · obtain ⟨radix, mark, digits, n, rfl, hcounts⟩ := exists_counts hnone
    exact absurd (IsNumeral.toLower_mem ⟨.absent, hcounts⟩ d hd) hforeign

/-- A folded text is folded. -/
lemma asciiLower_lower (t : Text) : t.lower.asciiLower = t.lower := by
  refine (List.map_congr_left fun d hd => ?_).trans (List.map_id' _)
  by_cases hascii : d.toNat < 0x80
  · rcases Text.ascii_of_mem_lower hd hascii with ⟨c, -, -, rfl⟩ | rfl | rfl
    · exact toLower_toLower c
    · decide
    · decide
  · exact toLower_of_not_ascii hascii

/-- Letters of every script may be folded, or those of ASCII only: what is read is the same. -/
lemma parseMagnitude_lower (t : Text) : parseMagnitude t.lower = parseMagnitude t.asciiLower := by
  by_cases hascii : ∀ c ∈ t, c.toNat < 0x80
  · rw [Text.lower_of_ascii hascii]
  · simp only [Classical.not_forall] at hascii
    obtain ⟨c, hc, hbeyond⟩ := hascii
    obtain ⟨d, hd, hforeign⟩ := exists_isForeign hbeyond [] hc
    have hcsign : c.toLower ∉ numeralSigns := fun h => hbeyond (toNat_lt_of_toLower_mem h)
    rw [parseMagnitude_of_not_mem hc hcsign, ← asciiLower_lower,
      parseMagnitude_of_not_mem (t := t.lower) hd hforeign.toLower_not_mem]

/-- **Literals are read by their grammar.** -/
theorem literals_follow_grammar :
    (∀ t : Text, WithinLimit t.trim →
        (∀ n, parseLiteral t = .ok (some n) ↔ IsLiteral t.trim n) ∧
          (parseLiteral t = .ok none ↔ ∀ n, ¬ IsLiteral t.trim n)) ∧
      (∀ t n, IsNumeral t n → ∀ c ∈ t, c.toNat < 0x80) ∧
      (∀ t : Text, parseMagnitude t.lower = parseMagnitude t.asciiLower) ∧
      ∀ (sign : Sign) (radix : Radix) (zeros : Nat) (mark digits : Text) (n : Int),
        sign.apply n.natAbs = n → mark.asciiLower = radix.mark →
        digits.asciiLower = List.replicate zeros '0' ++ numeral radix.base n.natAbs →
        (radix = .decimal → digits.length ≤ decimalLimit) →
        parseLiteral (sign.written ++ (mark ++ digits)) = .ok (some n) := by
  refine ⟨fun t hlimit => ⟨fun n => parseLiteral_eq_ok_some_iff hlimit,
    parseLiteral_eq_ok_none_iff hlimit⟩, fun t n h c hc => toNat_lt_of_toLower_mem (h.toLower_mem c hc),
    parseMagnitude_lower, ?_⟩
  intro sign radix zeros mark digits n hsign hmark hdigits hlimit
  have hspelled : Spells radix.base digits.asciiLower n.natAbs := by
    rw [hdigits]
    exact (spells_numeral radix.one_lt_base radix.base_le n.natAbs).zeros
      (Nat.lt_of_succ_lt radix.one_lt_base) zeros
  have hread := parseLiteral_of_counts sign ⟨hmark, hspelled.of_asciiLower radix.base_le⟩
  rw [if_neg fun h => absurd (hlimit h.1) (by omega)] at hread
  rwa [hsign] at hread

/-- A capital mark with a sign and blanks, zeros in front, a mark without digits. -/
theorem literals_read :
    parseLiteral [' ', '-', '0', 'X', '1', 'F', '\t'] = .ok (some (-31)) ∧
      parseLiteral ['+', '0', '0', '7'] = .ok (some 7) ∧ ∀ n, ¬ IsLiteral ['0', 'x'] n := by
  have hshort : ∀ t : Text, t.length ≤ decimalLimit → WithinLimit t := by
    rintro t hlength sign digits rfl -
    rw [List.length_append] at hlength
    omega
  obtain ⟨hgrammar, -, -, hwritten⟩ := literals_follow_grammar
  have hspelled : Spells 16 ['1', 'F'] 31 :=
    .cons (n := 15) (d := 1) ⟨by decide, by decide⟩ (.digit ⟨by decide, by decide⟩)
  have hcounts : Counts .hexadecimal ['0', 'X'] ['1', 'F'] 31 := ⟨rfl, hspelled⟩
  have hnumeral : IsNumeral ['-', '0', 'X', '1', 'F'] (-31) := .intro .minus hcounts
  exact ⟨((hgrammar _ (hshort _ (by decide))).1 _).2 (.numeral hnumeral),
    hwritten .plus .decimal 2 [] ['0', '0', '7'] 7 rfl rfl (by decide) (by decide),
    (hgrammar ['0', 'x'] (hshort _ (by decide))).2.1 rfl⟩

end Asm16

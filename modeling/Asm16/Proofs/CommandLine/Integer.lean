import Asm16.Numeral.Setting
import Asm16.Proofs.Program.Literal
import Mathlib.Data.List.TakeWhile

/-!
# The grammar of integers in settings

The reader of settings first writes a text in ASCII and then takes one thing after the other off it.
What may be written is said here of the text as it stands, in any script:

* `IsMargin` — a blank that may stand around the integer.
* `StandsFor` — a character for a digit: of the base in ASCII, decimal in any other script.
* `Apart` — digits in order, with single underscores between some of them.
* `IsMark` — the mark of the base, which may have one underscore behind it.
* `States` — all of it, with the value.

The two agree (`parseSetting?_eq_some_iff`), for the bases from two to sixteen.
-/

namespace Asm16

/-! ## The grammar -/

/-- A blank that may stand around an integer.  The separators U+001C to U+001F are none. -/
def IsMargin (c : Char) : Prop := isPlainBlank c = true ∨ ¬ c.toNat < 0x80 ∧ isBlank c = true

/-- A character stands for a digit of the base, if its script is not ASCII as a decimal digit. -/
def StandsFor (base : Nat) (c : Char) (d : Nat) : Prop :=
  IsDigit base c d ∨ d < base ∧ decimalDigit? c = some d

/-- Characters stand for digits, one for each, with single underscores between some of them. -/
inductive Apart (stands : Char → Nat → Prop) : Text → List Nat → Prop
  | single {c : Char} {d : Nat} (h : stands c d) : Apart stands [c] [d]
  | cons {c : Char} {d : Nat} {t : Text} {ds : List Nat} (first : stands c d)
    (rest : Apart stands t ds) : Apart stands (c :: t) (d :: ds)
  | apart {c : Char} {d : Nat} {t : Text} {ds : List Nat} (first : stands c d)
    (rest : Apart stands t ds) : Apart stands (c :: '_' :: t) (d :: ds)

/-- What may stand in front of the digits: a zero and the letter of the base. -/
inductive IsMark (zero : Char → Prop) (base : Nat) : Text → Prop
  | absent : IsMark zero base []
  | bare {z x : Char} (hz : zero z) (hx : markedBase? x = some base) : IsMark zero base [z, x]
  | apart {z x : Char} (hz : zero z) (hx : markedBase? x = some base) :
    IsMark zero base [z, x, '_']

/-- The text states an integer in the base: a sign, a mark and digits between blanks.  If the base
is no power of two, there is a limit to the digits. -/
inductive States (base : Nat) : Text → Int → Prop
  | intro (sign : Sign) {front mark digits back : Text} {ds : List Nat}
    (hfront : ∀ c ∈ front, IsMargin c) (hback : ∀ c ∈ back, IsMargin c)
    (hmark : IsMark (fun z => StandsFor base z 0) base mark)
    (hdigits : Apart (StandsFor base) digits ds)
    (hlimit : isBinaryBase base = false → ds.length ≤ decimalLimit) :
    States base (front ++ (sign.written ++ (mark ++ digits)) ++ back)
      (sign.apply (ofDigits base ds))

/-! ## Characters of other scripts -/

lemma foldScript_of_ascii {c : Char} (h : c.toNat < 0x80) : foldScript c = c := by
  rw [foldScript, if_pos h]

lemma lt_ten_of_decimalDigit? {c : Char} {d : Nat} (h : decimalDigit? c = some d) : d < 10 := by
  rw [decimalDigit?] at h
  split_ifs at h with hdigit
  · obtain rfl := Option.some.inj h
    have hcode := (Char.isDigit_iff_toNat.1 hdigit).2
    have hzero : '0'.toNat = 48 := rfl
    have hnine : '9'.toNat = 57 := rfl
    omega
  · obtain ⟨r, -, rfl⟩ := Option.map_eq_some_iff.1 h
    exact Nat.mod_lt _ (by decide)

/-- The codes of the blanks. -/
def blankCodes : List Nat :=
  List.range' 9 5 ++ List.range' 0x1C 5 ++ List.range' 0x2000 11 ++
    [0x85, 0xA0, 0x1680, 0x2028, 0x2029, 0x202F, 0x205F, 0x3000]

lemma mem_blankCodes {c : Char} (h : isBlank c = true) : c.toNat ∈ blankCodes := by
  simp only [isBlank, Bool.or_eq_true, Bool.and_eq_true, decide_eq_true_eq, beq_iff_eq] at h
  simp only [blankCodes, List.mem_append, List.mem_range'_1, List.mem_cons, List.not_mem_nil,
    or_false]
  omega

/-- No blank is a digit, in any script. -/
lemma decimalDigit?_of_isBlank {c : Char} (h : isBlank c = true) : decimalDigit? c = none := by
  have hcodes : ∀ n ∈ blankCodes, ¬ (48 ≤ n ∧ n ≤ 57) ∧
      (decimalRanges.find? fun r => r.1 ≤ n && n ≤ r.2) = none := by decide +kernel
  obtain ⟨hascii, hfind⟩ := hcodes _ (mem_blankCodes h)
  have hdigit : ¬ c.isDigit = true := fun hd => hascii (Char.isDigit_iff_toNat.1 hd)
  rw [decimalDigit?, if_neg hdigit]
  exact congrArg (Option.map _) hfind

/-- What a character beyond ASCII is read as. -/
lemma foldScript_cases {c : Char} (h : ¬ c.toNat < 0x80) :
    isBlank c = true ∧ foldScript c = ' ' ∨
      isBlank c = false ∧ decimalDigit? c = none ∧ foldScript c = c ∨
        isBlank c = false ∧
          ∃ d < 10, decimalDigit? c = some d ∧ foldScript c = Nat.digitChar d := by
  rw [foldScript, if_neg h]
  cases hblank : isBlank c with
  | true => exact .inl ⟨rfl, rfl⟩
  | false =>
      cases hdigit : decimalDigit? c with
      | none => exact .inr (.inl ⟨rfl, rfl, rfl⟩)
      | some d => exact .inr (.inr ⟨rfl, d, lt_ten_of_decimalDigit? hdigit, rfl, rfl⟩)

/-- Only itself is read as a character that is neither the blank nor a digit. -/
lemma foldScript_eq_iff {d : Char} (hascii : d.toNat < 0x80) (hblank : d ≠ ' ')
    (hdigit : d.isDigit = false) {c : Char} : foldScript c = d ↔ c = d := by
  by_cases hc : c.toNat < 0x80
  · rw [foldScript_of_ascii hc]
  · refine iff_of_false ?_ (by rintro rfl; exact hc hascii)
    have hchars : ∀ n < 10, (Nat.digitChar n).isDigit = true := by decide
    rcases foldScript_cases hc with ⟨-, h⟩ | ⟨-, -, h⟩ | ⟨-, n, hn, -, h⟩
    · exact fun he => hblank (he ▸ h)
    · rw [h]
      rintro rfl
      exact hc hascii
    · rw [h]
      rintro rfl
      rw [hchars n hn] at hdigit
      cases hdigit

lemma isPlainBlank_foldScript_iff {c : Char} : isPlainBlank (foldScript c) = true ↔ IsMargin c := by
  rw [IsMargin]
  by_cases hc : c.toNat < 0x80
  · simp [foldScript_of_ascii hc, hc]
  · have hplain : ∀ c : Char, ¬ c.toNat < 0x80 → isPlainBlank c = false := by
      intro c hc
      simp only [isPlainBlank, Bool.or_eq_false_iff, Bool.and_eq_false_iff, decide_eq_false_iff_not,
        beq_eq_false_iff_ne]
      omega
    have hchars : ∀ n < 10, isPlainBlank (Nat.digitChar n) = false := by decide
    rw [hplain c hc]
    rcases foldScript_cases hc with ⟨hb, h⟩ | ⟨hb, -, h⟩ | ⟨hb, n, hn, -, h⟩
    · simp [h, hb, hc, show isPlainBlank ' ' = true from rfl]
    · simp [h, hb, hplain c hc]
    · simp [h, hb, hchars n hn]

lemma isDigit_foldScript_iff {base : Nat} (hbase : base ≤ 16) {c : Char} {d : Nat} :
    IsDigit base (foldScript c) d ↔ StandsFor base c d := by
  rw [StandsFor]
  by_cases hc : c.toNat < 0x80
  · rw [foldScript_of_ascii hc]
    refine ⟨.inl, fun h => h.elim id fun ⟨hd, hdecimal⟩ => ⟨hd, ?_⟩⟩
    exact of_ascii (p := fun c => ∀ d < 16, decimalDigit? c = some d →
      digitSigns[d]? = some c.toLower) (by decide +kernel) hc d (by omega) hdecimal
  · have hnone : ∀ c : Char, ¬ c.toNat < 0x80 → ¬ IsDigit base c d := fun c hc h =>
      hc (toNat_lt_of_toLower_mem (List.mem_append_left _ h.mem))
    rw [or_iff_right (hnone c hc)]
    rcases foldScript_cases hc with ⟨hb, h⟩ | ⟨-, hdigit, h⟩ | ⟨-, n, hn, hdigit, h⟩
    · rw [h, decimalDigit?_of_isBlank hb]
      refine iff_of_false (fun hd => ?_) (by simp)
      exact absurd hd.mem (by decide)
    · rw [h, hdigit]
      exact iff_of_false (hnone c hc) (by simp)
    · have hchars : ∀ n < 10, ∀ d < 16,
          digitSigns[d]? = some (Nat.digitChar n).toLower ↔ n = d := by decide
      rw [h, hdigit, IsDigit, Option.some.injEq]
      exact and_congr_right fun hd => hchars n hn d (by omega)

lemma standsFor_eq {base : Nat} (hbase : base ≤ 16) :
    StandsFor base = fun c d => IsDigit base (foldScript c) d :=
  funext fun _ => funext fun _ => propext (isDigit_foldScript_iff hbase).symm

/-! ## Digits with underscores between them -/

/-- The digits of a text with single underscores between some of them. -/
def readApart? (base : Nat) (t : Text) : Option (List Nat) :=
  (dropUnderscores? t).bind (digitsIn? base)

lemma dropUnderscores?_underscore (t : Text) : dropUnderscores? ('_' :: t) = none := by
  simp [dropUnderscores?, Text.cut]

lemma dropUnderscores?_singleton {c : Char} (hc : c ≠ '_') : dropUnderscores? [c] = some [c] := by
  simp [dropUnderscores?, Text.cut, hc]

lemma dropUnderscores?_apart {c : Char} (hc : c ≠ '_') (t : Text) :
    dropUnderscores? (c :: '_' :: t) = (dropUnderscores? t).map (c :: ·) := by
  have hcut : Text.cut '_' (c :: '_' :: t) = [c] :: Text.cut '_' t := by simp [Text.cut, hc]
  simp only [dropUnderscores?, hcut, List.any_cons, List.isEmpty_cons, Bool.false_or]
  split_ifs <;> simp

lemma dropUnderscores?_cons {c c' : Char} (hc : c ≠ '_') (hc' : c' ≠ '_') (t : Text) :
    dropUnderscores? (c :: c' :: t) = (dropUnderscores? (c' :: t)).map (c :: ·) := by
  obtain ⟨piece, pieces, hcut⟩ :
      ∃ piece pieces, Text.cut '_' (c' :: t) = (c' :: piece) :: pieces := by
    rw [Text.cut, if_neg hc']
    split
    next heq => exact absurd heq (Text.cut_ne_nil '_' t)
    next piece pieces heq => exact ⟨piece, pieces, rfl⟩
  have hcut' : Text.cut '_' (c :: c' :: t) = (c :: c' :: piece) :: pieces := by
    rw [Text.cut, if_neg hc, hcut]
  simp only [dropUnderscores?, hcut, hcut', List.any_cons, List.isEmpty_cons, Bool.false_or]
  split_ifs <;> simp

lemma dropUnderscores?_ne_nil {t w : Text} (h : dropUnderscores? t = some w) : w ≠ [] := by
  rw [dropUnderscores?] at h
  split_ifs at h with hempty
  obtain ⟨piece, pieces, hcut⟩ := List.exists_cons_of_ne_nil (Text.cut_ne_nil '_' t)
  obtain rfl := Option.some.inj h
  rw [hcut] at hempty ⊢
  simp only [List.any_cons, Bool.or_eq_true, not_or, List.isEmpty_iff] at hempty
  simp [hempty.1]

/-- A first digit is read in front of the others. -/
lemma readApart?_of_map {base : Nat} {c : Char} {t rest : Text}
    (h : dropUnderscores? t = (dropUnderscores? rest).map (c :: ·)) :
    readApart? base t =
      (digitIn? base c).bind fun d => (readApart? base rest).map fun ds => d :: ds := by
  rw [readApart?, readApart?, h]
  cases hrest : dropUnderscores? rest with
  | none => cases digitIn? base c <;> rfl
  | some w =>
      rw [Option.map_some, Option.bind_some, Option.bind_some,
        digitsIn?_cons base c (dropUnderscores?_ne_nil hrest)]

lemma IsDigit.ne_underscore {base d : Nat} {c : Char} (h : IsDigit base c d) : c ≠ '_' := by
  rintro rfl
  exact absurd h.mem (by decide)

lemma Apart.exists_cons {stands : Char → Nat → Prop} {t : Text} {ds : List Nat}
    (h : Apart stands t ds) : ∃ c rest d, t = c :: rest ∧ stands c d := by
  cases h with
  | single h => exact ⟨_, _, _, rfl, h⟩
  | cons first rest => exact ⟨_, _, _, rfl, first⟩
  | apart first rest => exact ⟨_, _, _, rfl, first⟩

variable {base : Nat}

lemma readApart?_of_apart (hbase : base ≤ 16) {t : Text} {ds : List Nat}
    (h : Apart (IsDigit base) t ds) : readApart? base t = some ds := by
  induction h with
  | @single c d hc =>
      rw [readApart?, dropUnderscores?_singleton hc.ne_underscore, Option.bind_some,
        digitsIn?_singleton, (digitIn?_eq_some_iff hbase).2 hc]
      rfl
  | @cons c d t ds first rest ih =>
      obtain ⟨c', t', d', rfl, hc'⟩ := rest.exists_cons
      rw [readApart?_of_map (dropUnderscores?_cons first.ne_underscore hc'.ne_underscore t'), ih,
        (digitIn?_eq_some_iff hbase).2 first]
      rfl
  | @apart c d t ds first rest ih =>
      rw [readApart?_of_map (dropUnderscores?_apart first.ne_underscore t), ih,
        (digitIn?_eq_some_iff hbase).2 first]
      rfl

/-- The first digit that is read, and what is read behind it. -/
lemma exists_first (hbase : base ≤ 16) {c : Char} {t rest : Text} {ds : List Nat}
    (h : dropUnderscores? t = (dropUnderscores? rest).map (c :: ·))
    (hread : readApart? base t = some ds) :
    ∃ d ds', ds = d :: ds' ∧ IsDigit base c d ∧ readApart? base rest = some ds' := by
  rw [readApart?_of_map h] at hread
  obtain ⟨d, hd, hread⟩ := Option.bind_eq_some_iff.1 hread
  obtain ⟨ds', hrest, rfl⟩ := Option.map_eq_some_iff.1 hread
  exact ⟨d, ds', rfl, (digitIn?_eq_some_iff hbase).1 hd, hrest⟩

lemma apart_of_readApart? (hbase : base ≤ 16) : ∀ {t : Text} {ds : List Nat},
    readApart? base t = some ds → Apart (IsDigit base) t ds
  | [], ds, h => by cases h
  | [c], ds, h => by
      by_cases hc : c = '_'
      · rw [readApart?, hc, dropUnderscores?_underscore] at h
        cases h
      · rw [readApart?, dropUnderscores?_singleton hc, Option.bind_some, digitsIn?_singleton] at h
        obtain ⟨d, hd, rfl⟩ := Option.map_eq_some_iff.1 h
        exact .single ((digitIn?_eq_some_iff hbase).1 hd)
  | c :: c' :: t, ds, h => by
      by_cases hc : c = '_'
      · rw [readApart?, hc, dropUnderscores?_underscore] at h
        cases h
      · by_cases hc' : c' = '_'
        · subst hc'
          obtain ⟨d, ds', rfl, hd, hrest⟩ := exists_first hbase (dropUnderscores?_apart hc t) h
          exact .apart hd (apart_of_readApart? hbase hrest)
        · obtain ⟨d, ds', rfl, hd, hrest⟩ := exists_first hbase (dropUnderscores?_cons hc hc' t) h
          exact .cons hd (apart_of_readApart? hbase hrest)

/-- **Digits are read one by one**, past single underscores between them. -/
lemma readApart?_eq_some_iff (hbase : base ≤ 16) {t : Text} {ds : List Nat} :
    readApart? base t = some ds ↔ Apart (IsDigit base) t ds :=
  ⟨apart_of_readApart? hbase, readApart?_of_apart hbase⟩

/-! ## The mark -/

/-- The letter of a base is no digit of it. -/
lemma not_isDigit_of_markedBase? {x : Char} (h : markedBase? x = some base) (d : Nat) :
    ¬ IsDigit base x d := by
  have hsigns : ∀ d < base, digitSigns[d]? ≠ some x.toLower := by
    unfold markedBase? at h
    split at h <;> cases h <;> decide
  exact fun hd => hsigns d hd.1 hd.2

lemma ne_underscore_of_markedBase? {x : Char} (h : markedBase? x = some base) : x ≠ '_' := by
  rintro rfl
  cases h

lemma exists_of_mark? {t : Text} (h : mark? t = some base) :
    ∃ x rest, t = '0' :: x :: rest ∧ markedBase? x = some base := by
  unfold mark? at h
  split at h
  next x rest => exact ⟨x, rest, rfl, h⟩
  next => cases h

/-- Digits alone are not taken for a mark. -/
lemma Apart.mark?_ne {t : Text} {ds : List Nat} (h : Apart (IsDigit base) t ds) :
    mark? t ≠ some base := by
  intro hmark
  obtain ⟨x, rest, rfl, hx⟩ := exists_of_mark? hmark
  cases h with
  | cons first rest =>
      obtain ⟨c, u, d, heq, hd⟩ := rest.exists_cons
      obtain rfl := (List.cons.inj heq).1
      exact not_isDigit_of_markedBase? hx d hd
  | apart first rest => exact ne_underscore_of_markedBase? hx rfl

lemma dropMark_bare {x : Char} (hx : markedBase? x = some base) {rest : Text}
    (hrest : rest.head? ≠ some '_') : dropMark base ('0' :: x :: rest) = rest := by
  rw [dropMark, if_pos (show mark? ('0' :: x :: rest) = some base from hx)]
  split
  next digits heq =>
    obtain rfl : rest = '_' :: digits := heq
    exact absurd rfl hrest
  next => rfl

lemma dropMark_apart {x : Char} (hx : markedBase? x = some base) (digits : Text) :
    dropMark base ('0' :: x :: '_' :: digits) = digits :=
  if_pos (show mark? ('0' :: x :: '_' :: digits) = some base from hx)

lemma dropMark_of_apart {mark digits : Text} {ds : List Nat} (hmark : IsMark (· = '0') base mark)
    (hdigits : Apart (IsDigit base) digits ds) : dropMark base (mark ++ digits) = digits := by
  cases hmark with
  | absent => exact if_neg hdigits.mark?_ne
  | @bare z x hz hx =>
      subst hz
      obtain ⟨c, rest, d, rfl, hd⟩ := hdigits.exists_cons
      exact dropMark_bare hx fun h => hd.ne_underscore (Option.some.inj h)
  | @apart z x hz hx =>
      subst hz
      exact dropMark_apart hx digits

lemma exists_dropMark (base : Nat) (t : Text) :
    ∃ mark, t = mark ++ dropMark base t ∧ IsMark (· = '0') base mark := by
  by_cases hmark : mark? t = some base
  · obtain ⟨x, rest, rfl, hx⟩ := exists_of_mark? hmark
    by_cases hrest : rest.head? = some '_'
    · obtain ⟨digits, rfl⟩ := List.head?_eq_some_iff.1 hrest
      exact ⟨['0', x, '_'], by rw [dropMark_apart hx]; rfl, .apart rfl hx⟩
    · exact ⟨['0', x], by rw [dropMark_bare hx hrest]; rfl, .bare rfl hx⟩
  · exact ⟨[], by rw [dropMark, if_neg hmark]; rfl, .absent⟩

/-- **The mark is dropped, and the digits are read.** -/
lemma readApart?_dropMark_iff (hbase : base ≤ 16) {t : Text} {ds : List Nat} :
    readApart? base (dropMark base t) = some ds ↔
      ∃ mark digits, t = mark ++ digits ∧ IsMark (· = '0') base mark ∧
        Apart (IsDigit base) digits ds := by
  rw [readApart?_eq_some_iff hbase]
  constructor
  · intro h
    obtain ⟨mark, ht, hmark⟩ := exists_dropMark base t
    exact ⟨mark, _, ht, hmark, h⟩
  · rintro ⟨mark, digits, rfl, hmark, hdigits⟩
    rwa [dropMark_of_apart hmark hdigits]

lemma settingMagnitude?_eq (hlow : 2 ≤ base) (hhigh : base ≤ 16) (t : Text) :
    settingMagnitude? base t = (readApart? base (dropMark base t)).bind fun ds =>
      if isBinaryBase base = false ∧ decimalLimit < ds.length then none
      else some (ofDigits base ds) := by
  have hchoose : chooseBase? base t = some (base, false) := by
    rw [chooseBase?, if_neg (by omega), if_pos (by simp; omega), Int.toNat_natCast]
  simp [settingMagnitude?, hchoose, readApart?, Option.bind_assoc]

lemma settingMagnitude?_eq_some_iff (hlow : 2 ≤ base) (hhigh : base ≤ 16) {t : Text} {n : Nat} :
    settingMagnitude? base t = some n ↔
      ∃ mark digits ds, t = mark ++ digits ∧ IsMark (· = '0') base mark ∧
        Apart (IsDigit base) digits ds ∧
        (isBinaryBase base = false → ds.length ≤ decimalLimit) ∧ ofDigits base ds = n := by
  rw [settingMagnitude?_eq hlow hhigh, Option.bind_eq_some_iff]
  constructor
  · rintro ⟨ds, hread, hvalue⟩
    obtain ⟨mark, digits, rfl, hmark, hdigits⟩ := (readApart?_dropMark_iff hhigh).1 hread
    split_ifs at hvalue with hlong
    exact ⟨mark, digits, ds, rfl, hmark, hdigits, fun hbase => Nat.le_of_not_lt fun hlt =>
      hlong ⟨hbase, hlt⟩, Option.some.inj hvalue⟩
  · rintro ⟨mark, digits, ds, rfl, hmark, hdigits, hlimit, rfl⟩
    refine ⟨ds, (readApart?_dropMark_iff hhigh).2 ⟨mark, digits, rfl, hmark, hdigits⟩, ?_⟩
    rw [if_neg fun hlong => absurd (hlimit hlong.1) (Nat.not_le_of_lt hlong.2)]

/-! ## Blanks and the sign -/

lemma exists_trimPlain (t : Text) :
    ∃ front back, (∀ c ∈ front, isPlainBlank c = true) ∧ (∀ c ∈ back, isPlainBlank c = true) ∧
      t = front ++ trimPlain t ++ back := by
  refine ⟨t.takeWhile isPlainBlank,
    ((t.dropWhile isPlainBlank).reverse.takeWhile isPlainBlank).reverse, ?_, ?_, ?_⟩
  · exact fun c hc => List.mem_takeWhile_imp hc
  · exact fun c hc => List.mem_takeWhile_imp (List.mem_reverse.1 hc)
  · rw [List.append_assoc, trimPlain, ← List.reverse_append, List.takeWhile_append_dropWhile,
      List.reverse_reverse, List.takeWhile_append_dropWhile]

lemma dropWhile_eq_self {p : Char → Bool} {t : Text} (h : ∀ c ∈ t, p c = false) :
    t.dropWhile p = t := by
  cases t with
  | nil => rfl
  | cons c t => rw [List.dropWhile_cons, if_neg (by simp [h c (by simp)])]

lemma trimPlain_surround {front t back : Text} (hfront : ∀ c ∈ front, isPlainBlank c = true)
    (hback : ∀ c ∈ back, isPlainBlank c = true) (ht : ∀ c ∈ t, isPlainBlank c = false)
    (hne : t ≠ []) : trimPlain (front ++ t ++ back) = t := by
  have hleft : (t ++ back).dropWhile isPlainBlank = t ++ back := by
    obtain ⟨c, rest, rfl⟩ := List.exists_cons_of_ne_nil hne
    rw [List.cons_append, List.dropWhile_cons, if_neg (by simp [ht c (by simp)])]
  have hright : t.reverse.dropWhile isPlainBlank = t.reverse :=
    dropWhile_eq_self fun c hc => ht c (List.mem_reverse.1 hc)
  rw [trimPlain, List.append_assoc, List.dropWhile_append_of_pos hfront, hleft,
    List.reverse_append, List.dropWhile_append_of_pos fun c hc => hback c (List.mem_reverse.1 hc),
    hright, List.reverse_reverse]

lemma parseSetting?_eq (base : Int) (t : Text) :
    parseSetting? base t =
      (settingMagnitude? base (splitSign (trimPlain (t.map foldScript))).2).map fun n : Nat =>
        if (splitSign (trimPlain (t.map foldScript))).1 = true then -(n : Int) else n := by
  rw [parseSetting?]
  generalize trimPlain (t.map foldScript) = u
  split
  next rest => cases h : settingMagnitude? base rest <;> simp [splitSign, h]
  next rest => cases h : settingMagnitude? base rest <;> simp [splitSign, h]
  next hminus hplus =>
    rw [splitSign]
    · cases settingMagnitude? base u <;> simp
    · exact hminus
    · exact hplus

/-! ## Reading in ASCII -/

lemma isDigit_zero_iff (hlow : 2 ≤ base) {c : Char} : IsDigit base c 0 ↔ c = '0' := by
  constructor
  · intro h
    have hascii := toNat_lt_of_toLower_mem (List.mem_append_left _ h.mem)
    exact of_ascii (p := fun c => some '0' = some c.toLower → c = '0') (by decide +kernel)
      hascii h.2
  · rintro rfl
    exact ⟨Nat.lt_of_lt_of_le Nat.two_pos hlow, rfl⟩

lemma markedBase?_of_not_ascii {c : Char} (h : ¬ c.toNat < 0x80) : markedBase? c = none := by
  unfold markedBase?
  split <;> first | rfl | exact absurd (by decide) h

lemma markedBase?_foldScript (c : Char) : markedBase? (foldScript c) = markedBase? c := by
  by_cases hc : c.toNat < 0x80
  · rw [foldScript_of_ascii hc]
  · have hchars : ∀ n < 10, markedBase? (Nat.digitChar n) = none := by decide
    rw [markedBase?_of_not_ascii hc]
    rcases foldScript_cases hc with ⟨-, h⟩ | ⟨-, -, h⟩ | ⟨-, n, hn, -, h⟩
    · rw [h]
      rfl
    · rw [h, markedBase?_of_not_ascii hc]
    · rw [h, hchars n hn]

lemma foldScript_eq_underscore_iff {c : Char} : foldScript c = '_' ↔ c = '_' :=
  foldScript_eq_iff (by decide) (by decide) (by decide)

lemma Apart.map_iff {t : Text} {ds : List Nat} :
    Apart (IsDigit base) (t.map foldScript) ds ↔
      Apart (fun c d => IsDigit base (foldScript c) d) t ds := by
  constructor
  · intro h
    generalize hu : t.map foldScript = u at h
    induction h generalizing t with
    | single hc =>
        obtain ⟨c, rfl, rfl⟩ := List.map_eq_singleton_iff.1 hu
        exact .single hc
    | cons first rest ih =>
        obtain ⟨c, t', rfl, rfl, rfl⟩ := List.map_eq_cons_iff.1 hu
        exact .cons first (ih rfl)
    | apart first rest ih =>
        obtain ⟨c, t', rfl, rfl, hrest⟩ := List.map_eq_cons_iff.1 hu
        obtain ⟨c', t'', rfl, hc', rfl⟩ := List.map_eq_cons_iff.1 hrest
        rw [foldScript_eq_underscore_iff.1 hc']
        exact .apart first (ih rfl)
  · intro h
    induction h with
    | single hc => exact .single hc
    | cons first rest ih => exact .cons first ih
    | apart first rest ih => exact .apart first ih

lemma IsMark.map_iff {t : Text} :
    IsMark (· = '0') base (t.map foldScript) ↔ IsMark (fun z => foldScript z = '0') base t := by
  constructor
  · intro h
    generalize hu : t.map foldScript = u at h
    cases h with
    | absent =>
        obtain rfl := List.map_eq_nil_iff.1 hu
        exact .absent
    | bare hz hx =>
        obtain ⟨z, t', rfl, rfl, hrest⟩ := List.map_eq_cons_iff.1 hu
        obtain ⟨x, rfl, rfl⟩ := List.map_eq_singleton_iff.1 hrest
        exact .bare hz (markedBase?_foldScript x ▸ hx)
    | apart hz hx =>
        obtain ⟨z, t', rfl, rfl, hrest⟩ := List.map_eq_cons_iff.1 hu
        obtain ⟨x, t'', rfl, rfl, hlast⟩ := List.map_eq_cons_iff.1 hrest
        obtain ⟨c, rfl, hc⟩ := List.map_eq_singleton_iff.1 hlast
        rw [foldScript_eq_underscore_iff.1 hc]
        exact .apart hz (markedBase?_foldScript x ▸ hx)
  · intro h
    cases h with
    | absent => exact .absent
    | bare hz hx => exact .bare hz ((markedBase?_foldScript _).trans hx)
    | apart hz hx => exact .apart hz ((markedBase?_foldScript _).trans hx)

/-! ## The whole integer -/

/-- A character of a mark or of digits. -/
def IsInner (c : Char) : Prop := c = '_' ∨ c.toLower ∈ digitSigns ++ ['o', 'x']

lemma IsInner.plain {c : Char} (h : IsInner c) :
    isPlainBlank c = false ∧ c ≠ '+' ∧ c ≠ '-' := by
  rcases h with rfl | h
  · decide
  · have hmem : c.toLower ∈ numeralSigns := by
      rcases List.mem_append.1 h with h | h
      · exact List.mem_append_left _ h
      · exact List.mem_append_right _ (List.mem_cons_of_mem _ (List.mem_cons_of_mem _ h))
    exact of_ascii (p := fun c => c.toLower ∈ digitSigns ++ ['o', 'x'] →
      isPlainBlank c = false ∧ c ≠ '+' ∧ c ≠ '-') (by decide +kernel)
      (toNat_lt_of_toLower_mem hmem) h

lemma IsDigit.inner {c : Char} {d : Nat} (h : IsDigit base c d) : IsInner c :=
  .inr (List.mem_append_left _ h.mem)

lemma Apart.inner {t : Text} {ds : List Nat} (h : Apart (IsDigit base) t ds) :
    ∀ c ∈ t, IsInner c := by
  induction h with
  | single hc => simpa using hc.inner
  | cons first rest ih => exact List.forall_mem_cons.2 ⟨first.inner, ih⟩
  | apart first rest ih =>
      exact List.forall_mem_cons.2 ⟨first.inner, List.forall_mem_cons.2 ⟨.inl rfl, ih⟩⟩

lemma inner_of_markedBase? {x : Char} (h : markedBase? x = some base) : IsInner x := by
  unfold markedBase? at h
  split at h <;> first | exact .inr (by decide) | cases h

lemma IsMark.inner {t : Text} (h : IsMark (· = '0') base t) : ∀ c ∈ t, IsInner c := by
  have hzero : IsInner '0' := .inr (by decide)
  cases h with
  | absent => simp
  | bare hz hx => simp [hz, hzero, inner_of_markedBase? hx]
  | apart hz hx => simp [hz, hzero, inner_of_markedBase? hx, show IsInner '_' from .inl rfl]

lemma Sign.not_isPlainBlank (sign : Sign) : ∀ c ∈ sign.written, isPlainBlank c = false := by
  cases sign <;> simp [Sign.written, isPlainBlank]

lemma map_foldScript_eq_written {sign : Sign} {t : Text} :
    t.map foldScript = sign.written ↔ t = sign.written := by
  have hsingle : ∀ {d : Char}, d.toNat < 0x80 → d ≠ ' ' → d.isDigit = false →
      (t.map foldScript = [d] ↔ t = [d]) := by
    intro d hascii hblank hdigit
    simp only [List.map_eq_singleton_iff, foldScript_eq_iff hascii hblank hdigit,
      exists_eq_right]
  cases sign with
  | absent => exact List.map_eq_nil_iff
  | plus => exact hsingle (by decide) (by decide) (by decide)
  | minus => exact hsingle (by decide) (by decide) (by decide)

/-- **A setting is read as the integer that it states**, and nothing else is read. -/
theorem parseSetting?_eq_some_iff (hlow : 2 ≤ base) (hhigh : base ≤ 16) {t : Text} {n : Int} :
    parseSetting? base t = some n ↔ States base t n := by
  have hstands := standsFor_eq hhigh
  have hzero : (fun z => StandsFor base z 0) = fun z => foldScript z = '0' :=
    funext fun z => propext ((isDigit_foldScript_iff hhigh).symm.trans (isDigit_zero_iff hlow))
  rw [parseSetting?_eq]
  constructor
  · intro h
    obtain ⟨m, hm, rfl⟩ := Option.map_eq_some_iff.1 h
    obtain ⟨sign, rest, hsign, hsplit⟩ := exists_sign (trimPlain (t.map foldScript))
    rw [hsplit] at hm ⊢
    obtain ⟨mark, digits, ds, rfl, hmark, hdigits, hlimit, rfl⟩ :=
      (settingMagnitude?_eq_some_iff hlow hhigh).1 hm
    obtain ⟨front, back, hfront, hback, hwhole⟩ := exists_trimPlain (t.map foldScript)
    rw [hsign] at hwhole
    obtain ⟨t₁, back, rfl, h₁, rfl⟩ := List.map_eq_append_iff.1 hwhole
    obtain ⟨front, t₂, rfl, rfl, h₂⟩ := List.map_eq_append_iff.1 h₁
    obtain ⟨written, t₃, rfl, hwritten, h₃⟩ := List.map_eq_append_iff.1 h₂
    obtain ⟨mark, digits, rfl, rfl, rfl⟩ := List.map_eq_append_iff.1 h₃
    rw [map_foldScript_eq_written.1 hwritten, apply_eq]
    refine .intro sign ?_ ?_ ?_ ?_ hlimit
    · exact fun c hc => isPlainBlank_foldScript_iff.1 (hfront _ (List.mem_map_of_mem hc))
    · exact fun c hc => isPlainBlank_foldScript_iff.1 (hback _ (List.mem_map_of_mem hc))
    · exact hzero ▸ IsMark.map_iff.1 hmark
    · exact hstands ▸ Apart.map_iff.1 hdigits
  · rintro @⟨sign, front, mark, digits, back, ds, hfront, hback, hmark, hdigits, hlimit⟩
    rw [hzero, ← IsMark.map_iff] at hmark
    rw [hstands, ← Apart.map_iff] at hdigits
    have hinner : ∀ c ∈ mark.map foldScript ++ digits.map foldScript, IsInner c :=
      List.forall_mem_append.2 ⟨hmark.inner, hdigits.inner⟩
    have hplain : ∀ c ∈ sign.written ++ (mark.map foldScript ++ digits.map foldScript),
        isPlainBlank c = false :=
      List.forall_mem_append.2 ⟨sign.not_isPlainBlank, fun c hc => (hinner c hc).plain.1⟩
    have hne : sign.written ++ (mark.map foldScript ++ digits.map foldScript) ≠ [] := by
      obtain ⟨c, rest, d, hrest, -⟩ := hdigits.exists_cons
      simp [hrest]
    have htrim : trimPlain ((front ++ (sign.written ++ (mark ++ digits)) ++ back).map foldScript) =
        sign.written ++ (mark.map foldScript ++ digits.map foldScript) := by
      simp only [List.map_append, map_foldScript_eq_written.2 rfl]
      refine trimPlain_surround ?_ ?_ hplain hne
      · exact List.forall_mem_map.2 fun c hc => isPlainBlank_foldScript_iff.2 (hfront c hc)
      · exact List.forall_mem_map.2 fun c hc => isPlainBlank_foldScript_iff.2 (hback c hc)
    have hread := (settingMagnitude?_eq_some_iff hlow hhigh).2
      ⟨_, _, _, rfl, hmark, hdigits, hlimit, rfl⟩
    rw [htrim, splitSign_written sign fun c hc => (hinner c hc).plain.2, hread, Option.map_some,
      apply_eq]

end Asm16

import Asm16.Program.Operation
import Asm16.Proofs.Program.Literal
import Asm16.Proofs.Program.Reading
import Asm16.Proofs.Program.Token

/-!
# The readings of a token agree

A token is read in four ways: for its brackets, as a literal, as an operand of any kind, and as a
register where nothing else will do.  Each of them trims the token and folds its letters for itself,
and one instruction may read the same token in two ways.  So they have to agree on every token.

* `lower_eq_name_iff` — the letters of a register may be folded in every script, or in ASCII only.
* `ShortNumerals` — what may be a decimal numeral in the token is within the limit.
* `Resolves` — what a token is resolved to, one case for each reading.  There are no other cases
  (`resolves`), and the relations between the readings are read off them.
* `Agrees` — these relations.
* `Operation.store` — a move to memory that resolves its destination like any other operand.

`readings_agree` says that the readings of a token agree, that blanks around it matter to none of
them, and that a destination between brackets may be resolved like any other operand.
-/

namespace Asm16

/-! ## Names of registers -/

lemma ascii_of_mem_name (r : Register) : ∀ c ∈ r.name, c.toNat < 0x80 := by
  have hall : r.name.all (fun c => decide (c.toNat < 0x80)) = true := by cases r <;> decide
  exact fun c hc => of_decide_eq_true (List.all_eq_true.1 hall c hc)

/-- The folded form of a character beyond ASCII holds one that is in no name of a register. -/
lemma exists_not_mem_name {c : Char} (hc : ¬ c.toNat < 0x80) (r : Register) :
    ∃ d ∈ lowerChar c, d ∉ r.name := by
  have hk : 'k' ∉ r.name := by cases r <;> decide
  by_cases hdotted : c.toNat = 0x130
  · obtain ⟨d, hlower, hd⟩ := exists_lowerChar_dotted hdotted
    exact ⟨d, by simp [hlower], fun hmem => hd (ascii_of_mem_name r d hmem)⟩
  · obtain ⟨d, hmem⟩ := List.exists_mem_of_ne_nil _ (lowerChar_ne_nil c)
    refine ⟨d, hmem, fun hname => ?_⟩
    rcases source_of_mem_lowerChar hmem (ascii_of_mem_name r d hname) with h | h | rfl
    · exact hc h.1
    · exact hdotted h
    · exact hk hname

/-- What is folded to the name of a register is ASCII. -/
lemma ascii_of_lowerBehind {r : Register} : ∀ {t : Text} (before : Text),
    Text.lowerBehind before t ⊆ r.name → ∀ c ∈ t, c.toNat < 0x80
  | [], _, _ => fun _ hc => absurd hc List.not_mem_nil
  | first :: t, before, h => by
      rw [Text.lowerBehind, List.append_subset] at h
      obtain ⟨hfirst, hrest⟩ := h
      have hascii : first.toNat < 0x80 := by
        by_contra hbeyond
        split_ifs at hfirst
        · -- either small sigma is beyond ASCII
          have hsigma : ¬ (lowerSigma before t).toNat < 0x80 := by
            unfold lowerSigma
            split <;> decide
          exact hsigma (ascii_of_mem_name r _ (hfirst List.mem_cons_self))
        · obtain ⟨d, hd, hname⟩ := exists_not_mem_name hbeyond r
          exact hname (hfirst hd)
      intro c hc
      rcases List.mem_cons.1 hc with rfl | hc
      · exact hascii
      · exact ascii_of_lowerBehind (first :: before) hrest c hc

/-- **A register is named in letters of any script just if it is named in ASCII letters.** -/
lemma lower_eq_name_iff {t : Text} {r : Register} : t.lower = r.name ↔ t.asciiLower = r.name := by
  by_cases hascii : ∀ c ∈ t, c.toNat < 0x80
  · rw [Text.lower_of_ascii hascii]
  · refine iff_of_false (fun h => hascii ?_) fun h => hascii fun c hc => ?_
    · have hlower : t.lower ⊆ r.name := h ▸ List.Subset.refl _
      exact ascii_of_lowerBehind [] hlower
    · by_contra hbeyond
      refine hbeyond (ascii_of_mem_name r c (h ▸ ?_))
      exact toLower_of_not_ascii hbeyond ▸ List.mem_map_of_mem hc

lemma resolveRegister_eq_ok_iff_lower {token : Text} {r : Register} :
    resolveRegister token = .ok r ↔ token.trim.lower = r.name := by
  rw [resolveRegister_eq_ok_iff, means_register_iff, registerOf?_eq_some_iff, lower_eq_name_iff]

lemma resolveRegister_eq_error {token : Text} (h : ∀ r, resolveRegister token ≠ .ok r) :
    resolveRegister token = .error (.ofCause .unknownRegister token.trim) := by
  rw [resolveRegister] at h ⊢
  cases hr : registerOf? token with
  | none => rfl
  | some r => exact absurd (by rw [hr]) (h r)

/-! ## Short numerals -/

/-- What may be a decimal numeral in the token, all of it or what is between its brackets, is within
the limit. -/
structure ShortNumerals (token : Text) : Prop where
  whole : WithinLimit token.trim
  inside : ∀ t : Text, token.trim = '[' :: (t ++ [']']) → WithinLimit t.trim

lemma withinLimit_of_length_le {t : Text} (h : t.length ≤ decimalLimit) : WithinLimit t := by
  rintro sign digits rfl -
  rw [List.length_append] at h
  omega

lemma Text.length_trim_le (t : Text) : t.trim.length ≤ t.length := by
  obtain ⟨u, w, -, -, ht⟩ := Text.exists_trim t
  have hlength := congrArg List.length ht
  simp only [List.length_append] at hlength
  omega

/-- No numeral in a short token is too long. -/
lemma ShortNumerals.of_length_le {token : Text} (h : token.length ≤ decimalLimit) :
    ShortNumerals token where
  whole := withinLimit_of_length_le ((Text.length_trim_le token).trans h)
  inside := by
    intro t ht
    have hwhole := Text.length_trim_le token
    rw [ht] at hwhole
    simp only [List.length_cons, List.length_append, List.length_nil] at hwhole
    exact withinLimit_of_length_le ((Text.length_trim_le t).trans (by omega))

/-- Within the limit a text is either a literal or none. -/
lemma exists_parseLiteral {t : Text} (h : WithinLimit t.trim) : ∃ n?, parseLiteral t = .ok n? := by
  by_cases hliteral : ∃ n, IsLiteral t.trim n
  · obtain ⟨n, hn⟩ := hliteral
    exact ⟨some n, (parseLiteral_eq_ok_some_iff h).2 hn⟩
  · exact ⟨none, (parseLiteral_eq_ok_none_iff h).2 (not_exists.1 hliteral)⟩

/-! ## What a token is resolved to -/

/-- The token is resolved so, and this is how the other readings find it. -/
inductive Resolves (token : Text) : Except Error Operand → Prop
  | memory {t : Text} {a : Int} (brackets : token.trim = '[' :: (t ++ [']']))
    (read : parseLiteral t = .ok (some a)) : Resolves token (.ok (.memory a))
  | badAddress {t : Text} (brackets : token.trim = '[' :: (t ++ [']']))
    (unread : parseLiteral t = .ok none) :
    Resolves token (.error (.ofCause .badAddress token.trim))
  | register {r : Register} (bare : isBracketed token = false)
    (named : resolveRegister token = .ok r) (unread : parseLiteral token = .ok none) :
    Resolves token (.ok (.register r))
  | immediate {n : Int} (bare : isBracketed token = false)
    (nameless : ∀ r, resolveRegister token ≠ .ok r) (read : parseLiteral token = .ok (some n)) :
    Resolves token (.ok (.immediate n))
  | badOperand (bare : isBracketed token = false) (nameless : ∀ r, resolveRegister token ≠ .ok r)
    (unread : parseLiteral token = .ok none) :
    Resolves token (.error (.ofCause .badOperand token.trim))

section

variable {token : Text}

lemma resolve_of_isBracketed (h : isBracketed token = true) :
    resolve token = (addressOf token).map .memory := by rw [resolve, if_pos h]

lemma resolve_of_register {r : Register} (h : registerOf? token = some r) :
    resolve token = .ok (.register r) := resolve_eq_ok_iff.2 (means_register_iff.2 h)

lemma resolve_of_bare (hbracketed : isBracketed token = false) (hr : registerOf? token = none) :
    resolve token = (immediateOf token).map .immediate := by
  simp only [resolve, hbracketed, hr, Bool.false_eq_true, if_false]

/-- **Every token has one of the five readings.** -/
lemma resolves (h : ShortNumerals token) : Resolves token (resolve token) := by
  cases hbracketed : isBracketed token with
  | true =>
      obtain ⟨t, ht⟩ := isBracketed_iff.1 hbracketed
      obtain ⟨a?, ha⟩ := exists_parseLiteral (h.inside t ht)
      rw [resolve_of_isBracketed hbracketed, addressOf, ht, inner_brackets, ha, ← ht]
      cases a? with
      | some a => exact .memory ht ha
      | none => exact .badAddress ht ha
  | false =>
      obtain ⟨n?, hn⟩ := exists_parseLiteral h.whole
      cases hr : registerOf? token with
      | some r =>
          rw [resolve_of_register hr]
          have hunread : parseLiteral token = .ok none := by
            rw [← parseLiteral_trim, parseLiteral_of_register hr]
          exact .register hbracketed (resolveRegister_eq_ok_iff.2 (means_register_iff.2 hr)) hunread
      | none =>
          have hnameless : ∀ r, resolveRegister token ≠ .ok r := by
            intro r hname
            rw [resolveRegister_eq_ok_iff, means_register_iff, hr] at hname
            cases hname
          rw [resolve_of_bare hbracketed hr, immediateOf, parseLiteral_trim, hn]
          cases n? with
          | some n => exact .immediate hbracketed hnameless hn
          | none => exact .badOperand hbracketed hnameless hn

/-! ## The readings side by side -/

namespace Resolves

variable {result : Except Error Operand}

/-- A memory reference or a bad address comes of a token between brackets and of no other. -/
lemma brackets_iff (h : Resolves token result) :
    ((∃ a, result = .ok (.memory a)) ∨ ∃ detail, result = .error (.ofCause .badAddress detail)) ↔
      isBracketed token = true := by
  cases h with
  | memory brackets _ => simp [isBracketed_iff.2 ⟨_, brackets⟩]
  | badAddress brackets _ => simp [isBracketed_iff.2 ⟨_, brackets⟩]
  | register bare _ _ => simp [bare]
  | immediate bare _ _ => simp [bare]
  | badOperand bare _ _ => simp [bare, Error.ofCause]

/-- An address is the literal between the brackets, and a bad one is no literal. -/
lemma address (h : Resolves token result) (hbracketed : isBracketed token = true) :
    ∃ t : Text, token.trim = '[' :: (t ++ [']']) ∧
      (∀ a, result = .ok (.memory a) ↔ parseLiteral t = .ok (some a)) ∧
      (result = .error (.ofCause .badAddress token.trim) ↔ parseLiteral t = .ok none) := by
  cases h with
  | memory brackets read => exact ⟨_, brackets, by simp [read]⟩
  | badAddress brackets unread => exact ⟨_, brackets, by simp [unread]⟩
  | register bare _ _ => simp [bare] at hbracketed
  | immediate bare _ _ => simp [bare] at hbracketed
  | badOperand bare _ _ => simp [bare] at hbracketed

lemma register_iff (h : Resolves token result) (r : Register) :
    result = .ok (.register r) ↔ resolveRegister token = .ok r := by
  have hbracketed : ∀ {t : Text}, token.trim = '[' :: (t ++ [']']) →
      resolveRegister token ≠ .ok r := by
    intro t brackets hname
    have hbare := isBracketed_of_register (means_register_iff.1 (resolveRegister_eq_ok_iff.1 hname))
    rw [isBracketed_iff.2 ⟨t, brackets⟩] at hbare
    cases hbare
  cases h with
  | memory brackets _ => simp [hbracketed brackets]
  | badAddress brackets _ => simp [hbracketed brackets]
  | register _ named _ => simp [named]
  | immediate _ nameless _ => simp [nameless r]
  | badOperand _ nameless _ => simp [nameless r]

lemma immediate_iff (h : Resolves token result) (n : Int) :
    result = .ok (.immediate n) ↔
      isBracketed token = false ∧ parseLiteral token = .ok (some n) := by
  cases h with
  | memory brackets _ => simp [isBracketed_iff.2 ⟨_, brackets⟩]
  | badAddress brackets _ => simp [isBracketed_iff.2 ⟨_, brackets⟩]
  | register _ _ unread => simp [unread]
  | immediate bare _ read => simp [bare, read]
  | badOperand _ _ unread => simp [unread]

/-- What is left over is a bad operand. -/
lemma badOperand_iff (h : Resolves token result) :
    result = .error (.ofCause .badOperand token.trim) ↔ isBracketed token = false ∧
      (∀ r, resolveRegister token ≠ .ok r) ∧ ∀ n, parseLiteral token ≠ .ok (some n) := by
  cases h with
  | memory brackets _ => simp [isBracketed_iff.2 ⟨_, brackets⟩]
  | badAddress brackets _ => simp [isBracketed_iff.2 ⟨_, brackets⟩, Error.ofCause]
  | @register r _ named _ => simp [named]
  | immediate _ _ read => simp [read]
  | badOperand bare nameless unread => simp [bare, nameless, unread]

end Resolves

/-- The readings of a token agree. -/
structure Agrees (token : Text) : Prop where
  /-- A memory reference or a bad address comes of a token between brackets and of no other. -/
  brackets : ((∃ a, resolve token = .ok (.memory a)) ∨
    ∃ detail, resolve token = .error (.ofCause .badAddress detail)) ↔ isBracketed token = true
  /-- The address is the literal between the brackets. -/
  address : isBracketed token = true → ∃ t : Text, token.trim = '[' :: (t ++ [']']) ∧
    (∀ a, resolve token = .ok (.memory a) ↔ parseLiteral t = .ok (some a)) ∧
    (resolve token = .error (.ofCause .badAddress token.trim) ↔ parseLiteral t = .ok none)
  /-- An operand is a register just if the token is one where nothing else will do. -/
  register : ∀ r, resolve token = .ok (.register r) ↔ resolveRegister token = .ok r
  /-- That is a matter of its letters, folded in every script. -/
  named : ∀ r, resolveRegister token = .ok r ↔ token.trim.lower = r.name
  nameless : (∀ r, resolveRegister token ≠ .ok r) →
    resolveRegister token = .error (.ofCause .unknownRegister token.trim)
  /-- No register is a literal. -/
  unread : ∀ r, resolveRegister token = .ok r → parseLiteral token = .ok none
  immediate : ∀ n, resolve token = .ok (.immediate n) ↔
    isBracketed token = false ∧ parseLiteral token = .ok (some n)
  /-- Any other token is a bad operand. -/
  badOperand : resolve token = .error (.ofCause .badOperand token.trim) ↔
    isBracketed token = false ∧ (∀ r, resolveRegister token ≠ .ok r) ∧
      ∀ n, parseLiteral token ≠ .ok (some n)

lemma ShortNumerals.agrees (h : ShortNumerals token) : Agrees token where
  brackets := (resolves h).brackets_iff
  address := (resolves h).address
  register := (resolves h).register_iff
  named := fun _ => resolveRegister_eq_ok_iff_lower
  nameless := resolveRegister_eq_error
  unread := fun r hr => by
    rw [← parseLiteral_trim]
    exact parseLiteral_of_register (means_register_iff.1 (resolveRegister_eq_ok_iff.1 hr))
  immediate := (resolves h).immediate_iff
  badOperand := (resolves h).badOperand_iff

/-- What is read of the trimmed token is read of the token in blanks as well. -/
lemma eq_of_surround {α : Type} {read : Text → α} (hread : ∀ t : Text, read t.trim = read t)
    {u w : Text} (hu : ∀ c ∈ u, isBlank c = true) (hw : ∀ c ∈ w, isBlank c = true) (t : Text) :
    read (u ++ t ++ w) = read t := by
  rw [← hread, Text.trim_surround hu hw, hread]

end

/-! ## Destinations -/

namespace Operation

/-- The address of a destination that is resolved like any other operand.  What is no memory
reference is left to `other`. -/
def target (other : Operand → Step Machine Int) (dest : Text) : Step Machine Int := do
  match ← Step.ofExcept (resolve dest) with
  | .memory a => return a
  | operand => other operand

/-- Move a word to memory: the source is looked at first, then the destination. -/
def store (other : Operand → Step Machine Int) (dest src : Text) : Step Machine Unit := do
  let source ← Step.ofExcept (resolve src)
  let a ← target other dest
  let n ← Step.ofExcept (value (← get) source)
  save a n

variable {dest : Text}

lemma target_of_isBracketed (h : isBracketed dest = true) (other : Operand → Step Machine Int) :
    target other dest = Step.ofExcept (addressOf dest) := by
  rw [target, resolve_of_isBracketed h]
  cases addressOf dest <;> rfl

/-- Between brackets there is never anything to leave to `other`. -/
lemma move_of_isBracketed (h : isBracketed dest = true) (other : Operand → Step Machine Int)
    (src : Text) : move dest src = store other dest src := by
  simp only [move, store, h, if_true, target_of_isBracketed h]

end Operation

/-- **The readings of a token agree**, if no decimal numeral in it is too long.  Blanks around the
token matter to none of them.  A move whose destination is between brackets may resolve it like any
other operand, whatever would be done with one that is no memory reference. -/
theorem readings_agree {token : Text} (h : ShortNumerals token) :
    Agrees token ∧
      (∀ u w : Text, (∀ c ∈ u, isBlank c = true) → (∀ c ∈ w, isBlank c = true) →
        resolve (u ++ token ++ w) = resolve token ∧
          resolveRegister (u ++ token ++ w) = resolveRegister token ∧
          isBracketed (u ++ token ++ w) = isBracketed token ∧
          parseLiteral (u ++ token ++ w) = parseLiteral token) ∧
      (isBracketed token = true → ∀ (other : Operand → Step Machine Int) (src : Text),
        Operation.move token src = Operation.store other token src) := by
  refine ⟨h.agrees, fun u w hu hw => ⟨?_, ?_, ?_, ?_⟩, Operation.move_of_isBracketed⟩
  · exact eq_of_surround resolve_trim hu hw token
  · exact eq_of_surround resolveRegister_trim hu hw token
  · exact eq_of_surround isBracketed_trim hu hw token
  · exact eq_of_surround parseLiteral_trim hu hw token

/-- Brackets in brackets are a bad address, for a destination as well; a literal may have blanks
around it between its brackets; quotes around a bracket make it a literal. -/
theorem nested_brackets_agree :
    resolve ['[', '[', '5', ']', ']'] = .error (.ofCause .badAddress ['[', '[', '5', ']', ']']) ∧
      (∀ other src, Operation.move ['[', '[', '5', ']', ']'] src =
        Operation.store other ['[', '[', '5', ']', ']'] src) ∧
      resolve (['\t'] ++ ['[', ' ', '-', '0', 'X', '1', 'f', ']'] ++ [' ']) = .ok (.memory (-31)) ∧
      resolve ['\'', '[', '\''] = .ok (.immediate 91) := by
  have hshort : ∀ token : Text, token.length ≤ 10 → ShortNumerals token := fun token h =>
    .of_length_le (h.trans (by decide))
  obtain ⟨hnested, -, hstore⟩ :=
    @readings_agree ['[', '[', '5', ']', ']'] (hshort _ (by decide))
  obtain ⟨hspread, hblanks, -⟩ :=
    @readings_agree ['[', ' ', '-', '0', 'X', '1', 'f', ']'] (hshort _ (by decide))
  obtain ⟨hquoted, -, -⟩ := @readings_agree ['\'', '[', '\''] (hshort _ (by decide))
  obtain ⟨t, ht, -, hbad⟩ := hnested.address rfl
  obtain ⟨t', ht', haddress, -⟩ := hspread.address rfl
  obtain ⟨hsame, -, -, -⟩ := hblanks ['\t'] [' '] (by simp; decide) (by simp; decide)
  obtain rfl : ['[', '5', ']'] = t := (congrArg inner ht).trans (inner_brackets t)
  obtain rfl : [' ', '-', '0', 'X', '1', 'f'] = t' := (congrArg inner ht').trans (inner_brackets t')
  exact ⟨hbad.2 rfl, hstore rfl, hsame.trans ((haddress (-31)).2 rfl),
    (hquoted.immediate 91).2 ⟨rfl, rfl⟩⟩

end Asm16

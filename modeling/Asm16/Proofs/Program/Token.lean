import Asm16.Program.Operand
import Mathlib.Tactic.Lemma

/-!
# What a token means

A token is looked at in an order: first as a memory reference, then as a register, then as a
literal.  No order is needed to say what it means, because no token has two of these forms.

* `Means` — the three forms, each on its own.
* `NoLiteral` — a character that no literal begins with, whatever its case.  An opening bracket is
  one, and so is the first letter of every register.
* `resolve_eq_ok_iff`, `resolveRegister_eq_ok_iff` — a token is resolved to what it means.
-/

namespace Asm16

/-- The token has one of the three forms of an operand. -/
inductive Means (token : Text) : Operand → Prop
  | register {r : Register} (named : token.trim.asciiLower = r.name) : Means token (.register r)
  | immediate {n : Int} (read : parseLiteral token.trim = .ok (some n)) :
    Means token (.immediate n)
  | memory {t : Text} {a : Int} (brackets : token.trim = '[' :: (t ++ [']']))
    (read : parseLiteral t = .ok (some a)) : Means token (.memory a)

variable {token : Text}

/-! ## Brackets -/

lemma isBracketed_iff : isBracketed token = true ↔ ∃ t, token.trim = '[' :: (t ++ [']']) := by
  simp only [isBracketed, Text.startsWith, Text.endsWith, Bool.and_eq_true, beq_iff_eq]
  constructor
  · rintro ⟨hhead, hlast⟩
    obtain ⟨rest, hrest⟩ := List.head?_eq_some_iff.1 hhead
    obtain ⟨front, hfront⟩ := List.getLast?_eq_some_iff.1 hlast
    rw [hrest] at hfront
    cases front with
    | nil => simp at hfront
    | cons c front =>
        simp only [List.cons_append, List.cons.injEq] at hfront
        exact ⟨front, by rw [hrest, hfront.2]⟩
  · rintro ⟨t, ht⟩
    simp [ht, List.getLast?_cons]

@[simp] lemma inner_brackets (t : Text) : inner ('[' :: (t ++ [']'])) = t := by simp [inner]

/-! ## How a literal begins -/

/-- No literal begins with this character, in small letters: it is no digit, sign or quote. -/
def NoLiteral (c : Char) : Prop :=
  digitIn? 10 c = none ∧ c ≠ '0' ∧ c ≠ '+' ∧ c ≠ '-' ∧ c ≠ '\''

instance (c : Char) : Decidable (NoLiteral c) := inferInstanceAs (Decidable (_ ∧ _))

lemma parseMagnitude_of_noLiteral {c : Char} (hc : NoLiteral c) (rest : Text) :
    parseMagnitude (c :: rest) = .ok none := by
  obtain ⟨hdigit, hzero, -⟩ := hc
  have hbase : splitBase (c :: rest) = (10, c :: rest) := by
    rw [splitBase] <;> (intro digits h; simp [hzero] at h)
  have hdigits : digitsIn? 10 (c :: rest) = none := by
    simp [digitsIn?, List.mapM_cons, hdigit]
  simp only [parseMagnitude, hbase, hdigits]

lemma parseLiteral_of_noLiteral {t : Text} {c : Char} {rest : Text} (ht : t.trim = c :: rest)
    (hc : NoLiteral c.toLower) : parseLiteral t = .ok none := by
  have hne : ∀ d : Char, d.toLower = d → c.toLower ≠ d → c ≠ d := by
    rintro d hd hcd rfl
    exact hcd hd
  have hquote : c ≠ '\'' := hne _ (by decide) hc.2.2.2.2
  have hsign : splitSign (c :: rest) = (false, c :: rest) := by
    rw [splitSign]
    · rintro digits h
      exact hne '-' (by decide) hc.2.2.2.1 (by simp_all)
    · rintro digits h
      exact hne '+' (by decide) hc.2.2.1 (by simp_all)
  have hmagnitude : parseMagnitude (Text.asciiLower (c :: rest)) = .ok none :=
    parseMagnitude_of_noLiteral hc (Text.asciiLower rest)
  rw [parseLiteral, ht]
  split
  · simp_all
  · rw [parseSigned, hsign]
    simp only [hmagnitude]
    rfl

/-- The name of a register is no literal and does not begin with a bracket. -/
lemma noLiteral_of_name (r : Register) : ∃ c rest, r.name = c :: rest ∧ NoLiteral c ∧ c ≠ '[' := by
  cases r <;> exact ⟨_, _, rfl, by decide⟩

/-! ## One form at most -/

lemma parseLiteral_of_isBracketed (h : isBracketed token = true) :
    parseLiteral token.trim = .ok none := by
  obtain ⟨t, ht⟩ := isBracketed_iff.1 h
  exact parseLiteral_of_noLiteral (by rw [Text.trim_trim, ht]) (by decide)

lemma registerOf?_eq_some_iff {r : Register} :
    registerOf? token = some r ↔ token.trim.asciiLower = r.name :=
  Register.ofName?_eq_some_iff

/-- A token that names a register begins with a letter. -/
lemma exists_head_of_register {r : Register} (h : registerOf? token = some r) :
    ∃ c rest, token.trim = c :: rest ∧ NoLiteral c.toLower ∧ c.toLower ≠ '[' := by
  obtain ⟨d, name, hname, hno, hbracket⟩ := noLiteral_of_name r
  have hlower := registerOf?_eq_some_iff.1 h
  rw [hname, Text.asciiLower, List.map_eq_cons_iff] at hlower
  obtain ⟨c, rest, ht, rfl, -⟩ := hlower
  exact ⟨c, rest, ht, hno, hbracket⟩

lemma parseLiteral_of_register {r : Register} (h : registerOf? token = some r) :
    parseLiteral token.trim = .ok none := by
  obtain ⟨c, rest, ht, hno, -⟩ := exists_head_of_register h
  exact parseLiteral_of_noLiteral (by rw [Text.trim_trim, ht]) hno

lemma isBracketed_of_register {r : Register} (h : registerOf? token = some r) :
    isBracketed token = false := by
  obtain ⟨c, rest, ht, -, hbracket⟩ := exists_head_of_register h
  rw [← Bool.not_eq_true, isBracketed_iff]
  rintro ⟨t, ht'⟩
  rw [ht] at ht'
  cases ht'
  exact hbracket (by decide)

/-! ## Resolving -/

lemma map_eq_ok_iff {α β : Type} {r : Except Error α} {f : α → β} {b : β} :
    r.map f = .ok b ↔ ∃ a, r = .ok a ∧ f a = b := by
  cases r <;> simp [Except.map]

lemma bind_eq_ok_iff {α β : Type} {r : Except Error α} {f : α → Except Error β} {b : β} :
    r >>= f = .ok b ↔ ∃ a, r = .ok a ∧ f a = .ok b := by
  cases r with
  | ok a => exact ⟨fun h => ⟨a, rfl, h⟩, fun ⟨_, ha, hb⟩ => by cases ha; exact hb⟩
  | error e => exact ⟨nofun, fun ⟨_, ha, _⟩ => nomatch ha⟩

lemma addressOf_eq_ok_iff {a : Int} :
    addressOf token = .ok a ↔ parseLiteral (inner token.trim) = .ok (some a) := by
  rw [addressOf]
  rcases parseLiteral (inner token.trim) with e | _ | n
  · constructor <;> intro h <;> cases h
  · constructor <;> intro h <;> cases h
  · exact ⟨fun h => by cases h; rfl, fun h => by cases h; rfl⟩

lemma immediateOf_eq_ok_iff {n : Int} :
    immediateOf token = .ok n ↔ parseLiteral token.trim = .ok (some n) := by
  rw [immediateOf]
  rcases parseLiteral token.trim with e | _ | k
  · constructor <;> intro h <;> cases h
  · constructor <;> intro h <;> cases h
  · exact ⟨fun h => by cases h; rfl, fun h => by cases h; rfl⟩

lemma means_register_iff {r : Register} :
    Means token (.register r) ↔ registerOf? token = some r := by
  rw [registerOf?_eq_some_iff]
  exact ⟨fun h => by cases h; assumption, .register⟩

lemma means_immediate_iff {n : Int} : Means token (.immediate n) ↔ immediateOf token = .ok n := by
  rw [immediateOf_eq_ok_iff]
  exact ⟨fun h => by cases h; assumption, .immediate⟩

lemma means_memory_iff {a : Int} :
    Means token (.memory a) ↔ isBracketed token = true ∧ addressOf token = .ok a := by
  rw [addressOf_eq_ok_iff]
  constructor
  · rintro (_ | _ | ⟨brackets, read⟩)
    exact ⟨isBracketed_iff.2 ⟨_, brackets⟩, by rw [brackets, inner_brackets, read]⟩
  · rintro ⟨hbracketed, read⟩
    obtain ⟨t, ht⟩ := isBracketed_iff.1 hbracketed
    rw [ht, inner_brackets] at read
    exact .memory ht read

lemma means_of_resolve {o : Operand} (h : resolve token = .ok o) : Means token o := by
  rw [resolve] at h
  split at h
  next hbracketed =>
    obtain ⟨a, ha, rfl⟩ := map_eq_ok_iff.1 h
    exact means_memory_iff.2 ⟨hbracketed, ha⟩
  next =>
    split at h
    next r hr =>
      cases h
      exact means_register_iff.2 hr
    next =>
      obtain ⟨n, hn, rfl⟩ := map_eq_ok_iff.1 h
      exact means_immediate_iff.2 hn

/-- What is read as a literal has neither of the other forms. -/
lemma only_literal {n : Int} (h : parseLiteral token.trim = .ok (some n)) :
    isBracketed token = false ∧ registerOf? token = none := by
  rw [← Bool.not_eq_true, Option.eq_none_iff_forall_ne_some]
  constructor
  · intro hb
    rw [parseLiteral_of_isBracketed hb] at h
    cases h
  · intro r hr
    rw [parseLiteral_of_register hr] at h
    cases h

/-- **A token is resolved to what it means.** -/
theorem resolve_eq_ok_iff {o : Operand} : resolve token = .ok o ↔ Means token o := by
  refine ⟨means_of_resolve, fun h => ?_⟩
  rw [resolve]
  cases o with
  | register r =>
      have hr := means_register_iff.1 h
      simp only [isBracketed_of_register hr, hr, Bool.false_eq_true, if_false]
  | immediate n =>
      have hn := means_immediate_iff.1 h
      obtain ⟨hbracketed, hregister⟩ := only_literal (immediateOf_eq_ok_iff.1 hn)
      simp only [hbracketed, hregister, Bool.false_eq_true, if_false, map_eq_ok_iff]
      exact ⟨n, hn, rfl⟩
  | memory a =>
      obtain ⟨hbracketed, ha⟩ := means_memory_iff.1 h
      simp only [hbracketed, if_true, map_eq_ok_iff]
      exact ⟨a, ha, rfl⟩

/-- No token means two things. -/
lemma Means.unique {o o' : Operand} (h : Means token o) (h' : Means token o') : o = o' :=
  Except.ok.inj ((resolve_eq_ok_iff.2 h).symm.trans (resolve_eq_ok_iff.2 h'))

/-- Where only a register will do, a token is resolved to the register it means. -/
theorem resolveRegister_eq_ok_iff {r : Register} :
    resolveRegister token = .ok r ↔ Means token (.register r) := by
  rw [means_register_iff, resolveRegister]
  cases registerOf? token <;> simp

end Asm16

import Asm16.Program.Basic
import Asm16.Program.Operation
import Asm16.Proofs.Step
import Mathlib.Data.List.Induction
import Mathlib.Data.List.Nodup
import Mathlib.Tactic.SplitIfs

/-!
# Labels of a program

The table of labels is made in one pass over the lines and instructions are decoded in another.  The
two agree on which lines are labels: those that hold no instruction although there is text on them.

* `Defines` — a line defines a label, as decoding has it; `labelOf?_eq_some_iff` says that loading has
  it so too.
* `LabelTable.Lists` — a table has the labels of some lines: each with the last line that defines
  it, in the order of the first.
* `LabelTable.Again` — the definitions of labels that an earlier line defines too.
* `LabelTable.lists_ofLines`, `LabelTable.exists_again` — the table of some lines, and the warnings that
  are logged when it is made.

Both are proved line by line, from the front: what holds of some lines is shown to hold when there is
one more.
-/

namespace Asm16

/-! ## Label lines -/

/-- The line at this index holds no instruction although there is text on it, and that text, in small
letters and without the colon at its end, is the name. -/
def Defines (lines : List Text) (i : Nat) (name : Text) : Prop :=
  ∃ line, lines[i]? = some line ∧ Instruction.decode line = .ok none ∧ stripComment line ≠ [] ∧
    name = Text.lower (Text.trim (stripComment line).dropLast)

/-- **Loading and decoding take the same lines for labels.** -/
lemma labelOf?_eq_some_iff {line name : Text} :
    labelOf? line = some name ↔ Instruction.decode line = .ok none ∧ stripComment line ≠ [] ∧
      name = Text.lower (Text.trim (stripComment line).dropLast) := by
  simp only [labelOf?, Instruction.decode, Bool.or_eq_true, List.isEmpty_iff]
  by_cases hlabel : isLabel (stripComment line) = true
  · have htext : stripComment line ≠ [] := by
      intro h
      rw [h] at hlabel
      cases hlabel
    simp only [hlabel, or_true, if_true, htext, Option.some.injEq, ne_eq, not_false_eq_true,
      true_and]
    exact eq_comm
  · simp only [hlabel, or_false, if_false, reduceCtorEq, false_iff]
    rintro ⟨hdecode, htext, -⟩
    rw [if_neg htext] at hdecode
    cases hparse : Instruction.parse (stripComment line) <;> rw [hparse] at hdecode <;> cases hdecode

lemma defines_iff {lines : List Text} {i : Nat} {name : Text} :
    Defines lines i name ↔ ∃ line, lines[i]? = some line ∧ labelOf? line = some name := by
  simp only [Defines, labelOf?_eq_some_iff]

lemma Defines.lt_length {lines : List Text} {i : Nat} {name : Text} (h : Defines lines i name) :
    i < lines.length := by
  obtain ⟨line, hline, -⟩ := h
  exact (List.getElem?_eq_some_iff.1 hline).1

/-- One more line defines what it defines, and the others what they did. -/
lemma defines_concat {lines : List Text} {line name : Text} {i : Nat} :
    Defines (lines ++ [line]) i name ↔
      Defines lines i name ∨ i = lines.length ∧ labelOf? line = some name := by
  simp only [defines_iff]
  rcases Nat.lt_trichotomy i lines.length with hlt | rfl | hgt
  · simp [List.getElem?_append_left hlt, Nat.ne_of_lt hlt]
  · simp
  · have hpast : (lines ++ [line])[i]? = none := by simp; omega
    have hpast' : lines[i]? = none := by simp; omega
    simp [hpast, hpast', Nat.ne_of_gt hgt]

/-- A line is no label if an instruction is carried out for it, or if it fails. -/
lemma executeLine_of_label {line name : Text} (h : labelOf? line = some name) (m : Machine) :
    Machine.executeLine line m = .ok none m := by
  rw [Machine.executeLine, (labelOf?_eq_some_iff.1 h).1]
  rfl

namespace LabelTable

variable {table : LabelTable} {lines : List Text} {line name other : Text} {index i : Nat}

/-! ## Tables -/

/-- The names in a table, in their order. -/
def names (table : LabelTable) : List Text := table.map Prod.fst

lemma defines_eq_true_iff : table.defines name = true ↔ name ∈ table.names := by
  simp [defines, names]

/-- A name that is defined keeps its place, and a new one comes last. -/
lemma names_define (table : LabelTable) (name : Text) (index : Nat) :
    (table.define name index).names =
      if name ∈ table.names then table.names else table.names ++ [name] := by
  induction table with
  | nil => rfl
  | cons entry rest ih =>
      simp only [names, List.map_cons, List.mem_cons] at ih ⊢
      rw [define]
      by_cases hentry : entry.1 = name
      · simp [hentry]
      · rw [if_neg hentry, List.map_cons, ih]
        split_ifs <;> simp_all [Ne.symm hentry]

/-- A definition replaces that of its own name, and no other. -/
lemma mem_define_iff (h : table.names.Nodup) : (other, i) ∈ table.define name index ↔
    other = name ∧ i = index ∨ other ≠ name ∧ (other, i) ∈ table := by
  induction table with
  | nil => simp [define]
  | cons entry rest ih =>
      rw [names, List.map_cons, List.nodup_cons] at h
      rw [define]
      split_ifs with hentry
      · -- no other entry has the name
        have hrest : (name, i) ∉ rest := fun hmem => h.1 (hentry ▸ List.mem_map_of_mem hmem)
        by_cases hother : other = name
        · simp [hother, hrest]
        · have hne : (other, i) ≠ entry := fun he => hother (by rw [← hentry, ← he])
          simp [hother, hne]
      · rw [List.mem_cons, ih h.2, List.mem_cons]
        by_cases hother : other = name
        · have hne : (other, i) ≠ entry := fun he => hentry (by rw [← he, hother])
          simp [hother, hother ▸ hne]
        · simp [hother]

/-- All definitions of the second name come behind one of the first. -/
def Precedes (lines : List Text) (name other : Text) : Prop :=
  ∃ i, Defines lines i name ∧ ∀ j, Defines lines j other → i < j

lemma Precedes.ne (h : Precedes lines name other) : name ≠ other := by
  rintro rfl
  obtain ⟨i, hi, hbefore⟩ := h
  exact Nat.lt_irrefl i (hbefore i hi)

/-- The table has the labels of the lines: each name once, with the last line that defines it, in
the order of the first lines that do. -/
structure Lists (lines : List Text) (table : LabelTable) : Prop where
  named : ∀ name, name ∈ table.names ↔ ∃ i, Defines lines i name
  last : ∀ name i, (name, i) ∈ table ↔ Defines lines i name ∧ ∀ j, Defines lines j name → j ≤ i
  ordered : table.names.Pairwise (Precedes lines)

lemma Lists.nodup (h : Lists lines table) : table.names.Nodup := h.ordered.imp Precedes.ne

lemma lists_nil : Lists [] [] where
  named name := by simp [names, Defines]
  last name i := by simp [Defines]
  ordered := .nil

lemma Precedes.concat (h : Precedes lines name other) (line : Text) :
    Precedes (lines ++ [line]) name other := by
  obtain ⟨i, hi, hbefore⟩ := h
  refine ⟨i, defines_concat.2 (.inl hi), fun j hj => ?_⟩
  rcases defines_concat.1 hj with hj | ⟨rfl, -⟩
  · exact hbefore j hj
  · exact hi.lt_length

/-- A line that defines no label leaves the table as it is. -/
lemma Lists.concat_of_none (h : Lists lines table) (hline : labelOf? line = none) :
    Lists (lines ++ [line]) table := by
  have hdefines : ∀ i name, Defines (lines ++ [line]) i name ↔ Defines lines i name := by
    simp [defines_concat, hline]
  refine ⟨fun name => ?_, fun name i => ?_, h.ordered.imp (Precedes.concat · line)⟩
  · simp only [hdefines, h.named]
  · simp only [hdefines, h.last]

/-- **One more line**: its definition is the last of its name, and comes behind all others. -/
lemma Lists.concat_of_some (h : Lists lines table) (hline : labelOf? line = some name) :
    Lists (lines ++ [line]) (table.define name lines.length) := by
  have hself : Defines (lines ++ [line]) lines.length name := defines_concat.2 (.inr ⟨rfl, hline⟩)
  have hothers : ∀ {other i}, other ≠ name →
      (Defines (lines ++ [line]) i other ↔ Defines lines i other) := by
    intro other i hother
    simp [defines_concat, hline, Ne.symm hother]
  have hnames := names_define table name lines.length
  refine ⟨fun other => ?_, fun other i => ?_, ?_⟩
  · by_cases hother : other = name
    · rw [hnames, hother]
      refine iff_of_true ?_ ⟨_, hself⟩
      split_ifs <;> simp_all
    · simp only [hothers hother, ← h.named, hnames]
      split_ifs <;> simp [hother]
  · rw [mem_define_iff h.nodup]
    by_cases hother : other = name
    · simp only [hother, true_and, ne_eq, not_true_eq_false, false_and, or_false]
      constructor
      · rintro rfl
        refine ⟨hself, fun j hj => ?_⟩
        have hlt := hj.lt_length
        rw [List.length_append, List.length_singleton] at hlt
        omega
      · rintro ⟨hi, hlast⟩
        have hlt := hi.lt_length
        have hle := hlast _ hself
        rw [List.length_append, List.length_singleton] at hlt
        omega
    · simp only [hother, false_and, ne_eq, not_false_eq_true, true_and, false_or, hothers hother,
        h.last]
  · rw [hnames]
    have hordered := h.ordered.imp (Precedes.concat · line)
    split_ifs with hmem
    · exact hordered
    · refine List.pairwise_append.2 ⟨hordered, List.pairwise_singleton _ _, fun other hother => ?_⟩
      rintro _ hlast
      obtain rfl := List.mem_singleton.1 hlast
      obtain ⟨i, hi⟩ := (h.named other).1 hother
      refine ⟨i, defines_concat.2 (.inl hi), fun j hj => ?_⟩
      rcases defines_concat.1 hj with hj | ⟨rfl, -⟩
      · exact absurd ((h.named _).2 ⟨j, hj⟩) hmem
      · exact hi.lt_length

/-! ## The table of some lines -/

lemma definitions_concat (lines : List Text) (line : Text) :
    definitions 0 (lines ++ [line]) =
      definitions 0 lines ++ ((labelOf? line).map fun name => (name, lines.length)).toList := by
  simp only [definitions, List.zipIdx_append, List.filterMap_append, List.zipIdx_singleton]
  cases h : labelOf? line <;> simp [h]

lemma ofLines_concat_of_none (lines : List Text) (hline : labelOf? line = none) :
    ofLines (lines ++ [line]) = ofLines lines := by
  rw [ofLines, definitions_concat, hline]
  simp [ofLines]

lemma ofLines_concat_of_some (lines : List Text) (hline : labelOf? line = some name) :
    ofLines (lines ++ [line]) = (ofLines lines).define name lines.length := by
  rw [ofLines, definitions_concat, hline]
  simp [ofLines]

/-- **The table of some lines lists their labels.** -/
theorem lists_ofLines (lines : List Text) : Lists lines (ofLines lines) := by
  induction lines using List.reverseRecOn with
  | nil => exact lists_nil
  | append_singleton lines line ih =>
      cases hline : labelOf? line with
      | none =>
          rw [ofLines_concat_of_none lines hline]
          exact ih.concat_of_none hline
      | some name =>
          rw [ofLines_concat_of_some lines hline]
          exact ih.concat_of_some hline

/-- While a table is made, the line that was reached last is in it just if it defines a label. -/
lemma mem_ofLines_take_iff : (∃ name, (name, i) ∈ ofLines (lines.take (i + 1))) ↔
    ∃ name, Defines lines i name := by
  have htake : ∀ {j name}, Defines (lines.take (i + 1)) j name ↔
      j ≤ i ∧ Defines lines j name := by
    intro j name
    simp only [Defines, List.getElem?_take]
    split_ifs with hj
    · simp [Nat.le_of_lt_succ hj]
    · simp; omega
  simp only [(lists_ofLines _).last, htake]
  constructor
  · rintro ⟨name, ⟨-, h⟩, -⟩
    exact ⟨name, h⟩
  · rintro ⟨name, h⟩
    exact ⟨name, ⟨Nat.le_refl i, h⟩, fun j hj => hj.1⟩

/-! ## Warnings -/

/-- The warning about a label that is defined anew. -/
def redefinition (definition : Text × Nat) : Entry :=
  ⟨.warning, text "Label " ++ definition.1 ++ text " redefined on line " ++
    decimal (definition.2 + 1)⟩

/-- These are the definitions of labels that an earlier line defines too, in the order of the lines. -/
structure Again (lines : List Text) (again : List (Text × Nat)) : Prop where
  sorted : again.Pairwise fun d e => d.2 < e.2
  mem : ∀ name i, (name, i) ∈ again ↔ Defines lines i name ∧ ∃ j, j < i ∧ Defines lines j name

variable {again : List (Text × Nat)}

/-- What is defined anew once there is one more line. -/
lemma again_concat_iff : (Defines (lines ++ [line]) i name ∧
      ∃ j, j < i ∧ Defines (lines ++ [line]) j name) ↔
    (Defines lines i name ∧ ∃ j, j < i ∧ Defines lines j name) ∨
      (i = lines.length ∧ labelOf? line = some name) ∧ ∃ j, Defines lines j name := by
  simp only [defines_concat]
  constructor
  · rintro ⟨hi | ⟨rfl, hline⟩, j, hj, hdefines | ⟨rfl, -⟩⟩
    · exact .inl ⟨hi, j, hj, hdefines⟩
    · exact absurd hi.lt_length (Nat.lt_asymm hj)
    · exact .inr ⟨⟨rfl, hline⟩, j, hdefines⟩
    · exact absurd hj (Nat.lt_irrefl _)
  · rintro (⟨hi, j, hj, hdefines⟩ | ⟨⟨rfl, hline⟩, j, hdefines⟩)
    · exact ⟨.inl hi, j, hj, .inl hdefines⟩
    · exact ⟨.inr ⟨rfl, hline⟩, j, hdefines.lt_length, .inl hdefines⟩

lemma Again.concat_of_new (h : Again lines again)
    (hnew : ∀ name, labelOf? line = some name → ¬ ∃ j, Defines lines j name) :
    Again (lines ++ [line]) again := by
  refine ⟨h.sorted, fun name i => ?_⟩
  rw [h.mem, again_concat_iff, or_iff_left]
  rintro ⟨⟨-, hline⟩, hknown⟩
  exact hnew name hline hknown

lemma Again.concat_of_known (h : Again lines again) (hline : labelOf? line = some name)
    (hknown : ∃ j, Defines lines j name) :
    Again (lines ++ [line]) (again ++ [(name, lines.length)]) := by
  refine ⟨List.pairwise_append.2 ⟨h.sorted, List.pairwise_singleton _ _, fun d hd e he => ?_⟩,
    fun other i => ?_⟩
  · obtain rfl := List.mem_singleton.1 he
    exact ((h.mem d.1 d.2).1 hd).1.lt_length
  · rw [List.mem_append, h.mem, again_concat_iff, List.mem_singleton, Prod.mk.injEq, hline,
      Option.some.injEq]
    constructor
    · rintro (hbefore | ⟨rfl, rfl⟩)
      · exact .inl hbefore
      · exact .inr ⟨⟨rfl, rfl⟩, hknown⟩
    · rintro (hbefore | ⟨⟨rfl, rfl⟩, -⟩)
      · exact .inl hbefore
      · exact .inr ⟨rfl, rfl⟩

def warnings (log : Log) : Log := log.filter fun entry => entry.level = .warning

lemma log_cons (table : LabelTable) (d : Text × Nat) (rest : List (Text × Nat)) :
    log table (d :: rest) = log table [d] ++ log (table.define d.1 d.2) rest := by
  obtain ⟨name, index⟩ := d
  rw [log, log, log]
  exact (List.append_assoc _ [_] _).symm

/-- What further definitions leave in the log depends on the table that they find. -/
lemma log_append (rest : List (Text × Nat)) : ∀ (definitions : List (Text × Nat)) (table : LabelTable),
    log table (definitions ++ rest) =
      log table definitions ++
        log (definitions.foldl (fun (table : LabelTable) d => table.define d.1 d.2) table) rest
  | [], _ => rfl
  | d :: definitions, table => by
      rw [List.cons_append, log_cons, log_append rest definitions, log_cons table d definitions,
        List.append_assoc, List.foldl_cons]

lemma warnings_of_one (table : LabelTable) (name : Text) (index : Nat) :
    warnings (log table [(name, index)]) =
      if name ∈ table.names then [redefinition (name, index)] else [] := by
  simp only [log, ← defines_eq_true_iff]
  split_ifs <;> rfl

/-- The warnings of one more line. -/
lemma warnings_concat (lines : List Text) (line : Text) :
    warnings (log [] (definitions 0 (lines ++ [line]))) =
      warnings (log [] (definitions 0 lines)) ++
        match labelOf? line with
        | none => []
        | some name =>
          if name ∈ (ofLines lines).names then [redefinition (name, lines.length)] else [] := by
  rw [definitions_concat]
  cases labelOf? line with
  | none => simp
  | some name =>
      have htable : (definitions 0 lines).foldl
          (fun (table : LabelTable) d => table.define d.1 d.2) [] = ofLines lines := rfl
      rw [Option.map_some, Option.toList_some, log_append, htable, warnings, List.filter_append]
      exact congrArg _ (warnings_of_one _ _ _)

/-- **What making the table logs warns of the labels that are defined anew**, once for each. -/
theorem exists_again (lines : List Text) : ∃ again, Again lines again ∧
    warnings (log [] (definitions 0 lines)) = again.map redefinition := by
  induction lines using List.reverseRecOn with
  | nil => exact ⟨[], ⟨.nil, by simp [Defines]⟩, rfl⟩
  | append_singleton lines line ih =>
      obtain ⟨again, hagain, hwarnings⟩ := ih
      rw [warnings_concat, hwarnings]
      cases hline : labelOf? line with
      | none => exact ⟨again, hagain.concat_of_new (by simp [hline]), List.append_nil _⟩
      | some name =>
          have hnamed := (lists_ofLines lines).named name
          simp only
          split_ifs with hknown
          · refine ⟨_, hagain.concat_of_known hline (hnamed.1 hknown), ?_⟩
            rw [List.map_append, List.map_singleton]
          · refine ⟨again, hagain.concat_of_new fun other hother => ?_, List.append_nil _⟩
            rw [hline] at hother
            cases hother
            exact fun h => hknown (hnamed.2 h)

end LabelTable

end Asm16

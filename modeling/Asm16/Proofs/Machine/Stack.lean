import Asm16.Proofs.Machine.Effect
import Mathlib.Data.List.Induction
import Mathlib.Data.List.Infix

/-!
# Last in, first out

Words are pushed to memory below the stack pointer, which wraps around at the end of the first 64
KiB while addresses do not.  A stack of up to 32768 words still lies in disjoint cells, wherever it
starts, so every pop delivers the word of its matching push.

* `Operation.depth` — pushes less pops.
* `Operation.Balanced` — what may stand between a push and its matching pop; `exists_matching_push`
  finds the push to a pop.
* `Machine.Stacked` — the invariant: the stack pointer has moved by two for every word, and the
  words lie where they were pushed.  `push`, `pop` and `spare` keep it step by step, `carryOut` over
  a run.
* `Machine.StackRun` — what is asked of a run.
* `Machine.pops_what_was_pushed` — the result.
-/

namespace Asm16

/-! ## Depth -/

namespace Operation

/-- By how many words the operation deepens the stack. -/
def rise : Operation → Int
  | .push _ => 1
  | .pop _ => -1
  | _ => 0

@[simp] lemma rise_push (src : Text) : (push src).rise = 1 := rfl

@[simp] lemma rise_pop (dest : Text) : (pop dest).rise = -1 := rfl

/-- Pushes less pops. -/
def depth : List Operation → Int
  | [] => 0
  | o :: operations => o.rise + depth operations

@[simp] lemma depth_nil : depth [] = 0 := rfl

@[simp] lemma depth_cons (o : Operation) (operations : List Operation) :
    depth (o :: operations) = o.rise + depth operations := rfl

@[simp] lemma depth_append (front back : List Operation) :
    depth (front ++ back) = depth front + depth back := by
  induction front with
  | nil => simp
  | cons o front ih => rw [List.cons_append, depth_cons, depth_cons, ih, Int.add_assoc]

lemma depth_snoc (operations : List Operation) (o : Operation) :
    depth (operations ++ [o]) = depth operations + o.rise := by simp

/-- A push is the only operation that deepens the stack, and it does so by one word. -/
lemma eq_push_of_rise_pos {o : Operation} (h : 0 < o.rise) : ∃ src, o = .push src ∧ o.rise = 1 := by
  cases o with
  | push src => exact ⟨src, rfl, rfl⟩
  | _ => simp [rise] at h

/-- Pops as much as it pushes, and never more than it has pushed so far. -/
structure Balanced (operations : List Operation) : Prop where
  sane : ∀ front, front <+: operations → 0 ≤ depth front
  settled : depth operations = 0

lemma balanced_iff {operations : List Operation} : Balanced operations ↔
    (∀ front ∈ operations.inits, 0 ≤ depth front) ∧ depth operations = 0 := by
  simp only [List.mem_inits]
  exact ⟨fun h => ⟨h.sane, h.settled⟩, fun h => ⟨h.1, h.2⟩⟩

instance (operations : List Operation) : Decidable (Balanced operations) :=
  decidable_of_iff' _ balanced_iff

/-- The last push that has led beyond a depth: from there on the stack was never less deep. -/
lemma exists_last_push {d : Int} (hd : 0 ≤ d) (operations : List Operation)
    (h : d < depth operations) :
    ∃ before src inner, operations = before ++ .push src :: inner ∧ depth before = d ∧
      ∀ front, front <+: inner → 0 ≤ depth front := by
  induction operations using List.reverseRecOn with
  | nil =>
      rw [depth_nil] at h
      omega
  | append_singleton operations o ih =>
      by_cases hbefore : d < depth operations
      · -- the push lies further back
        obtain ⟨before, src, inner, rfl, hdepth, hinner⟩ := ih hbefore
        refine ⟨before, src, inner ++ [o], by simp, hdepth, fun front hfront => ?_⟩
        rcases List.prefix_concat_iff.1 hfront with rfl | hfront
        · simp only [depth_append, depth_cons, depth_nil, rise_push] at h hdepth ⊢
          omega
        · exact hinner front hfront
      · -- the last operation is the push
        rw [depth_snoc] at h
        obtain ⟨src, rfl, hrise⟩ := eq_push_of_rise_pos (o := o) (by omega)
        refine ⟨operations, src, [], rfl, by omega, fun front hfront => ?_⟩
        have hnone : depth front = 0 := by rw [List.prefix_nil.1 hfront, depth_nil]
        exact Int.le_of_eq hnone.symm

/-- Where the stack is not empty a pop has a matching push. -/
lemma exists_matching_push {operations : List Operation} (h : 0 < depth operations) :
    ∃ before src inner, operations = before ++ .push src :: inner ∧ Balanced inner := by
  obtain ⟨before, src, inner, rfl, hdepth, hinner⟩ :=
    exists_last_push (d := depth operations - 1) (by omega) operations (by omega)
  refine ⟨before, src, inner, rfl, hinner, ?_⟩
  simp only [depth_append, depth_cons, rise_push] at hdepth
  omega

/-- The operation sets registers only, and not the stack pointer. -/
inductive SparesStack : Operation → Prop
  | mov {dest src : Text} {r : Register} (hdest : Means dest (.register r)) (hr : r ≠ .sp) :
    SparesStack (.mov dest src)
  | add {dest src : Text} {r : Register} (hdest : Means dest (.register r)) (hr : r ≠ .sp) :
    SparesStack (.add dest src)
  | sub {dest src : Text} {r : Register} (hdest : Means dest (.register r)) (hr : r ≠ .sp) :
    SparesStack (.sub dest src)
  | mul {src : Text} : SparesStack (.mul src)
  | div {src : Text} : SparesStack (.div src)

/-- The operation pushes a word, pops one to a register other than the stack pointer, or leaves the
stack alone. -/
inductive KeepsStack : Operation → Prop
  | push {src : Text} (hsrc : MeansValue src) : KeepsStack (.push src)
  | pop {dest : Text} {r : Register} (hdest : Means dest (.register r)) (hr : r ≠ .sp) :
    KeepsStack (.pop dest)
  | spare {o : Operation} (h : SparesStack o) : KeepsStack o

lemma SparesStack.rise_eq_zero {o : Operation} (h : SparesStack o) : o.rise = 0 := by
  cases h <;> rfl

lemma KeepsStack.source {src : Text} (h : KeepsStack (.push src)) : MeansValue src := by
  cases h with
  | push hsrc => exact hsrc
  | spare ho => cases ho

lemma KeepsStack.ne_sp {dest : Text} {r : Register} (h : KeepsStack (.pop dest))
    (hdest : Means dest (.register r)) : r ≠ .sp := by
  cases h with
  | pop hdest' hr =>
      cases hdest.unique hdest'
      exact hr
  | spare ho => cases ho

end Operation

/-! ## Words on the stack -/

namespace Machine

open Operation (depth rise_push SparesStack KeepsStack Balanced)

/-- Where a stack that starts at `start` has its `k`-th word, and its pointer after `k` words. -/
def slot (start : Int) (k : Nat) : Int := (start - 2 * k) % 65536

/-- The words lie on the stack, the last one that was pushed first. -/
def Lying (m : Machine) (start : Int) : List Int → Prop
  | [] => True
  | n :: saved => m.wordAt (slot start (saved.length + 1)) = n % 65536 ∧ m.Lying start saved

/-- The stack began at `start` and holds these words. -/
structure Stacked (start : Int) (saved : List Int) (m : Machine) : Prop where
  unwatched : m.memory.subscribed = []
  roomy : 65537 ≤ m.memory.cells.size
  pointer : m.valueAt .sp = slot start saved.length
  words : m.Lying start saved

variable {m m' : Machine} {start : Int} {saved : List Int}

lemma wordAt_withWord_self (a n : Int) : (m.withWord a n).wordAt a = n % 65536 := by
  have hlow : (m.withWord a n).memory.cells.byte a.toNat = lowByte n := by
    simp only [withWord, Memory.put]
    rw [Cells.byte_put_of_ne _ (by omega), Cells.byte_put_self]
  have hhigh : (m.withWord a n).memory.cells.byte (a.toNat + 1) = highByte n := by
    simp only [withWord, Memory.put, Cells.byte_put_self]
  rw [wordAt, Cells.word, hlow, hhigh, wordOf_low_high, wordOfInt, BitVec.toNat_ofInt]
  omega

/-- A store leaves every word that lies two cells away. -/
lemma wordAt_withWord_of_far {a b : Int} (ha : 0 ≤ a) (hb : 0 ≤ b) (h : a + 2 ≤ b ∨ b + 2 ≤ a)
    (n : Int) : (m.withWord a n).wordAt b = m.wordAt b := by
  have hbyte : ∀ c : Nat, c ≠ a.toNat → c ≠ a.toNat + 1 →
      (m.withWord a n).memory.cells.byte c = m.memory.cells.byte c := by
    intro c hlow hhigh
    simp only [withWord, Memory.put]
    rw [Cells.byte_put_of_ne _ hhigh.symm, Cells.byte_put_of_ne _ hlow.symm]
  rw [wordAt, wordAt, Cells.word, Cells.word, hbyte _ (by omega) (by omega),
    hbyte _ (by omega) (by omega)]

lemma slot_nonneg (start : Int) (k : Nat) : 0 ≤ slot start k := by
  rw [slot]
  omega

/-- Up to 32768 words lie in disjoint cells, although the addresses wrap around. -/
lemma slots_far (start : Int) {j k : Nat} (hjk : j < k) (hj : 1 ≤ j) (hk : k ≤ 32768) :
    slot start k + 2 ≤ slot start j ∨ slot start j + 2 ≤ slot start k := by
  rw [slot, slot]
  omega

/-- What lies on the stack stays there while memory does not change. -/
lemma Lying.of_memory (hmemory : m'.memory = m.memory) :
    ∀ {saved : List Int}, m.Lying start saved → m'.Lying start saved
  | [], _ => trivial
  | _ :: _, ⟨hword, hrest⟩ => by
      refine ⟨?_, hrest.of_memory hmemory⟩
      rw [wordAt, hmemory]
      exact hword

lemma Lying.put (h : m.Lying start saved) (r : Register) (n : Int) :
    (m.put r n).Lying start saved := by
  have hmemory : (m.put r n).memory = m.memory := rfl
  exact h.of_memory hmemory

/-- It stays there as well when a word is stored behind it. -/
lemma Lying.withWord {k : Nat} (hk : k ≤ 32768) (n : Int) :
    ∀ {saved : List Int}, saved.length < k → m.Lying start saved →
      (m.withWord (slot start k) n).Lying start saved
  | [], _, _ => trivial
  | _ :: _, hlength, ⟨hword, hrest⟩ => by
      refine ⟨?_, hrest.withWord hk n (Nat.lt_of_succ_lt hlength)⟩
      exact (wordAt_withWord_of_far (slot_nonneg _ _) (slot_nonneg _ _)
        (slots_far start hlength (Nat.succ_pos _) hk) n).trans hword

/-- A machine with an empty stack. -/
lemma Stacked.empty (hwatchers : m.memory.subscribed = []) (hsize : 65537 ≤ m.memory.cells.size) :
    Stacked (m.valueAt .sp) [] m := by
  refine ⟨hwatchers, hsize, ?_, trivial⟩
  have hnonneg := m.valueAt_nonneg .sp
  have hlt := m.valueAt_lt .sp
  rw [slot, List.length_nil]
  omega

/-! ## Step by step -/

namespace Stacked

/-- The stack pointer is a word, so what it points at is in reach. -/
lemma holds_slot (h : Stacked start saved m) (k : Nat) : m.Holds (slot start k) := by
  have hroomy := h.roomy
  rw [Holds, slot]
  omega

/-- What touches neither memory nor the stack pointer. -/
lemma of_eq (h : Stacked start saved m) (hmemory : m'.memory = m.memory)
    (hpointer : m'.valueAt .sp = m.valueAt .sp) : Stacked start saved m' :=
  ⟨by rw [hmemory]; exact h.unwatched, by rw [hmemory]; exact h.roomy,
    hpointer.trans h.pointer, h.words.of_memory hmemory⟩

/-- **A push puts the value of its source on top.** -/
lemma push (h : Stacked start saved m) (hroom : saved.length < 32768) {src : Text} {n : Int}
    (hsrc : m.HasValue src n) :
    ∃ m', execute (Operation.push src).source m = .ok () m' ∧ Stacked start (n :: saved) m' := by
  have hto : m.pushedTo = slot start (saved.length + 1) := by
    rw [pushedTo, h.pointer, slot, slot]
    omega
  have hunwatched : (m.put .sp (m.valueAt .sp - 2)).memory.subscribed = [] := h.unwatched
  have hfits : (m.put .sp (m.valueAt .sp - 2)).Holds m.pushedTo := hto ▸ h.holds_slot _
  have hstored := (Operation.save_eq_ok_iff (n := n) hunwatched).2 ⟨hfits, rfl⟩
  refine ⟨_, execute_source_eq_ok_iff.2 (.push hsrc hstored), h.unwatched, h.roomy, ?_, ?_⟩
  · exact (valueAt_put_self m .sp _).trans hto
  · rw [hto]
    exact ⟨wordAt_withWord_self _ _, (h.words.put _ _).withWord hroom n (Nat.lt_succ_self _)⟩

/-- **A pop delivers the word on top.** -/
lemma pop {n : Int} (h : Stacked start (n :: saved) m) {dest : Text} {r : Register}
    (hdest : Means dest (.register r)) (hr : r ≠ .sp) :
    ∃ m', execute (Operation.pop dest).source m = .ok () m' ∧ Stacked start saved m' ∧
      m'.valueAt r = n % 65536 := by
  have hpointer : m.valueAt .sp = slot start (saved.length + 1) := h.pointer
  have holds : m.Holds (m.valueAt .sp) := hpointer ▸ h.holds_slot _
  refine ⟨_, execute_source_eq_ok_iff.2 (.pop hdest holds), ⟨h.unwatched, h.roomy, ?_, ?_⟩, ?_⟩
  · rw [valueAt_put_of_ne _ hr.symm, valueAt_put_self, hpointer, slot, slot]
    omega
  · exact (h.words.2.put _ _).put _ _
  · rw [valueAt_put_self, hpointer, h.words.1, Int.emod_emod]

lemma put (h : Stacked start saved m) {r : Register} (hr : r ≠ .sp) (n : Int) :
    Stacked start saved (m.put r n) := h.of_eq rfl (valueAt_put_of_ne m hr.symm n)

lemma combined (h : Stacked start saved m) {r : Register} (hr : r ≠ .sp) (n : Int) (adding : Bool) :
    Stacked start saved (m.combined r n adding) := (h.put hr _).of_eq rfl rfl

/-- **What spares the stack leaves it as it is.** -/
lemma spare (h : Stacked start saved m) {o : Operation} (ho : SparesStack o)
    (hdone : execute o.source m = .ok () m') : Stacked start saved m' := by
  cases execute_source_eq_ok_iff.1 hdone with
  | move hdest hsrc =>
      cases ho with
      | mov hdest' hr =>
          cases hdest.unique hdest'
          exact h.put hr _
  | load hdest hsrc holds =>
      cases ho with
      | mov hdest' hr =>
          cases hdest.unique hdest'
          exact h.put hr _
  | store hdest =>
      cases ho with
      | mov hdest' => cases hdest.unique hdest'
  | push => cases ho
  | pop => cases ho
  | add hdest hsrc =>
      cases ho with
      | add hdest' hr =>
          cases hdest.unique hdest'
          exact h.combined hr _ true
  | sub hdest hsrc =>
      cases ho with
      | sub hdest' hr =>
          cases hdest.unique hdest'
          exact h.combined hr _ false
  | mul => exact (h.put (r := .ax) (by decide) _).of_eq rfl rfl
  | div => exact (h.put (r := .ax) (by decide) _).put (r := .dx) (by decide) _

end Stacked

/-- Neither a push nor a pop sets a flag. -/
lemma flags_of_rise {o : Operation} (ho : o.rise ≠ 0) (hwatchers : m.memory.subscribed = [])
    (hdone : execute o.source m = .ok () m') : m'.flags = m.flags := by
  cases execute_source_eq_ok_iff.1 hdone with
  | push hsrc hstored =>
      obtain ⟨-, rfl⟩ := (Operation.save_eq_ok_iff
        (m := m.put .sp (m.valueAt .sp - 2)) hwatchers).1 hstored
      rfl
  | pop => rfl
  | _ => exact absurd rfl ho

/-! ## Runs -/

/-- Carry out one operation after the other. -/
def carryOut (operations : List Operation) : Step Machine Unit :=
  operations.forM fun o => execute o.source

lemma carryOut_append_eq_ok_iff {front back : List Operation} :
    carryOut (front ++ back) m = .ok () m' ↔
      ∃ m₁, carryOut front m = .ok () m₁ ∧ carryOut back m₁ = .ok () m' := by
  rw [carryOut, List.forM_eq_forM, List.forM_append, Step.bind_eq_ok_iff]
  exact ⟨fun ⟨_, m₁, hfront, hback⟩ => ⟨m₁, hfront, hback⟩,
    fun ⟨m₁, hfront, hback⟩ => ⟨(), m₁, hfront, hback⟩⟩

lemma carryOut_snoc_eq_ok_iff {operations : List Operation} {o : Operation} :
    carryOut (operations ++ [o]) m = .ok () m' ↔
      ∃ m₁, carryOut operations m = .ok () m₁ ∧ execute o.source m₁ = .ok () m' := by
  have hsingle : carryOut [o] = execute o.source := by
    rw [carryOut, List.forM_eq_forM, List.forM_cons]
    exact bind_pure _
  rw [carryOut_append_eq_ok_iff, hsingle]

/-- What is asked of a run: its operations keep to the stack, it pops no more than it has pushed and
goes no deeper than there is room, and what it does besides pushing and popping succeeds. -/
structure StackRun (m : Machine) (room : Int) (operations : List Operation) : Prop where
  keeps : ∀ o ∈ operations, KeepsStack o
  nonneg : ∀ front, front <+: operations → 0 ≤ depth front
  bounded : ∀ front, front <+: operations → depth front ≤ room
  succeeds : ∀ front o m₁, front ++ [o] <+: operations → SparesStack o →
    carryOut front m = .ok () m₁ → ∃ m₂, execute o.source m₁ = .ok () m₂

namespace StackRun

variable {room : Int} {operations front back : List Operation}

lemma of_prefix (h : m.StackRun room operations) (hfront : front <+: operations) :
    m.StackRun room front where
  keeps o ho := h.keeps o (hfront.subset ho)
  nonneg first hfirst := h.nonneg first (hfirst.trans hfront)
  bounded first hfirst := h.bounded first (hfirst.trans hfront)
  succeeds first o m₁ hfirst := h.succeeds first o m₁ (hfirst.trans hfront)

/-- What is left of a run is a run, if it does not pop what was pushed before. -/
lemma rest (h : m.StackRun room (front ++ back)) (hfront : carryOut front m = .ok () m')
    (hback : ∀ first, first <+: back → 0 ≤ depth first) :
    m'.StackRun (room - depth front) back where
  keeps o ho := h.keeps o (List.mem_append_right front ho)
  nonneg := hback
  bounded first hfirst := by
    have hdepth := h.bounded (front ++ first) ((List.prefix_append_right_inj front).2 hfirst)
    rw [Operation.depth_append] at hdepth
    omega
  succeeds first o m₁ hfirst ho hm₁ := by
    refine h.succeeds (front ++ first) o m₁ ?_ ho (carryOut_append_eq_ok_iff.2 ⟨m', hfront, hm₁⟩)
    rw [List.append_assoc]
    exact (List.prefix_append_right_inj front).2 hfirst

end StackRun

/-- One operation of a run: what was on the stack before the run is never reached. -/
lemma Stacked.step {added : List Int} {o : Operation} (h : Stacked start (added ++ saved) m)
    (ho : KeepsStack o) (hnonneg : 0 ≤ added.length + o.rise)
    (hbounded : added.length + o.rise ≤ 32768 - saved.length)
    (hspare : SparesStack o → ∃ m', execute o.source m = .ok () m') :
    ∃ added' m', execute o.source m = .ok () m' ∧ Stacked start (added' ++ saved) m' ∧
      (added'.length : Int) = added.length + o.rise := by
  cases ho with
  | @push src hsrc =>
      obtain ⟨n, hn⟩ := exists_hasValue hsrc m
      rw [rise_push] at hbounded
      obtain ⟨m', hdone, hpushed⟩ := h.push (by rw [List.length_append]; omega) hn
      exact ⟨n :: added, m', hdone, hpushed, by simp⟩
  | @pop dest r hdest hr =>
      cases added with
      | nil => simp at hnonneg
      | cons n added =>
          obtain ⟨m', hdone, hpopped, -⟩ := h.pop hdest hr
          have hlength : (added.length : Int) = (n :: added).length + (-1) := by
            rw [List.length_cons]
            omega
          exact ⟨added, m', hdone, hpopped, hlength⟩
  | spare ho =>
      obtain ⟨m', hdone⟩ := hspare ho
      exact ⟨added, m', hdone, h.spare ho hdone, by rw [ho.rise_eq_zero, Int.add_zero]⟩

/-- **A run leaves what was on the stack under what it has pushed and not popped.** -/
lemma Stacked.carryOut (h : Stacked start saved m) {operations : List Operation}
    (hrun : m.StackRun (32768 - saved.length) operations) :
    ∃ added m', carryOut operations m = .ok () m' ∧ Stacked start (added ++ saved) m' ∧
      (added.length : Int) = depth operations := by
  induction operations using List.reverseRecOn with
  | nil => exact ⟨[], m, rfl, h, rfl⟩
  | append_singleton operations o ih =>
      obtain ⟨added, m₁, hdone, hstacked, hlength⟩ := ih (hrun.of_prefix (List.prefix_append _ _))
      have hdepth : depth (operations ++ [o]) = added.length + o.rise := by
        rw [Operation.depth_snoc, hlength]
      have hnonneg := hrun.nonneg _ (List.prefix_refl _)
      have hbounded := hrun.bounded _ (List.prefix_refl _)
      rw [hdepth] at hnonneg hbounded
      obtain ⟨added', m', hlast, hstacked', hlength'⟩ := hstacked.step (hrun.keeps o (by simp))
        hnonneg hbounded fun ho => hrun.succeeds operations o m₁ (List.prefix_refl _) ho hdone
      exact ⟨added', m', carryOut_snoc_eq_ok_iff.2 ⟨m₁, hdone, hlast⟩, hstacked',
        hlength'.trans hdepth.symm⟩

/-! ## Pushes and pops -/

/-- A run on an empty stack leaves what it has pushed and not popped. -/
lemma StackRun.stacked {front : List Operation} (hwatchers : m.memory.subscribed = [])
    (hsize : 65537 ≤ m.memory.cells.size) (h : m.StackRun 32768 front) :
    ∃ saved m', carryOut front m = .ok () m' ∧ Stacked (m.valueAt .sp) saved m' ∧
      (saved.length : Int) = depth front := by
  have hroom : m.StackRun (32768 - ([] : List Int).length) front := by simpa using h
  obtain ⟨saved, m', hdone, hstacked, hlength⟩ := (Stacked.empty hwatchers hsize).carryOut hroom
  rw [List.append_nil] at hstacked
  exact ⟨saved, m', hdone, hstacked, hlength⟩

/-- A pop delivers the value of its matching push, as a word. -/
lemma StackRun.pop (hwatchers : m.memory.subscribed = []) (hsize : 65537 ≤ m.memory.cells.size)
    {before inner : List Operation} {src dest : Text} {r : Register}
    (h : m.StackRun 32768 (before ++ .push src :: inner ++ [.pop dest]))
    (hdest : Means dest (.register r)) (hinner : Balanced inner) :
    ∃ m₁ n m₂, carryOut before m = .ok () m₁ ∧ m₁.HasValue src n ∧
      carryOut (before ++ .push src :: inner ++ [.pop dest]) m = .ok () m₂ ∧
      m₂.valueAt r = n % 65536 := by
  have hpushed : before ++ .push src :: inner ++ [.pop dest] =
      (before ++ [.push src]) ++ (inner ++ [.pop dest]) := by simp
  rw [hpushed] at h ⊢
  -- up to the push
  have hbefore : m.StackRun 32768 before :=
    h.of_prefix ((List.prefix_append before [.push src]).trans (List.prefix_append _ _))
  obtain ⟨saved, m₁, hfirst, hstacked, hlength⟩ := hbefore.stacked hwatchers hsize
  have hbounded := h.bounded (before ++ [.push src]) (List.prefix_append _ _)
  rw [Operation.depth_snoc, rise_push] at hbounded
  obtain ⟨n, hn⟩ := exists_hasValue (h.keeps (.push src) (by simp)).source m₁
  obtain ⟨m₂, hpush, hstacked⟩ := hstacked.push (by omega) hn
  have hmiddle := carryOut_snoc_eq_ok_iff.2 ⟨m₁, hfirst, hpush⟩
  -- up to the pop
  have hrun : m.StackRun 32768 ((before ++ [.push src]) ++ inner) :=
    h.of_prefix ((List.prefix_append_right_inj _).2 (List.prefix_append _ _))
  have hrest : m₂.StackRun (32768 - (n :: saved).length) inner := by
    have hrest := hrun.rest hmiddle hinner.sane
    rw [Operation.depth_snoc, rise_push] at hrest
    rw [List.length_cons, Int.natCast_succ, hlength]
    exact hrest
  obtain ⟨added, m₃, hinnerDone, hstacked, hadded⟩ := hstacked.carryOut hrest
  rw [hinner.settled] at hadded
  obtain rfl : added = [] := List.eq_nil_of_length_eq_zero (by omega)
  -- the pop itself
  obtain ⟨m₄, hpop, -, hvalue⟩ := hstacked.pop hdest ((h.keeps (.pop dest) (by simp)).ne_sp hdest)
  exact ⟨m₁, n, m₄, hfirst, hn, carryOut_append_eq_ok_iff.2
    ⟨m₂, hmiddle, carryOut_snoc_eq_ok_iff.2 ⟨m₃, hinnerDone, hpop⟩⟩, hvalue⟩

/-- **The stack is last in, first out.**  In every run, wherever the stack starts, the stack pointer
moves down by two for every word, no push or pop sets a flag, and a pop to a register delivers the
value that the source of the matching push had, as a word.  The matching push is the one with a
balanced run between; there always is one. -/
theorem pops_what_was_pushed {operations : List Operation} (hwatchers : m.memory.subscribed = [])
    (hsize : 65537 ≤ m.memory.cells.size) (h : m.StackRun 32768 operations) :
    (∀ front, front <+: operations → ∃ m', carryOut front m = .ok () m' ∧
        m'.valueAt .sp = (m.valueAt .sp - 2 * depth front) % 65536) ∧
      (∀ front o m₁ m₂, front ++ [o] <+: operations → o.rise ≠ 0 →
        carryOut front m = .ok () m₁ → execute o.source m₁ = .ok () m₂ → m₂.flags = m₁.flags) ∧
      ∀ front dest r, front ++ [.pop dest] <+: operations → Means dest (.register r) →
        (∃ before src inner, front = before ++ .push src :: inner ∧ Balanced inner) ∧
        ∀ before src inner, front = before ++ .push src :: inner → Balanced inner →
          ∃ m₁ n m₂, carryOut before m = .ok () m₁ ∧ m₁.HasValue src n ∧
            carryOut (front ++ [.pop dest]) m = .ok () m₂ ∧ m₂.valueAt r = n % 65536 := by
  refine ⟨fun front hfront => ?_, fun front o m₁ m₂ hfront ho hm₁ hm₂ => ?_,
    fun front dest r hfront hdest => ⟨?_, ?_⟩⟩
  · obtain ⟨saved, m', hdone, hstacked, hlength⟩ := (h.of_prefix hfront).stacked hwatchers hsize
    refine ⟨m', hdone, ?_⟩
    rw [hstacked.pointer, slot, hlength]
  · have hstart : front <+: operations := (List.prefix_append front [o]).trans hfront
    obtain ⟨saved, m', hdone, hstacked, -⟩ := (h.of_prefix hstart).stacked hwatchers hsize
    cases hdone.symm.trans hm₁
    exact flags_of_rise ho hstacked.unwatched hm₂
  · have hdepth := h.nonneg _ hfront
    rw [Operation.depth_snoc, Operation.rise_pop] at hdepth
    exact Operation.exists_matching_push (by omega)
  · rintro before src inner rfl hinner
    exact (h.of_prefix hfront).pop hwatchers hsize hdest hinner

/-- The stack pointer is odd and wraps around at once.  The outer pair carries `-1` across a move and
an inner pair. -/
theorem pops_across_the_wrap :
    ∃ m', carryOut [.push ['-', '1'], .mov ['a', 'x'] ['7'], .push ['s', 'p'], .pop ['b', 'x'],
        .pop ['c', 'x']] ((initial 65537).put .sp 1) = .ok () m' ∧
      m'.valueAt .cx = 65535 ∧ m'.valueAt .sp = 1 := by
  have hminus : Means ['-', '1'] (.immediate (-1)) := .immediate rfl
  have hseven : Means ['7'] (.immediate 7) := .immediate rfl
  have hsp : Means ['s', 'p'] (.register .sp) := .register rfl
  have hax : Means ['a', 'x'] (.register .ax) := .register rfl
  have hbx : Means ['b', 'x'] (.register .bx) := .register rfl
  have hcx : Means ['c', 'x'] (.register .cx) := .register rfl
  have hrun : ((initial 65537).put .sp 1).StackRun 32768 [.push ['-', '1'], .mov ['a', 'x'] ['7'],
      .push ['s', 'p'], .pop ['b', 'x'], .pop ['c', 'x']] := by
    refine ⟨?_, ?_, ?_, fun front o m₁ hfront ho _ => ?_⟩
    · simp only [List.forall_mem_cons]
      exact ⟨.push (.immediate hminus), .spare (.mov hax (by decide)), .push (.register hsp),
        .pop hbx (by decide), .pop hcx (by decide), by simp⟩
    · simp only [← List.mem_inits]
      decide
    · simp only [← List.mem_inits]
      decide
    · have hmem := hfront.subset (List.mem_append_right front (List.mem_singleton_self o))
      cases ho <;> simp at hmem
      obtain ⟨rfl, rfl⟩ := hmem
      exact ⟨_, execute_source_eq_ok_iff.2 (.move hax (.immediate hseven))⟩
  obtain ⟨hpointer, -, hpops⟩ := pops_what_was_pushed rfl (by decide) hrun
  obtain ⟨m₁, n, m₂, -, hn, hdone, hvalue⟩ := (hpops _ ['c', 'x'] .cx (List.prefix_refl _) hcx).2 []
    ['-', '1'] [.mov ['a', 'x'] ['7'], .push ['s', 'p'], .pop ['b', 'x']] rfl (by decide)
  obtain ⟨m₃, hdone', hsp'⟩ := hpointer _ (List.prefix_refl _)
  cases hdone.symm.trans hdone'
  refine ⟨m₂, hdone, ?_, hsp'⟩
  cases hn with
  | register h => cases hminus.unique h
  | immediate h =>
      cases hminus.unique h
      exact hvalue

end Machine
end Asm16

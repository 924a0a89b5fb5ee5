import Asm16.Proofs.Machine.Effect

/-!
# What an operation may touch

Each operation has its own registers, flags and cells, and leaves all others as they are.

* `Operation.registers`, `flags`, `cells` — what is its own.
* `Operation.Bears` — a property survives every change that the operation may make; carrying it out
  keeps the property then (`Bears.perform`), whichever way it ends and whoever watches memory.
* `Machine.Touches` — nothing else has changed on the way from one machine to another.
* `Machine.touches_of_executeLine` — so it is for every line that is carried out without watchers.
* `Machine.valueAt_of_error` — a line that fails leaves all registers but the stack pointer alone.
* `Machine.IsLevel`, `keeps_isLevel`, `keeps_ip` — what no line changes: the direction flag and the
  auxiliary carry stay down, and the instruction pointer stays at zero until a line names it.
-/

namespace Asm16

/-! ## What is an operation's own -/

namespace Operation

/-- The register that an operation names as its destination. -/
def dest? : Operation → Option Register
  | .mov dest _ | .pop dest | .add dest _ | .sub dest _ => registerOf? dest
  | .push _ | .mul _ | .div _ => none

/-- The registers that an operation may change. -/
def registers : Operation → List Register
  | .mov dest _ | .add dest _ | .sub dest _ => (registerOf? dest).toList
  | .pop dest => .sp :: (registerOf? dest).toList
  | .push _ => [.sp]
  | .mul _ => [.ax]
  | .div _ => [.ax, .dx]

/-- The flags that an operation may change. -/
def flags : Operation → List Flag
  | .add _ _ | .sub _ _ => [.zf, .sf, .cf, .of, .pf, .af]
  | .mul _ => [.cf, .of]
  | .mov _ _ | .push _ | .pop _ | .div _ => []

/-- The cells that an operation may change. -/
def cells (m : Machine) : Operation → List Int
  | .mov dest _ =>
    if isBracketed dest then
      match addressOf dest with
      | .ok a => [a, a + 1]
      | .error _ => []
    else []
  | .push _ => [m.pushedTo, m.pushedTo + 1]
  | .pop _ | .add _ _ | .sub _ _ | .mul _ | .div _ => []

/-- The instruction pointer is not used by any operation on its own. -/
lemma ip_mem_registers_iff {operation : Operation} :
    .ip ∈ operation.registers ↔ operation.dest? = some .ip := by
  cases operation <;> simp [registers, dest?]

/-- How an operation sets flags. -/
inductive Sets (fs : Flags) : Operation → Flags → Prop
  | added (dest src : Text) (result : Int) (carry overflow : Bool) :
    Sets fs (.add dest src) (fs.afterResult result carry overflow)
  | subtracted (dest src : Text) (result : Int) (carry overflow : Bool) :
    Sets fs (.sub dest src) (fs.afterResult result carry overflow)
  | multiplied (src : Text) (long : Bool) : Sets fs (.mul src) ((fs.put .cf long).put .of long)

namespace Sets

variable {fs fs' : Flags} {operation : Operation}

/-- An operation sets its own flags only. -/
lemma get (h : Sets fs operation fs') (f : Flag) (hf : f ∉ operation.flags) :
    fs'.get f = fs.get f := by
  cases h with
  | added | subtracted =>
      cases f with
      | df => rfl
      | _ => exact absurd (by simp [flags]) hf
  | multiplied src long =>
      simp only [flags, List.mem_cons, List.not_mem_nil, or_false, not_or] at hf
      rw [Flags.get_put, if_neg hf.2, Flags.get_put, if_neg hf.1]

lemma added_eq (h : Sets fs operation fs') : fs'.added = fs.added := by
  cases h with
  | added | subtracted => rfl
  | multiplied => rw [Flags.added_put, Flags.added_put]

lemma df (h : Sets fs operation fs') : fs'.get .df = fs.get .df :=
  h.get .df (by cases h <;> simp [flags])

lemma af (h : Sets fs operation fs') (hdown : fs.get .af = false) : fs'.get .af = false := by
  cases h with
  | added | subtracted => rfl
  | multiplied => exact hdown

end Sets

/-! ## What survives an operation -/

/-- A property survives every change that the operation may make. -/
structure Bears (operation : Operation) (P : Machine → Prop) : Prop where
  memory : operation.stores = true → ∀ m memory, P m → P { m with memory }
  register : ∀ m r n, r ∈ operation.registers → P m → P (m.put r n)
  flags : ∀ m fs, Sets m.flags operation fs → P m → P { m with flags := fs }

namespace Bears

open Step (Keeps)

variable {P : Machine → Prop} {dest src : Text}

lemma valueOf (token : Text) : Keeps P (Operation.valueOf token) := fun m hm => by
  rw [final_valueOf]
  exact hm

lemma load (a : Int) : Keeps P (Operation.load a) := fun m hm => by
  rw [final_load]
  exact hm

lemma save {operation : Operation} (h : operation.Bears P) (hstores : operation.stores = true)
    (a n : Int) : Keeps P (Operation.save a n) := fun m hm => by
  rw [Operation.save, Machine.onMemory, Step.final_within]
  exact h.memory hstores _ _ hm

lemma mem_of_resolveRegister {r : Register} (h : resolveRegister dest = .ok r) :
    r ∈ (registerOf? dest).toList := by
  rw [resolveRegister_eq_ok_iff, means_register_iff] at h
  rw [h, Option.toList_some]
  exact List.mem_singleton_self r

lemma move (h : Bears (.mov dest src) P) : Keeps P (Operation.move dest src) := by
  refine (Keeps.ofExcept _).bind fun source => ?_
  split_ifs with hbracketed
  · exact (Keeps.ofExcept _).bind fun a => Keeps.get.bind fun _ =>
      (Keeps.ofExcept _).bind fun n => h.save hbracketed a n
  · refine Keeps.ofExcept_bind fun r hr => ?_
    have hput : ∀ n, Keeps P (modify (·.put r n) : Step Machine PUnit) := fun n =>
      .modify fun m => h.register m r n (mem_of_resolveRegister hr)
    cases source with
    | memory a => exact (load a).bind hput
    | register q => exact Keeps.get.bind fun _ => (Keeps.ofExcept _).bind hput
    | immediate n => exact Keeps.get.bind fun _ => hput n

lemma pushWord (h : Bears (.push src) P) : Keeps P (Operation.pushWord src) :=
  (valueOf src).bind fun n =>
    (Keeps.modify fun m => h.register m .sp _ (List.mem_singleton_self _)).bind fun _ =>
      Keeps.get.bind fun _ => h.save rfl _ n

lemma popWord (h : Bears (.pop dest) P) : Keeps P (Operation.popWord dest) := by
  refine Keeps.ofExcept_bind fun r hr => Keeps.get.bind fun _ => (load _).bind fun n => ?_
  exact .modify fun m hm => h.register _ r n (List.mem_cons_of_mem _ (mem_of_resolveRegister hr))
    (h.register m .sp _ List.mem_cons_self hm)

lemma add (h : Bears (.add dest src) P) : Keeps P (combine dest src true) := by
  refine (valueOf src).bind fun b => Keeps.ofExcept_bind fun r hr => Keeps.get.bind fun _ => ?_
  exact .modify fun m hm => h.flags (m.put r _) _ (.added ..)
    (h.register m r _ (mem_of_resolveRegister hr) hm)

lemma sub (h : Bears (.sub dest src) P) : Keeps P (combine dest src false) := by
  refine (valueOf src).bind fun b => Keeps.ofExcept_bind fun r hr => Keeps.get.bind fun _ => ?_
  exact .modify fun m hm => h.flags (m.put r _) _ (.subtracted ..)
    (h.register m r _ (mem_of_resolveRegister hr) hm)

lemma multiply (h : Bears (.mul src) P) : Keeps P (Operation.multiply src) := by
  refine (valueOf src).bind fun b => Keeps.get.bind fun _ => ?_
  exact .modify fun m hm => h.flags (m.put .ax _) _ (.multiplied ..)
    (h.register m .ax _ (List.mem_singleton_self _) hm)

lemma divide (h : Bears (.div src) P) : Keeps P (Operation.divide src) := by
  refine (valueOf src).bind fun b => ?_
  simp only
  split_ifs
  · exact .throw _
  · refine Keeps.get.bind fun _ => ?_
    split_ifs
    · exact .throw _
    · exact .modify fun m hm => h.register _ .dx _ (by simp [registers])
        (h.register m .ax _ List.mem_cons_self hm)

/-- **What survives every change of an operation is kept by carrying it out.** -/
theorem perform {operation : Operation} (h : operation.Bears P) : Keeps P operation.perform := by
  cases operation with
  | mov dest src => exact h.move
  | push src => exact h.pushWord
  | pop dest => exact h.popWord
  | add dest src => exact h.add
  | sub dest src => exact h.sub
  | mul src => exact h.multiply
  | div src => exact h.divide

end Bears

/-- An operation that stores a word may change no register but the stack pointer. -/
lemma eq_sp_of_stores {operation : Operation} (h : operation.stores = true) {r : Register}
    (hr : r ∈ operation.registers) : r = .sp := by
  cases operation with
  | mov dest src =>
      rw [registers, Option.mem_toList] at hr
      rw [stores, isBracketed_of_register hr] at h
      cases h
  | push src => exact List.mem_singleton.1 hr
  | _ => cases h

end Operation

/-! ## What an operation leaves alone -/

namespace Machine

open Operation (Bears Effect)
open Step (Keeps)

/-- The machine has become the other one by an operation, and nothing has changed that is not its
own. -/
structure Touches (m : Machine) (operation : Operation) (m' : Machine) : Prop where
  cells : ∀ a : Nat, (a : Int) ∉ operation.cells m →
    m'.memory.cells.byte a = m.memory.cells.byte a
  size : m'.memory.cells.size = m.memory.cells.size
  memory : m'.memory = { m.memory with cells := m'.memory.cells }
  registers : ∀ r, r ∉ operation.registers → m'.valueAt r = m.valueAt r
  flags : ∀ f, f ∉ operation.flags → m'.flags.get f = m.flags.get f
  added : m'.flags.added = m.flags.added
  direction : m'.flags.get .df = m.flags.get .df
  pushed : ∀ src, operation = .push src → m'.valueAt .sp = m.pushedTo
  /-- A word that is popped into the stack pointer stays there. -/
  popped : ∀ dest, operation = .pop dest → operation.dest? = some .sp →
    m'.valueAt .sp = m.wordAt (m.valueAt .sp)
  multiplied : ∀ src, operation = .mul src → m'.flags.get .cf = m'.flags.get .of

variable {m m' : Machine} {operation : Operation} {line : Text}

lemma bears_registers (m : Machine) (operation : Operation) :
    operation.Bears fun m' => ∀ r, r ∉ operation.registers → m'.valueAt r = m.valueAt r where
  memory _ _ _ h := h
  register m₁ r n hr h q hq := by
    have hqr : q ≠ r := by
      rintro rfl
      exact hq hr
    exact (valueAt_put_of_ne m₁ hqr n).trans (h q hq)
  flags _ _ _ h := h

/-- An operation that stores nothing leaves memory to itself. -/
lemma bears_memory (m : Machine) (h : operation.stores = false) :
    operation.Bears fun m' => m'.memory = m.memory where
  memory hstores := by
    rw [h] at hstores
    cases hstores
  register _ _ _ _ hm := hm
  flags _ _ _ hm := hm

lemma bears_flags (m : Machine) (operation : Operation) :
    operation.Bears fun m' => (∀ f, f ∉ operation.flags → m'.flags.get f = m.flags.get f) ∧
      m'.flags.added = m.flags.added where
  memory _ _ _ h := h
  register _ _ _ _ h := h
  flags _ _ hsets h := ⟨fun f hf => (hsets.get f hf).trans (h.1 f hf), hsets.added_eq.trans h.2⟩

lemma byte_withWord {a n : Int} (ha : 0 ≤ a) {c : Nat} (hc : (c : Int) ∉ [a, a + 1]) :
    (m.withWord a n).memory.cells.byte c = m.memory.cells.byte c := by
  simp only [List.mem_cons, List.not_mem_nil, or_false, not_or] at hc
  have hlow : a.toNat ≠ c := by omega
  have hhigh : a.toNat + 1 ≠ c := by omega
  exact (Cells.byte_put_of_ne _ hhigh _).trans (Cells.byte_put_of_ne _ hlow _)

/-- What a push that has succeeded has done. -/
lemma eq_of_pushed (h : m.memory.subscribed = []) {n : Int}
    (hstored : Operation.save m.pushedTo n (m.put .sp (m.valueAt .sp - 2)) = .ok () m') :
    m' = (m.put .sp (m.valueAt .sp - 2)).withWord m.pushedTo n :=
  ((Operation.save_eq_ok_iff (m := m.put .sp (m.valueAt .sp - 2)) h).1 hstored).2

lemma pushedTo_nonneg (m : Machine) : 0 ≤ m.pushedTo := Int.emod_nonneg _ (by decide)

/-- The word that was stored goes to the two cells of the operation. -/
lemma byte_of_effect (h : m.memory.subscribed = []) (he : Effect m operation m') {c : Nat}
    (hc : (c : Int) ∉ operation.cells m) :
    m'.memory.cells.byte c = m.memory.cells.byte c := by
  cases he with
  | @store dest src a n _ hdest hsrc hstored =>
      obtain ⟨holds, rfl⟩ := (Operation.save_eq_ok_iff h).1 hstored
      obtain ⟨hbracketed, ha⟩ := means_memory_iff.1 hdest
      rw [Operation.cells, if_pos hbracketed, ha] at hc
      exact byte_withWord holds.1 hc
  | @push src n _ hsrc hstored =>
      rw [eq_of_pushed h hstored]
      exact byte_withWord (m := m.put .sp (m.valueAt .sp - 2)) m.pushedTo_nonneg hc
  | _ => rfl

lemma memory_of_effect (h : m.memory.subscribed = []) (he : Effect m operation m') :
    m'.memory = { m.memory with cells := m'.memory.cells } ∧
      m'.memory.cells.size = m.memory.cells.size := by
  cases he with
  | store _ _ hstored =>
      obtain ⟨-, rfl⟩ := (Operation.save_eq_ok_iff h).1 hstored
      exact ⟨rfl, rfl⟩
  | push _ hstored =>
      rw [eq_of_pushed h hstored]
      exact ⟨rfl, rfl⟩
  | _ => exact ⟨rfl, rfl⟩

lemma wordAt_mod (m : Machine) (a : Int) : m.wordAt a % 65536 = m.wordAt a := by
  have hlt := (m.memory.cells.word a.toNat).isLt
  simp only [wordAt]
  omega

/-- **An operation touches only what is its own.** -/
theorem touches_of_effect (h : m.memory.subscribed = []) (he : Effect m operation m') :
    m.Touches operation m' := by
  have hfinal : Step.final operation.perform m = m' :=
    Step.final_of_ok (Operation.perform_eq_ok_iff.2 he)
  have hregisters := (bears_registers m operation).perform m fun r _ => rfl
  have hflags := (bears_flags m operation).perform m ⟨fun f _ => rfl, rfl⟩
  rw [hfinal] at hregisters hflags
  refine
    { cells := fun a ha => byte_of_effect h he ha
      size := (memory_of_effect h he).2
      memory := (memory_of_effect h he).1
      registers := hregisters
      flags := hflags.1
      added := hflags.2
      direction := hflags.1 .df (by cases operation <;> simp [Operation.flags])
      pushed := ?_
      popped := ?_
      multiplied := ?_ }
  · rintro src rfl
    cases he with
    | push _ hstored =>
        rw [eq_of_pushed h hstored]
        exact valueAt_put_self m .sp _
  · rintro dest rfl hdest
    cases he with
    | pop hmeans =>
        obtain rfl := Option.some.inj ((means_register_iff.1 hmeans).symm.trans hdest)
        rw [valueAt_put_self, wordAt_mod]
  · rintro src rfl
    cases he with
    | mul => rfl

/-- **A line that is carried out touches only what is its operation's own**, and nothing at all if
it holds no instruction. -/
theorem touches_of_executeLine (h : m.memory.subscribed = []) {i? : Option Instruction}
    (hline : executeLine line m = .ok i? m') :
    Instruction.decode line = .ok i? ∧ (i? = none → m' = m) ∧
      ∀ i, i? = some i → ∃ operation, Operation.of i = .ok operation ∧ m.Touches operation m' := by
  obtain ⟨j?, hdecode, hline⟩ := Step.ofExcept_bind_eq_ok_iff.1 hline
  cases j? with
  | none =>
      cases hline
      exact ⟨hdecode, fun _ => rfl, nofun⟩
  | some j =>
      obtain ⟨_, m₁, hexecute, hline⟩ := Step.bind_eq_ok_iff.1 hline
      cases hline
      refine ⟨hdecode, nofun, ?_⟩
      rintro i hi
      cases hi
      obtain ⟨operation, hof, hperform⟩ := Step.ofExcept_bind_eq_ok_iff.1 hexecute
      exact ⟨operation, hof, touches_of_effect h (Operation.perform_eq_ok_iff.1 hperform)⟩

/-! ## What lines leave alone -/

/-- A line keeps what survives its operation, if it holds one. -/
lemma keeps_line {P : Machine → Prop} (h : ∀ i operation, Instruction.decode line = .ok (some i) →
    Operation.of i = .ok operation → operation.Bears P) : Keeps P (executeLine line) := by
  refine Keeps.ofExcept_bind fun i? hdecode => ?_
  cases i? with
  | none => exact .pure none
  | some i =>
      have hexecute : Keeps P (execute i) :=
        Keeps.ofExcept_bind fun operation hof => (h i operation hdecode hof).perform
      exact hexecute.bind fun _ => .pure (some i)

/-- **A line that fails** leaves all registers alone but the stack pointer, whoever watches memory. -/
theorem valueAt_of_error {e : Error} (h : executeLine line m = .error e m') {r : Register}
    (hr : r ≠ .sp) : m'.valueAt r = m.valueAt r := by
  rcases error_of_executeLine_cases h with ⟨rfl, -⟩ | ⟨i, operation, -, -, hperform⟩
  · rfl
  · cases hstores : operation.stores with
    | false => rw [Operation.spares_of_not_stores hstores _ _ hperform]
    | true =>
        have hkept := (bears_registers m operation).perform m fun _ _ => rfl
        rw [Step.final_of_error hperform] at hkept
        exact hkept r fun hown => hr (Operation.eq_sp_of_stores hstores hown)

/-- The direction flag and the auxiliary carry are down. -/
structure IsLevel (m : Machine) : Prop where
  df : m.flags.get .df = false
  af : m.flags.get .af = false

lemma bears_isLevel (operation : Operation) : operation.Bears IsLevel where
  memory _ _ _ h := ⟨h.df, h.af⟩
  register _ _ _ _ h := ⟨h.df, h.af⟩
  flags _ _ hsets h := ⟨hsets.df.trans h.df, hsets.af h.af⟩

/-- No line raises one of the two flags. -/
lemma keeps_isLevel (line : Text) : Keeps IsLevel (executeLine line) :=
  keeps_line fun _ operation _ _ => bears_isLevel operation

/-- The line names the register as its destination. -/
def Aims (line : Text) (r : Register) : Prop :=
  ∃ i operation, Instruction.decode line = .ok (some i) ∧ Operation.of i = .ok operation ∧
    operation.dest? = some r

lemma bears_ip (h : operation.dest? ≠ some .ip) :
    operation.Bears fun m => m.valueAt .ip = 0 where
  memory _ _ _ hm := hm
  register m r n hr hm := by
    have hip : .ip ≠ r := by
      rintro rfl
      exact h (Operation.ip_mem_registers_iff.1 hr)
    exact (valueAt_put_of_ne m hip n).trans hm
  flags _ _ _ hm := hm

/-- A line that does not name the instruction pointer leaves it at zero. -/
lemma keeps_ip (h : ¬ Aims line .ip) :
    Keeps (fun m => m.valueAt .ip = 0) (executeLine line) :=
  keeps_line fun i operation hdecode hof =>
    bears_ip fun hdest => h ⟨i, operation, hdecode, hof, hdest⟩

end Machine
end Asm16

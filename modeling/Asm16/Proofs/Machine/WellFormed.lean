import Asm16.Program.Operation
import Asm16.Proofs.Memory.Echo
import Mathlib.Tactic.SplitIfs

/-!
# Machines stay well formed

Registers are words and cells are bytes by their types, so no operation can leave anything longer in
them.  What has to be shown is that nothing appears beside them: no flag but the seven, and no cell
behind the end of memory, whatever address is written to and whatever watchers store in turn.

* `Cells.Bounded` — as many cells as there were, and none behind the end.
* `Machine.Sane` — no flag added, and the cells bounded.
* `keeps_executeLine`, `keeps_answer` and others — whatever is done to a machine, it stays sane,
  also when it fails half-way.
-/

namespace Asm16

/-! ## Memory -/

/-- There are so many cells, and none behind the last of them was written. -/
structure Cells.Bounded (size : Nat) (cells : Cells) : Prop where
  sized : cells.size = size
  inside : ∀ c ∈ cells.written, c < size

variable {size : Nat}

lemma Cells.bounded_blank (size : Nat) : Cells.Bounded size (Cells.blank size) :=
  ⟨rfl, fun c hc => by simp [Cells.blank] at hc⟩

lemma Cells.Bounded.clear {cells : Cells} (h : cells.Bounded size) : cells.clear.Bounded size :=
  ⟨h.sized, fun c hc => by simp [Cells.clear] at hc⟩

lemma Cells.Bounded.put {cells : Cells} (h : cells.Bounded size) {a : Nat} (ha : a < size)
    (b : Byte) : (cells.put a b).Bounded size := by
  refine ⟨h.sized, fun c hc => ?_⟩
  simp only [Cells.put, Std.ExtTreeMap.mem_insert, Nat.compare_eq_eq] at hc
  rcases hc with rfl | hc
  · exact ha
  · exact h.inside c hc

lemma Cells.lt_of_fits {cells : Cells} {a : Int} {width : Nat} (h : cells.fits a width = true)
    {k : Nat} (hk : k < width) : a.toNat + k < cells.size := by
  simp only [Cells.fits, Bool.and_eq_true, decide_eq_true_eq] at h
  omega

namespace Memory

open Step (Keeps)

abbrev Bounded (size : Nat) (m : Memory) : Prop := m.cells.Bounded size

/-- Nothing that watchers do goes beyond the end of memory. -/
lemma echoes_bounded : Echoes fun m m' => Bounded size m → Bounded size m' where
  refl _ := id
  trans hab hbc h := hbc (hab h)
  note _ _ := id
  unsubscribe m name h := by rwa [Bounded, cells_unsubscribe]
  subscribe _ _ h := by rwa [Bounded, cells_subscribe]
  write _ _ hfits h := h.put (h.sized ▸ Cells.lt_of_fits hfits Nat.zero_lt_one) _

lemma keeps_require (a : Int) (width : Nat) : Keeps (Bounded size) (require a width) := fun m h => by
  rw [final_require]
  exact h

/-- A store inside memory, and all that watchers do on hearing of it. -/
lemma keeps_store {c : Nat} (hc : c < size) (b : Byte) : Keeps (Bounded size) (store c b) :=
  fun m h => echoes_bounded.rel_store c b m (h.put hc b)

lemma keeps_readByte (a : Int) : Keeps (Bounded size) (readByte a) :=
  (keeps_require a 1).bind fun _ => Keeps.get.bind fun _ => .pure _

lemma keeps_readWord (a : Int) : Keeps (Bounded size) (readWord a) :=
  (keeps_require a 2).bind fun _ => Keeps.get.bind fun _ => .pure _

/-- Behind a check of the address, a step may count on it. -/
lemma keeps_require_bind {α : Type} {a : Int} {width : Nat} {next : Step Memory α}
    (hnext : (∀ k < width, a.toNat + k < size) → Keeps (Bounded size) next) :
    Keeps (Bounded size) (require a width >>= fun _ => next) := by
  intro m h
  rw [Step.final_bind, require_apply]
  split_ifs with hfits
  · exact hnext (fun k hk => h.sized ▸ Cells.lt_of_fits hfits hk) m h
  · exact h

lemma keeps_writeByte (a v : Int) : Keeps (Bounded size) (writeByte a v) :=
  keeps_require_bind fun hinside => keeps_store (hinside 0 (by decide)) _

lemma keeps_writeWord (a v : Int) : Keeps (Bounded size) (writeWord a v) :=
  keeps_require_bind fun hinside =>
    (keeps_store (hinside 0 (by decide)) _).bind fun _ => keeps_store (hinside 1 (by decide)) _

/-- **Whatever is asked of memory**, its cells stay bounded. -/
theorem keeps_answer (request : Request) : Keeps (Bounded size) (answer request) := by
  cases request with
  | size | window | dump => exact Keeps.get.bind fun _ => .pure _
  | readByte a => exact (keeps_readByte a).bind fun _ => .pure _
  | writeByte a v => exact (keeps_writeByte a v).bind fun _ => .pure _
  | readWord a => exact (keeps_readWord a).bind fun _ => .pure _
  | writeWord a v => exact (keeps_writeWord a v).bind fun _ => .pure _
  | clear => exact (Keeps.modify fun m h => h.clear).bind fun _ => .pure _
  | subscribe w =>
      refine (Keeps.modify fun m h => ?_).bind fun _ => .pure _
      rwa [Bounded, cells_subscribe]
  | unsubscribe name =>
      refine (Keeps.modify fun m h => ?_).bind fun _ => .pure _
      rwa [Bounded, cells_unsubscribe]
  | view indexes => exact Keeps.get.bind fun _ => (Keeps.ofExcept _).bind fun _ => .pure _
  | writeView index value => exact .throw _

end Memory

/-! ## Machines -/

/-- No flag was added to the seven, and the cells are bounded. -/
structure Machine.Sane (size : Nat) (m : Machine) : Prop where
  added : m.flags.added = []
  cells : m.memory.cells.Bounded size

namespace Machine

open Step (Keeps)

variable {m : Machine}

lemma sane_initial (size : Nat) : Sane size (initial size) := ⟨rfl, Cells.bounded_blank size⟩

lemma Sane.put (h : m.Sane size) (r : Register) (n : Int) : (m.put r n).Sane size :=
  ⟨h.added, h.cells⟩

lemma Sane.updateFlags (h : m.Sane size) (result : Int) (carry overflow : Bool) :
    (m.updateFlags result carry overflow).Sane size := ⟨h.added, h.cells⟩

lemma Sane.setFlag (h : m.Sane size) (flag : Flag) (b : Bool) :
    (m.setFlag flag.name b).Sane size := by
  refine ⟨?_, h.cells⟩
  simp only [Machine.setFlag, Flags.set, Flag.ofName?_name, Flags.added_put]
  exact h.added

lemma Sane.reset (h : m.Sane size) : m.reset.Sane size := ⟨rfl, h.cells.clear⟩

lemma keeps_onMemory {α : Type} {step : Step Memory α} (h : Keeps (Memory.Bounded size) step) :
    Keeps (Sane size) (onMemory step) :=
  h.within (fun _ hs => hs.cells) fun _ _ hs ht => ⟨hs.added, ht⟩

lemma keeps_setRegister (name : Text) (value : Int) : Keeps (Sane size) (setRegister name value) :=
  (Keeps.ofExcept _).bind fun r => .modify fun _ h => h.put r value

end Machine

namespace Operation

open Step (Keeps)
open Machine (Sane keeps_onMemory)

lemma keeps_valueOf (token : Text) : Keeps (Sane size) (valueOf token) :=
  (Keeps.ofExcept _).bind fun _ => Keeps.get.bind fun _ => .ofExcept _

lemma keeps_load (a : Int) : Keeps (Sane size) (load a) :=
  (keeps_onMemory (Memory.keeps_readWord a)).bind fun _ => .pure _

lemma keeps_save (a n : Int) : Keeps (Sane size) (save a n) :=
  keeps_onMemory (Memory.keeps_writeWord a n)

lemma keeps_put (r : Register) (n : Int) :
    Keeps (Sane size) (modify (·.put r n) : Step Machine PUnit) :=
  .modify fun _ h => h.put r n

lemma keeps_move (dest src : Text) : Keeps (Sane size) (move dest src) := by
  refine (Keeps.ofExcept _).bind fun source => ?_
  split_ifs
  · exact (Keeps.ofExcept _).bind fun a => Keeps.get.bind fun _ =>
      (Keeps.ofExcept _).bind fun n => keeps_save a n
  · refine (Keeps.ofExcept _).bind fun r => ?_
    cases source with
    | memory a => exact (keeps_load a).bind fun n => keeps_put r n
    | register q =>
        exact Keeps.get.bind fun _ => (Keeps.ofExcept _).bind fun n => keeps_put r n
    | immediate n => exact Keeps.get.bind fun _ => keeps_put r n

lemma keeps_pushWord (src : Text) : Keeps (Sane size) (pushWord src) :=
  (keeps_valueOf src).bind fun n => (Keeps.modify fun _ h => h.put .sp _).bind fun _ =>
    Keeps.get.bind fun _ => keeps_save _ n

lemma keeps_popWord (dest : Text) : Keeps (Sane size) (popWord dest) :=
  (Keeps.ofExcept _).bind fun r => Keeps.get.bind fun _ => (keeps_load _).bind fun n =>
    .modify fun _ h => (h.put .sp _).put r n

lemma keeps_combine (dest src : Text) (adding : Bool) :
    Keeps (Sane size) (combine dest src adding) :=
  (keeps_valueOf src).bind fun _ => (Keeps.ofExcept _).bind fun r => Keeps.get.bind fun _ =>
    .modify fun _ h => (h.put r _).updateFlags _ _ _

lemma keeps_multiply (src : Text) : Keeps (Sane size) (multiply src) := by
  refine (keeps_valueOf src).bind fun _ => Keeps.get.bind fun _ => .modify fun m h => ⟨?_, h.cells⟩
  simp only [Flags.added_put]
  exact h.added

lemma keeps_divide (src : Text) : Keeps (Sane size) (divide src) := by
  refine (keeps_valueOf src).bind fun _ => ?_
  simp only
  split_ifs
  · exact .throw _
  · refine Keeps.get.bind fun _ => ?_
    split_ifs
    · exact .throw _
    · exact .modify fun _ h => (h.put .ax _).put .dx _

/-- **Whatever operation is carried out**, the machine stays sane. -/
theorem keeps_perform : ∀ operation : Operation, Keeps (Sane size) operation.perform
  | .mov dest src => keeps_move dest src
  | .push src => keeps_pushWord src
  | .pop dest => keeps_popWord dest
  | .add dest src => keeps_combine dest src true
  | .sub dest src => keeps_combine dest src false
  | .mul src => keeps_multiply src
  | .div src => keeps_divide src

end Operation

namespace Machine

open Step (Keeps)

lemma keeps_execute (i : Instruction) : Keeps (Sane size) (execute i) :=
  (Keeps.ofExcept _).bind Operation.keeps_perform

/-- **Whatever line is carried out**, the machine stays sane. -/
theorem keeps_executeLine (line : Text) : Keeps (Sane size) (executeLine line) := by
  refine (Keeps.ofExcept _).bind fun i? => ?_
  cases i? with
  | none => exact .pure _
  | some i => exact (keeps_execute i).bind fun _ => .pure _

end Machine
end Asm16

import Asm16.Proofs.Memory.Echo

/-!
# Memory as a map

Seen from outside, memory is a map from addresses to bytes.  A ledger holds the stores since memory
was last cleared, the latest first, and a cell has what was entered for it last, or zero.

* `Memory.Access` — the accesses, with `Access.Inside`, what stays inside memory.
* `Ledger.Course` — what a list of accesses enters.  Watchers may store bytes in turn; those are
  entered behind the store that they heard of, and they are among the bytes that watchers offer.
* `Memory.Calm` — no watcher gives up on a store.
* `Memory.refines_map` — whatever accesses came before, memory answers the next one from its ledger.

An access that leaves memory is answered with a fault that shows the address, except that a negative
address too long to be shown is answered with an error about the numeral (`Memory.Far`).
-/

namespace Asm16

/-! ## Ledgers -/

/-- Stores, the latest first: a cell and what was stored there. -/
abbrev Ledger := List (Nat × Byte)

namespace Ledger

/-- What was entered for a cell last, zero if nothing was. -/
def byte (ledger : Ledger) (c : Nat) : Byte := (ledger.lookup c).getD 0

/-- The cells have what the ledger says. -/
def Shows (ledger : Ledger) (cells : Cells) : Prop := ∀ c, cells.byte c = ledger.byte c

lemma byte_cons (entry : Nat × Byte) (ledger : Ledger) (c : Nat) :
    Ledger.byte (entry :: ledger) c = if entry.1 = c then entry.2 else ledger.byte c := by
  obtain ⟨a, b⟩ := entry
  by_cases hac : a = c
  · subst hac
    simp [byte]
  · have hca : (c == a) = false := by simpa using Ne.symm hac
    simp [byte, List.lookup_cons, hca, hac]

/-- Entries for other cells do not matter. -/
lemma byte_append {front : Ledger} {c : Nat} (h : ∀ entry ∈ front, entry.1 ≠ c) (ledger : Ledger) :
    Ledger.byte (front ++ ledger) c = ledger.byte c := by
  induction front with
  | nil => rfl
  | cons entry front ih =>
      rw [List.cons_append, byte_cons, if_neg (h entry (by simp)),
        ih fun e he => h e (by simp [he])]

lemma Shows.put {ledger : Ledger} {cells : Cells} (h : ledger.Shows cells) (a : Nat) (b : Byte) :
    Ledger.Shows ((a, b) :: ledger) (cells.put a b) := by
  intro c
  rw [byte_cons, Cells.byte_put, h c]

end Ledger

/-! ## What watchers store -/

/-- The reaction may lead to this byte being stored in this cell. -/
inductive Reaction.Offers (c : Nat) (b : Byte) : Reaction → Prop
  | write {a v : Int} (hc : a = c) (hb : lowByte v = b) : Offers c b (.write a v)
  | subscribe {name : Text} {react : Change → List Reaction} {change : Change} {r : Reaction}
    (hr : r ∈ react change) (h : r.Offers c b) : Offers c b (.subscribe name react)

namespace Memory

/-- A watcher that memory knows may lead to this byte being stored in this cell. -/
def Offers (m : Memory) (c : Nat) (b : Byte) : Prop :=
  ∃ w ∈ m.known, ∃ change, ∃ r ∈ w.react change, r.Offers c b

lemma offers_of_reaction {m : Memory} {name : Text} {change : Change} {r : Reaction} {c : Nat}
    {b : Byte} (hr : r ∈ m.reactions name change) (h : r.Offers c b) : m.Offers c b := by
  rw [reactions] at hr
  split at hr
  next w hw => exact ⟨w, List.mem_of_find?_eq_some hw, change, r, hr, h⟩
  next => simp at hr

/-- Introducing a watcher that offers nothing new changes nothing about what is offered. -/
lemma offers_introduce {m : Memory} {w : Watcher}
    (h : ∀ change, ∀ r ∈ w.react change, ∀ c b, r.Offers c b → m.Offers c b) (c : Nat) (b : Byte) :
    (m.introduce w).Offers c b ↔ m.Offers c b := by
  rw [introduce]
  split
  · exact Iff.rfl
  · constructor
    · rintro ⟨w', hw', change, r, hr, hoffers⟩
      rcases List.mem_append.1 hw' with hw' | hw'
      · exact ⟨w', hw', change, r, hr, hoffers⟩
      · obtain rfl := List.mem_singleton.1 hw'
        exact h change r hr c b hoffers
    · rintro ⟨w', hw', rest⟩
      exact ⟨w', List.mem_append_left _ hw', rest⟩

/-- What becomes of memory when watchers hear of a store: they offer what they did before, and there
are entries among that for all that they have stored. -/
structure Echoed (m m' : Memory) : Prop where
  offers : ∀ c b, m'.Offers c b ↔ m.Offers c b
  size : m'.cells.size = m.cells.size
  echoes : ∃ echoes : Ledger, (∀ entry ∈ echoes, m.Offers entry.1 entry.2) ∧
    ∀ ledger : Ledger, ledger.Shows m.cells → Ledger.Shows (echoes ++ ledger) m'.cells

/-- What leaves the cells alone and offers nothing new stores nothing. -/
lemma Echoed.of_cells {m m' : Memory} (hoffers : ∀ c b, m'.Offers c b ↔ m.Offers c b)
    (hcells : m'.cells = m.cells) : Echoed m m' where
  offers := hoffers
  size := by rw [hcells]
  echoes := ⟨[], by simp, fun ledger h => by rw [hcells]; exact h⟩

lemma Echoed.trans {m m' m'' : Memory} (h : Echoed m m') (h' : Echoed m' m'') : Echoed m m'' := by
  obtain ⟨echoes, hoffered, hshows⟩ := h.echoes
  obtain ⟨echoes', hoffered', hshows'⟩ := h'.echoes
  refine ⟨fun c b => (h'.offers c b).trans (h.offers c b), h'.size.trans h.size,
    echoes' ++ echoes, fun entry hentry => ?_, fun ledger hledger => ?_⟩
  · rcases List.mem_append.1 hentry with hentry | hentry
    · exact (h.offers _ _).1 (hoffered' entry hentry)
    · exact hoffered entry hentry
  · rw [List.append_assoc]
    exact hshows' _ (hshows ledger hledger)

/-- **All that watchers store** is among what they offer. -/
lemma echoes_echoed : Echoes Echoed where
  refl m := .of_cells (fun _ _ => Iff.rfl) rfl
  trans := Echoed.trans
  note m notice := .of_cells (fun _ _ => Iff.rfl) rfl
  unsubscribe m name :=
    .of_cells (offers_introduce fun change r hr => by simp [Watcher.recorder] at hr)
      (cells_unsubscribe m name)
  subscribe := by
    intro m₀ m name change recruit react hreaction hm
    refine .of_cells (offers_introduce fun change' r hr c b hoffers => ?_)
      (cells_subscribe m _)
    exact (hm.offers c b).2 (offers_of_reaction hreaction (.subscribe hr hoffers))
  write := by
    intro m₀ m name change a v hreaction hm hfits
    refine ⟨fun c b => Iff.rfl, rfl, [(a.toNat, lowByte v)], ?_, fun ledger h => h.put _ _⟩
    have hnonneg : 0 ≤ a := by
      simp only [Cells.fits, Bool.and_eq_true, decide_eq_true_eq] at hfits
      exact hfits.1
    simp only [List.mem_singleton, forall_eq]
    have hcell : a = a.toNat := (Int.toNat_of_nonneg hnonneg).symm
    exact (hm.offers _ _).2 (offers_of_reaction hreaction (.write hcell rfl))

/-! ## Accesses -/

/-- What can be done with the cells from outside. -/
inductive Access
  | readByte (address : Int)
  | readWord (address : Int)
  | writeByte (address value : Int)
  | writeWord (address value : Int)
  | clear
  deriving DecidableEq, Repr

namespace Access

def request : Access → Request
  | .readByte a => .readByte a
  | .readWord a => .readWord a
  | .writeByte a v => .writeByte a v
  | .writeWord a v => .writeWord a v
  | .clear => .clear

/-- The address and the number of cells. -/
def span : Access → Int × Nat
  | .readByte a | .writeByte a _ => (a, 1)
  | .readWord a | .writeWord a _ => (a, 2)
  | .clear => (0, 0)

/-- The access stays inside memory of the given size. -/
def Inside (size : Nat) (access : Access) : Prop :=
  0 ≤ access.span.1 ∧ access.span.1 + access.span.2 ≤ size

instance (size : Nat) (access : Access) : Decidable (access.Inside size) :=
  inferInstanceAs (Decidable (_ ∧ _))

/-- What is stored, in order. -/
def stores : Access → List (Nat × Byte)
  | .writeByte a v => [(a.toNat, lowByte v)]
  | .writeWord a v => [(a.toNat, lowByte v), (a.toNat + 1, highByte v)]
  | _ => []

end Access

/-- The memory after some accesses, whether they succeed or not. -/
def after (m : Memory) (accesses : List Access) : Memory :=
  accesses.foldl (fun m access => Step.final (answer access.request) m) m

/-- No watcher gives up on a store, whatever accesses came before. -/
def Calm (m : Memory) : Prop :=
  ∀ accesses c b, c < m.cells.size → ∃ m', store c b (m.after accesses) = .ok () m'

end Memory

namespace Ledger

open Memory (Access)

/-- Stores are entered one after the other, each with what watchers store on hearing of it. -/
inductive Enters (offered : Nat → Byte → Prop) : List (Nat × Byte) → Ledger → Ledger → Prop
  | nil {ledger : Ledger} : Enters offered [] ledger ledger
  | cons {entry : Nat × Byte} {rest : List (Nat × Byte)} {echoes ledger ledger' : Ledger}
    (hechoes : ∀ e ∈ echoes, offered e.1 e.2)
    (hrest : Enters offered rest (echoes ++ entry :: ledger) ledger') :
    Enters offered (entry :: rest) ledger ledger'

/-- What one access enters. -/
inductive Follows (size : Nat) (offered : Nat → Byte → Prop) : Access → Ledger → Ledger → Prop
  | outside {access : Access} {ledger : Ledger} (h : ¬ access.Inside size) :
    Follows size offered access ledger ledger
  | inside {access : Access} {ledger ledger' : Ledger} (h : access.Inside size)
    (hclear : access ≠ .clear) (henters : Enters offered access.stores ledger ledger') :
    Follows size offered access ledger ledger'
  | clear {ledger : Ledger} : Follows size offered .clear ledger []

/-- What accesses enter, one after the other. -/
inductive Course (size : Nat) (offered : Nat → Byte → Prop) : List Access → Ledger → Ledger → Prop
  | nil {ledger : Ledger} : Course size offered [] ledger ledger
  | cons {access : Access} {rest : List Access} {ledger ledger' ledger'' : Ledger}
    (h : Follows size offered access ledger ledger')
    (hrest : Course size offered rest ledger' ledger'') :
    Course size offered (access :: rest) ledger ledger''

end Ledger

namespace Memory

/-! ## One access -/

variable {m m₀ : Memory} {size : Nat} {ledger : Ledger}

/-- The memory shows the ledger of a memory of this size with these watchers. -/
structure OnLedger (m₀ : Memory) (size : Nat) (ledger : Ledger) (m : Memory) : Prop where
  size : m.cells.size = size
  offers : ∀ c b, m.Offers c b ↔ m₀.Offers c b
  calm : m.Calm
  shows : ledger.Shows m.cells

lemma after_append (m : Memory) (accesses accesses' : List Access) :
    m.after (accesses ++ accesses') = (m.after accesses).after accesses' :=
  List.foldl_append

lemma fits_iff_inside (h : m.cells.size = size) (access : Access) :
    m.cells.fits access.span.1 access.span.2 = true ↔ access.Inside size := by
  simp only [Cells.fits, Access.Inside, h, Bool.and_eq_true, decide_eq_true_eq]

/-- An access outside memory is refused and changes nothing. -/
lemma answer_of_outside (h : m.cells.size = size) {access : Access}
    (houtside : ¬ access.Inside size) :
    answer access.request m = .error (outOfRange access.span.1) m := by
  have hfits : m.cells.fits access.span.1 access.span.2 = false := by
    rw [← Bool.not_eq_true, fits_iff_inside h]
    exact houtside
  cases access with
  | clear => exact absurd ⟨Int.le_refl 0, by simp [Access.span]⟩ houtside
  | readByte a =>
      simp only [Access.request, answer, Step.bind_apply, readByte_apply]
      simp_all [Access.span]
  | readWord a =>
      simp only [Access.request, answer, Step.bind_apply, readWord_apply]
      simp_all [Access.span]
  | writeByte a v =>
      simp only [Access.request, answer, writeByte, Step.bind_apply, require_apply]
      simp_all [Access.span]
  | writeWord a v =>
      simp only [Access.request, answer, writeWord, Step.bind_apply, require_apply]
      simp_all [Access.span]

lemma answer_readByte {a : Int} (hfits : m.cells.fits a 1 = true) :
    answer (.readByte a) m = .ok (.number (m.cells.byte a.toNat).toNat) m := by
  simp only [answer, Step.bind_apply, readByte_apply, hfits, if_true]
  rfl

lemma answer_readWord {a : Int} (hfits : m.cells.fits a 2 = true) :
    answer (.readWord a) m = .ok (.number (m.cells.word a.toNat).toNat) m := by
  simp only [answer, Step.bind_apply, readWord_apply, hfits, if_true]
  rfl

lemma answer_writeByte {a v : Int} {m' : Memory} (hfits : m.cells.fits a 1 = true)
    (hstore : store a.toNat (lowByte v) m = .ok () m') :
    answer (.writeByte a v) m = .ok .done m' := by
  simp only [answer, writeByte, Step.bind_apply, require_apply, hfits, if_true, hstore]
  rfl

lemma answer_writeWord {a v : Int} {m₁ m₂ : Memory} (hfits : m.cells.fits a 2 = true)
    (hlow : store a.toNat (lowByte v) m = .ok () m₁)
    (hhigh : store (a.toNat + 1) (highByte v) m₁ = .ok () m₂) :
    answer (.writeWord a v) m = .ok .done m₂ := by
  simp only [answer, writeWord, Step.bind_apply, require_apply, hfits, if_true, hlow, hhigh]
  rfl

/-- Calm memory stays calm. -/
lemma Calm.step (h : m.Calm) (access : Access) {m' : Memory}
    (hm' : Step.final (answer access.request) m = m') (hsize : m'.cells.size = m.cells.size) :
    m'.Calm := by
  subst hm'
  intro accesses c b hc
  exact h (access :: accesses) c b (hsize ▸ hc)

/-- A store is entered, and with it what watchers store on hearing of it. -/
lemma OnLedger.store (h : OnLedger m₀ size ledger m) {c : Nat} (hc : c < size) (b : Byte) :
    ∃ m' echoes, store c b m = .ok () m' ∧ (∀ e ∈ echoes, m₀.Offers e.1 e.2) ∧
      OnLedger m₀ size (echoes ++ (c, b) :: ledger) m' := by
  obtain ⟨m', hm'⟩ := h.calm [] c b (h.size ▸ hc)
  have hstore : Memory.store c b m = .ok () m' := hm'
  have hechoed := echoes_echoed.rel_store c b m
  rw [Step.final_of_ok hstore] at hechoed
  obtain ⟨echoes, hoffered, hshows⟩ := hechoed.echoes
  have hsize : m'.cells.size = m.cells.size := hechoed.size
  refine ⟨m', echoes, hstore, fun e he => (h.offers _ _).1 (hoffered e he), ?_⟩
  refine ⟨hsize.trans h.size, fun c' b' => (hechoed.offers c' b').trans (h.offers c' b'), ?_,
    hshows _ (h.shows.put c b)⟩
  -- the store is one that a host could have asked for
  refine h.calm.step (.writeByte c b.toNat) ?_ hsize
  have hfits : m.cells.fits (c : Int) 1 = true := by
    simp only [Cells.fits, h.size, Bool.and_eq_true, decide_eq_true_eq]
    omega
  have hbyte : lowByte (b.toNat : Int) = b := by
    apply BitVec.eq_of_toNat_eq
    have := toNat_lowByte b.toNat
    have := b.isLt
    omega
  rw [← hbyte] at hstore
  exact Step.final_of_ok (answer_writeByte hfits hstore)

/-- **One access**: it is answered if it stays inside memory, and what it stores is entered. -/
theorem OnLedger.step (h : OnLedger m₀ size ledger m) (access : Access) :
    (access.Inside size → ∃ reply m', answer access.request m = .ok reply m') ∧
      ∃ ledger', Ledger.Follows size m₀.Offers access ledger ledger' ∧
        OnLedger m₀ size ledger' (Step.final (answer access.request) m) := by
  by_cases hinside : access.Inside size
  case neg =>
    refine ⟨fun hin => absurd hin hinside, ledger, .outside hinside, ?_⟩
    rw [Step.final_of_error (answer_of_outside h.size hinside)]
    exact h
  have hfits := (fits_iff_inside h.size access).2 hinside
  cases access with
  | readByte a =>
      have hanswer := answer_readByte (a := a) hfits
      refine ⟨fun _ => ⟨_, _, hanswer⟩, ledger, .inside hinside (by simp) .nil, ?_⟩
      rw [Access.request, Step.final_of_ok hanswer]
      exact h
  | readWord a =>
      have hanswer := answer_readWord (a := a) hfits
      refine ⟨fun _ => ⟨_, _, hanswer⟩, ledger, .inside hinside (by simp) .nil, ?_⟩
      rw [Access.request, Step.final_of_ok hanswer]
      exact h
  | writeByte a v =>
      obtain ⟨hnonneg, hle⟩ := hinside
      simp only [Access.span] at hnonneg hle
      obtain ⟨m', echoes, hstore, hechoes, hm'⟩ :=
        h.store (c := a.toNat) (by omega) (lowByte v)
      have hanswer := answer_writeByte (a := a) hfits hstore
      refine ⟨fun _ => ⟨_, _, hanswer⟩, _, .inside ⟨hnonneg, hle⟩ (by simp) (.cons hechoes .nil), ?_⟩
      rw [Access.request, Step.final_of_ok hanswer]
      exact hm'
  | writeWord a v =>
      obtain ⟨hnonneg, hle⟩ := hinside
      simp only [Access.span] at hnonneg hle
      obtain ⟨m₁, low, hstore, hlow, hm₁⟩ := h.store (c := a.toNat) (by omega) (lowByte v)
      obtain ⟨m₂, high, hstore', hhigh, hm₂⟩ :=
        hm₁.store (c := a.toNat + 1) (by omega) (highByte v)
      have hanswer := answer_writeWord (a := a) hfits hstore hstore'
      refine ⟨fun _ => ⟨_, _, hanswer⟩, _,
        .inside ⟨hnonneg, hle⟩ (by simp) (.cons hlow (.cons hhigh .nil)), ?_⟩
      rw [Access.request, Step.final_of_ok hanswer]
      exact hm₂
  | clear =>
      refine ⟨fun _ => ⟨_, _, rfl⟩, [], .clear, h.size, h.offers, ?_, fun c => Cells.byte_clear _ c⟩
      exact h.calm.step .clear rfl rfl

/-! ## All accesses -/

/-- **Accesses leave what they have entered**, by induction on the list of them. -/
theorem OnLedger.after : ∀ (accesses : List Access) {ledger : Ledger} {m : Memory},
    OnLedger m₀ size ledger m →
      ∃ ledger', Ledger.Course size m₀.Offers accesses ledger ledger' ∧
        OnLedger m₀ size ledger' (m.after accesses)
  | [], ledger, m, h => ⟨ledger, .nil, h⟩
  | access :: rest, ledger, m, h => by
      obtain ⟨-, ledger', hfollows, hstep⟩ := h.step access
      obtain ⟨ledger'', hcourse, hafter⟩ := OnLedger.after rest hstep
      exact ⟨ledger'', .cons hfollows hcourse, hafter⟩

/-- The address is negative and has too many digits to be shown. -/
def Far (a : Int) : Prop := a < 0 ∧ Nat.pow 10 decimalLimit ≤ a.natAbs

/-- An address is shown in the fault, unless it is far. -/
lemma outOfRange_of_not_far {a : Int} (h : ¬ Far a) :
    ∃ shown, outOfRange a = .ofCause .outOfRange shown := by
  rw [outOfRange, addressText]
  by_cases hneg : 0 ≤ a
  · exact ⟨_, by rw [if_pos hneg]⟩
  · refine ⟨signedDecimal a, ?_⟩
    have hshort : a.natAbs < Nat.pow 10 decimalLimit :=
      Nat.lt_of_not_le fun hle => h ⟨by omega, hle⟩
    rw [if_neg hneg, decimal?, if_pos hshort]

lemma outOfRange_of_far {a : Int} (h : Far a) : outOfRange a = .longNumeral := by
  rw [outOfRange, addressText, if_neg (by have := h.1; omega), decimal?,
    if_neg (Nat.not_lt.2 h.2)]

/-- Memory of this size answers every access from the ledger. -/
structure Answers (ledger : Ledger) (size : Nat) (m : Memory) : Prop where
  succeeds : ∀ access : Access,
    (∃ reply m', answer access.request m = .ok reply m') ↔ access.Inside size
  fails : ∀ access : Access, ¬ access.Inside size → ∃ e, answer access.request m = .error e m ∧
    (¬ Far access.span.1 → ∃ shown, e = .ofCause .outOfRange shown) ∧
    (Far access.span.1 → e = .longNumeral)
  byte : ∀ a, (Access.readByte a).Inside size →
    answer (.readByte a) m = .ok (.number (ledger.byte a.toNat).toNat) m
  word : ∀ a, (Access.readWord a).Inside size →
    answer (.readWord a) m =
      .ok (.number ((ledger.byte a.toNat).toNat + 256 * (ledger.byte (a.toNat + 1)).toNat)) m

lemma OnLedger.answers (h : OnLedger m₀ size ledger m) : Answers ledger size m where
  succeeds access := by
    refine ⟨fun ⟨reply, m', hm'⟩ => ?_, (h.step access).1⟩
    refine Decidable.byContradiction fun houtside => ?_
    rw [answer_of_outside h.size houtside] at hm'
    cases hm'
  fails access houtside :=
    ⟨_, answer_of_outside h.size houtside, outOfRange_of_not_far, outOfRange_of_far⟩
  byte a hinside := by
    rw [answer_readByte (a := a) ((fits_iff_inside h.size _).2 hinside), h.shows]
  word a hinside := by
    rw [answer_readWord (a := a) ((fits_iff_inside h.size _).2 hinside), Cells.word, toNat_wordOf,
      h.shows, h.shows]

/-- A word is in the ledger that it was entered in, if watchers leave its cells alone. -/
lemma word_of_enters {offered : Nat → Byte → Prop} {a v : Int} {ledger' : Ledger}
    (h : Ledger.Enters offered (Access.writeWord a v).stores ledger ledger')
    (halone : ∀ b, ¬ offered a.toNat b ∧ ¬ offered (a.toNat + 1) b) :
    ledger'.byte a.toNat = lowByte v ∧ ledger'.byte (a.toNat + 1) = highByte v := by
  cases h with
  | cons hlow hrest =>
      cases hrest with
      | cons hhigh hnil =>
          cases hnil
          have hskip : ∀ {echoes : Ledger} {c : Nat}, (∀ b, ¬ offered c b) →
              (∀ e ∈ echoes, offered e.1 e.2) → ∀ e ∈ echoes, e.1 ≠ c := by
            rintro echoes c hc hechoes e he rfl
            exact hc _ (hechoes e he)
          have hlowCell := fun b => (halone b).1
          have hhighCell := fun b => (halone b).2
          constructor
          · rw [Ledger.byte_append (hskip hlowCell hhigh), Ledger.byte_cons, if_neg (by simp),
              Ledger.byte_append (hskip hlowCell hlow), Ledger.byte_cons, if_pos rfl]
          · rw [Ledger.byte_append (hskip hhighCell hhigh), Ledger.byte_cons, if_pos rfl]

/-- **Memory is a map from addresses to bytes.**  Take a new memory and watchers that do not give up.
Whatever accesses it has had, it answers the next one from the ledger of what was stored since it was
last cleared.  An access succeeds just if it stays inside memory; any other changes nothing, and its
fault shows the address unless that is far.  A word that is written is read back as its low sixteen
bits, if watchers leave its two cells alone. -/
theorem refines_map (hblank : m.cells = Cells.blank size) (hcalm : m.Calm)
    (accesses : List Access) :
    (∃ ledger, Ledger.Course size m.Offers accesses [] ledger ∧
        Answers ledger size (m.after accesses)) ∧
      ∀ a v, (Access.writeWord a v).Inside size →
        (∀ b, ¬ m.Offers a.toNat b ∧ ¬ m.Offers (a.toNat + 1) b) →
        answer (.readWord a) (m.after (accesses ++ [.writeWord a v])) =
          .ok (.number (v % 65536).toNat) (m.after (accesses ++ [.writeWord a v])) := by
  have hstart : OnLedger m size [] m :=
    ⟨by rw [hblank, Cells.size_blank], fun _ _ => Iff.rfl, hcalm, fun c => by
      rw [hblank, Cells.byte_blank]
      rfl⟩
  obtain ⟨ledger, hcourse, hafter⟩ := hstart.after accesses
  refine ⟨⟨ledger, hcourse, hafter.answers⟩, fun a v hinside halone => ?_⟩
  obtain ⟨-, ledger', hfollows, hstep⟩ := hafter.step (.writeWord a v)
  have hwritten : m.after (accesses ++ [.writeWord a v]) =
      Step.final (answer (Access.writeWord a v).request) (m.after accesses) :=
    after_append m accesses _
  rw [hwritten, hstep.answers.word a hinside]
  cases hfollows with
  | outside houtside => exact absurd hinside houtside
  | inside _ _ henters =>
      obtain ⟨hlow, hhigh⟩ := word_of_enters henters halone
      have hlowNat := toNat_lowByte v
      have hhighNat := toNat_highByte v
      have hword : (lowByte v).toNat + 256 * (highByte v).toNat = (v % 65536).toNat := by omega
      rw [hlow, hhigh, hword]

lemma no_reactions_step {m : Memory} (h : ∀ name change, m.reactions name change = [])
    (access : Access) :
    ∀ name change, (Step.final (answer access.request) m).reactions name change = [] := by
  by_cases hinside : access.Inside m.cells.size
  case neg =>
    rw [Step.final_of_error (answer_of_outside rfl hinside)]
    exact h
  have hfits := (fits_iff_inside rfl access).2 hinside
  cases access with
  | readByte a =>
      rw [Access.request, Step.final_of_ok (answer_readByte (a := a) hfits)]
      exact h
  | readWord a =>
      rw [Access.request, Step.final_of_ok (answer_readWord (a := a) hfits)]
      exact h
  | writeByte a v =>
      obtain ⟨m₁, hm₁, h₁⟩ := store_of_no_reactions h a.toNat (lowByte v)
      rw [Access.request, Step.final_of_ok (answer_writeByte (a := a) hfits hm₁)]
      exact h₁
  | writeWord a v =>
      obtain ⟨m₁, hm₁, h₁⟩ := store_of_no_reactions h a.toNat (lowByte v)
      obtain ⟨m₂, hm₂, h₂⟩ := store_of_no_reactions h₁ (a.toNat + 1) (highByte v)
      rw [Access.request, Step.final_of_ok (answer_writeWord (a := a) hfits hm₁ hm₂)]
      exact h₂
  | clear => exact h

/-- Watchers that do nothing leave memory calm. -/
lemma calm_of_no_reactions {m : Memory} (h : ∀ name change, m.reactions name change = []) :
    m.Calm := by
  have hafter : ∀ (accesses : List Access) {m : Memory},
      (∀ name change, m.reactions name change = []) →
        ∀ name change, (m.after accesses).reactions name change = [] := by
    intro accesses
    induction accesses with
    | nil => exact fun h => h
    | cons access rest ih => exact fun h => ih (no_reactions_step h access)
  intro accesses c b _
  obtain ⟨m', hm', -⟩ := store_of_no_reactions (hafter accesses h) c b
  exact ⟨m', hm'⟩

/-- Memory of sixteen cells, with a watcher that takes note of every store. -/
def recorded : Memory := (blank 16).subscribe (Watcher.recorder ['l', 'o', 'g'])

lemma reactions_recorded : ∀ name change, recorded.reactions name change = [] := by
  refine reactions_eq_nil fun w hw _ => ?_
  obtain rfl := List.mem_singleton.1 hw
  rfl

lemma not_offers_recorded (c : Nat) (b : Byte) : ¬ recorded.Offers c b := by
  rintro ⟨w, hw, change, r, hr, -⟩
  obtain rfl := List.mem_singleton.1 hw
  simp [Watcher.recorder] at hr

/-- The last word of that memory is read back as it was written, over a byte that was there. -/
theorem last_word_is_read_back :
    ∃ m', answer (.readWord 14) (recorded.after [.writeByte 15 511, .writeWord 14 (-2)]) =
      .ok (.number 65534) m' := by
  have hblank : recorded.cells = Cells.blank 16 := rfl
  have hmap := refines_map hblank (calm_of_no_reactions reactions_recorded) [.writeByte 15 511]
  exact ⟨_, hmap.2 14 (-2) (by decide) fun b => ⟨not_offers_recorded _ b, not_offers_recorded _ b⟩⟩

lemma far_neg {n : Nat} (hpos : 0 < n) (hle : Nat.pow 10 decimalLimit ≤ n) : Far (-(n : Int)) :=
  ⟨Int.neg_neg_of_pos (Int.natCast_pos.2 hpos), by rw [Int.natAbs_neg, Int.natAbs_natCast]; exact hle⟩

lemma readWord_of_far {a : Int} (h : Far a) (m : Memory) :
    ¬ (Access.readWord a).Inside m.cells.size ∧ answer (.readWord a) m = .error .longNumeral m := by
  have houtside : ¬ (Access.readWord a).Inside m.cells.size :=
    fun hinside => Int.not_le.2 h.1 hinside.1
  have hanswer := answer_of_outside rfl houtside
  rw [Access.span, outOfRange_of_far h] at hanswer
  exact ⟨houtside, hanswer⟩

/-- An address of one digit too many is outside memory, and is not shown. -/
theorem far_address_is_not_shown :
    ¬ (Access.readWord (-(Nat.pow 10 decimalLimit : Nat))).Inside 16 ∧
      answer (.readWord (-(Nat.pow 10 decimalLimit : Nat))) (blank 16) =
        .error .longNumeral (blank 16) := by
  have hpos : ∀ digits, 0 < Nat.pow 10 digits := fun digits => Nat.pow_pos (by decide)
  exact readWord_of_far (far_neg (hpos decimalLimit) (Nat.le_refl _)) (blank 16)

end Memory
end Asm16

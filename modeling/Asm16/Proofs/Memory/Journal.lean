import Asm16.Proofs.Memory.Echo

/-!
# Memory as its watchers tell it

A recorder that was subscribed before all others hears of every store, in the order of the stores
and with the contents that each of them replaced.  This is so however deep the stores nest that
other watchers make in turn: the recorder is told first at every level, and a change of the
subscriptions is felt by later announcements only.

* `Cells.Replays` — changes that lead from cells to other cells, each with the contents it replaced.
* `Memory.LedBy` — the recorder is in front, and nobody touches its subscription.
* `Memory.Hears` — what the recorder has heard on the way from one memory to another replays into
  the cells.
* `Memory.hears_storeWith` — so it is for every store that is not given up because it nests too
  deeply.
* `Memory.IsMild` — watchers that only come and go.  They let every store through, and all who are
  subscribed hear of it just once (`store_of_mild`).
-/

namespace Asm16

/-- Entered one after the other, the changes lead from the cells to others, and each has for its old
contents what its cell had at that moment. -/
inductive Cells.Replays : Cells → List Change → Cells → Prop
  | nil (cells : Cells) : Replays cells [] cells
  | cons {cells cells' : Cells} {change : Change} {changes : List Change}
    (old : change.old = cells.byte change.address)
    (rest : Replays (cells.put change.address change.new) changes cells') :
    Replays cells (change :: changes) cells'

lemma Cells.Replays.append {cells cells' cells'' : Cells} {changes changes' : List Change}
    (h : cells.Replays changes cells') (h' : cells'.Replays changes' cells'') :
    cells.Replays (changes ++ changes') cells'' := by
  induction h with
  | nil => exact h'
  | cons old _ ih => exact .cons old (ih h')

/-- The reaction has nothing to do with subscriptions under the name, and whom it subscribes shuns
them too. -/
inductive Reaction.Shuns (name : Text) : Reaction → Prop
  | subscribe {recruit : Text} {react : Change → List Reaction} (hrecruit : recruit ≠ name)
    (h : ∀ change, ∀ reaction ∈ react change, Shuns name reaction) :
    Shuns name (.subscribe recruit react)
  | unsubscribe {left : Text} (hleft : left ≠ name) : Shuns name (.unsubscribe left)
  | write (a v : Int) : Shuns name (.write a v)
  | refuse (e : Error) : Shuns name (.refuse e)

/-- The reaction does no more than let watchers come and go, and whom it subscribes does no more
than that. -/
inductive Reaction.IsMild : Reaction → Prop
  | subscribe {recruit : Text} {react : Change → List Reaction}
    (h : ∀ change, ∀ reaction ∈ react change, IsMild reaction) : IsMild (.subscribe recruit react)
  | unsubscribe (left : Text) : IsMild (.unsubscribe left)

namespace Memory

variable {recorder name : Text} {m m' m'' : Memory}

/-! ## What a watcher has heard -/

/-- The changes that a watcher was told of, in order. -/
def heard (m : Memory) (name : Text) : List Change :=
  (m.journal.filter fun notice => notice.watcher = name).map Notice.change

lemma heard_of_append {notices : List Notice} (h : m'.journal = m.journal ++ notices) :
    m'.heard name =
      m.heard name ++ (notices.filter fun notice => notice.watcher = name).map Notice.change := by
  rw [heard, heard, h, List.filter_append, List.map_append]

lemma heard_note (m : Memory) (notice : Notice) (name : Text) :
    (m.note notice).heard name =
      m.heard name ++ if notice.watcher = name then [notice.change] else [] := by
  have hjournal : (m.note notice).journal = m.journal ++ [notice] := rfl
  rw [heard_of_append hjournal]
  by_cases hname : notice.watcher = name <;> simp [hname]

/-- Whom a watcher introduces reacts as it was introduced, and all others react as before. -/
lemma reactions_introduce (m : Memory) (w : Watcher) (name : Text) (change : Change) :
    (m.introduce w).reactions name change = m.reactions name change ∨
      w.name = name ∧ (m.introduce w).reactions name change = w.react change := by
  rw [introduce]
  split
  · exact .inl rfl
  · simp only [reactions, List.find?_append]
    cases m.known.find? fun k => k.name = name with
    | some k => exact .inl rfl
    | none =>
        by_cases hname : w.name = name
        · exact .inr ⟨hname, by simp [hname]⟩
        · exact .inl (by simp [hname])

/-- What a property says of all reactions that are known and of all that a newcomer brings, it says
of all that are known then. -/
lemma reactions_introduce_of {P : Reaction → Prop} {w : Watcher}
    (h : ∀ name change, ∀ reaction ∈ m.reactions name change, P reaction)
    (hw : ∀ change, ∀ reaction ∈ w.react change, P reaction) (name : Text) (change : Change) :
    ∀ reaction ∈ (m.introduce w).reactions name change, P reaction := by
  rcases reactions_introduce m w name change with heq | ⟨-, heq⟩
  · rw [heq]
    exact h name change
  · rw [heq]
    exact hw change

/-- All reactions are those of watchers that are known. -/
lemma reactions_of_known {P : Reaction → Prop}
    (h : ∀ w ∈ m.known, ∀ change, ∀ reaction ∈ w.react change, P reaction) (name : Text)
    (change : Change) : ∀ reaction ∈ m.reactions name change, P reaction := by
  rw [reactions]
  split
  next w hw => exact h w (List.mem_of_find?_eq_some hw) change
  next => simp

lemma subscribed_introduce (m : Memory) (w : Watcher) :
    (m.introduce w).subscribed = m.subscribed := by
  rw [introduce]
  split <;> rfl

lemma journal_introduce (m : Memory) (w : Watcher) : (m.introduce w).journal = m.journal := by
  rw [introduce]
  split <;> rfl

lemma heard_introduce (m : Memory) (w : Watcher) (name : Text) :
    (m.introduce w).heard name = m.heard name := by
  rw [heard, journal_introduce, heard]

/-! ## The recorder in front -/

/-- The recorder is subscribed once, before all others, it does nothing but record, and the others
leave its subscription alone. -/
structure LedBy (m : Memory) (recorder : Text) : Prop where
  first : ∃ others, m.subscribed = recorder :: others ∧ recorder ∉ others
  silent : ∀ change, m.reactions recorder change = []
  shunned : ∀ name change, ∀ reaction ∈ m.reactions name change, reaction.Shuns recorder

namespace LedBy

lemma put (h : m.LedBy recorder) (a : Nat) (b : Byte) : (m.put a b).LedBy recorder :=
  ⟨h.first, h.silent, h.shunned⟩

lemma note (h : m.LedBy recorder) (notice : Notice) : (m.note notice).LedBy recorder :=
  ⟨h.first, h.silent, h.shunned⟩

lemma introduce (h : m.LedBy recorder) {w : Watcher}
    (hsilent : w.name = recorder → ∀ change, w.react change = [])
    (hshuns : ∀ change, ∀ reaction ∈ w.react change, reaction.Shuns recorder) :
    (m.introduce w).LedBy recorder where
  first := by
    rw [subscribed_introduce]
    exact h.first
  silent change := by
    rcases reactions_introduce m w recorder change with heq | ⟨hname, heq⟩
    · rw [heq, h.silent]
    · rw [heq, hsilent hname]
  shunned := reactions_introduce_of h.shunned hshuns

lemma subscribe (h : m.LedBy recorder) {w : Watcher} (hname : w.name ≠ recorder)
    (hshuns : ∀ change, ∀ reaction ∈ w.react change, reaction.Shuns recorder) :
    (m.subscribe w).LedBy recorder := by
  have hw := h.introduce (fun heq => absurd heq hname) hshuns
  obtain ⟨others, hfirst, hothers⟩ := hw.first
  refine ⟨⟨others ++ [w.name], ?_, ?_⟩, hw.silent, hw.shunned⟩
  · simp only [Memory.subscribe, hfirst, List.cons_append]
  · simp [hothers, Ne.symm hname]

lemma unsubscribe (h : m.LedBy recorder) (hname : name ≠ recorder) :
    (m.unsubscribe name).LedBy recorder := by
  have hw := h.introduce (w := Watcher.recorder name) (fun _ _ => rfl)
    fun _ _ hreaction => by simp [Watcher.recorder] at hreaction
  obtain ⟨others, hfirst, hothers⟩ := hw.first
  refine ⟨⟨others.erase name, ?_, fun hmem => hothers (List.mem_of_mem_erase hmem)⟩,
    hw.silent, hw.shunned⟩
  simp only [Memory.unsubscribe, hfirst]
  rw [List.erase_cons_tail]
  simpa using Ne.symm hname

end LedBy

/-- The recorder is still in front, and what it has heard on the way replays into the cells. -/
structure Hears (recorder : Text) (m m' : Memory) : Prop where
  led : m'.LedBy recorder
  replays : ∃ changes, m'.heard recorder = m.heard recorder ++ changes ∧
    m.cells.Replays changes m'.cells

namespace Hears

/-- What stores nothing and tells the recorder nothing. -/
lemma of_eq (h : m'.LedBy recorder) (hcells : m'.cells = m.cells)
    (hheard : m'.heard recorder = m.heard recorder) : Hears recorder m m' :=
  ⟨h, [], by rw [hheard, List.append_nil], by rw [hcells]; exact .nil m.cells⟩

lemma trans (h : Hears recorder m m') (h' : Hears recorder m' m'') : Hears recorder m m'' := by
  obtain ⟨changes, hheard, hreplays⟩ := h.replays
  obtain ⟨changes', hheard', hreplays'⟩ := h'.replays
  exact ⟨h'.led, changes ++ changes', by rw [hheard', hheard, List.append_assoc],
    hreplays.append hreplays'⟩

end Hears

/-! ## Stores -/

/-- Unless it ends because stores nest too deeply, the step lets the recorder hear all it stores. -/
abbrev Tells {α : Type} (recorder : Text) (step : Step Memory α) : Prop :=
  Step.Unless .nestedTooDeeply (fun m m' => m.LedBy recorder → Hears recorder m m') step

section Stores

open Step (Unless)

lemma hears_refl (m : Memory) (h : m.LedBy recorder) : Hears recorder m m := .of_eq h rfl rfl

lemma hears_trans {a b c : Memory} (hab : a.LedBy recorder → Hears recorder a b)
    (hbc : b.LedBy recorder → Hears recorder b c) (ha : a.LedBy recorder) : Hears recorder a c :=
  (hab ha).trans (hbc (hab ha).led)

lemma Tells.bind {α β : Type} {step : Step Memory α} {next : α → Step Memory β}
    (h : Tells recorder step) (hnext : ∀ a, Tells recorder (next a)) :
    Tells recorder (step >>= next) :=
  Unless.bind (P := fun m m' => m.LedBy recorder → Hears recorder m m') hears_trans h hnext

lemma Tells.forM {α : Type} {f : α → Step Memory Unit} {l : List α}
    (h : ∀ a ∈ l, Tells recorder (f a)) : Tells recorder (l.forM f) :=
  Unless.forM (P := fun m m' => m.LedBy recorder → Hears recorder m m') hears_trans hears_refl l h

lemma tells_require (a : Int) (width : Nat) : Tells recorder (require a width) :=
  .of_final fun m hled => by
    rw [final_require]
    exact hears_refl m hled

variable {announce : Change → Step Memory Unit}

/-- A reaction that shuns the recorder, if the stores that it makes are heard. -/
lemma tells_perform (h : ∀ a b, Tells recorder (storeWith announce a b)) {reaction : Reaction}
    (hshuns : reaction.Shuns recorder) : Tells recorder (perform announce reaction) := by
  cases hshuns with
  | subscribe hrecruit hreact =>
      refine .of_final fun m hled => .of_eq (hled.subscribe hrecruit hreact) ?_ ?_
      · exact cells_subscribe m _
      · exact heard_introduce m _ recorder
  | unsubscribe hleft =>
      refine .of_final fun m hled => .of_eq (hled.unsubscribe hleft) ?_ ?_
      · exact cells_unsubscribe m _
      · exact heard_introduce m _ recorder
  | write a v => exact (tells_require a 1).bind fun _ => h _ _
  | refuse e => exact .of_final hears_refl

/-- Another watcher is told, if the stores that it makes are heard. -/
lemma tells_tell (h : ∀ a b, Tells recorder (storeWith announce a b)) (change : Change)
    (hname : name ≠ recorder) : Tells recorder (tell announce change name) := by
  refine Tells.bind (.of_final fun m hled => .of_eq (hled.note _) rfl ?_) fun _ => ?_
  · refine (heard_note m ⟨name, change⟩ recorder).trans ?_
    rw [if_neg hname, List.append_nil]
  · -- which reactions there are depends on the state, and that they shun the recorder on its lead
    intro m hends hled
    have hreactions := Tells.forM (l := m.reactions name change) fun reaction hreaction =>
      tells_perform h (hled.shunned name change reaction hreaction)
    exact hreactions m hends hled

/-- The recorder is told first, and does nothing. -/
lemma storeWith_of_led (h : m.LedBy recorder) {others : List Text}
    (hothers : m.subscribed = recorder :: others) (depth a : Nat) (b : Byte) :
    storeWith (deliver (depth + 1)) a b m =
      others.forM (tell (deliver depth) ⟨a, m.cells.byte a, b⟩)
        ((m.put a b).note ⟨recorder, ⟨a, m.cells.byte a, b⟩⟩) := by
  have htold : tell (deliver depth) ⟨a, m.cells.byte a, b⟩ recorder (m.put a b) =
      .ok () ((m.put a b).note ⟨recorder, ⟨a, m.cells.byte a, b⟩⟩) := by
    have hsilent := ((h.put a b).note ⟨recorder, ⟨a, m.cells.byte a, b⟩⟩).silent
    simp only [tell, Step.bind_apply, Step.modify_apply, Step.get_apply, hsilent]
    rfl
  have hsubscribed : (m.put a b).subscribed = recorder :: others := hothers
  simp only [storeWith, deliver, Step.bind_apply, Step.get_apply, Step.modify_apply, hsubscribed]
  rw [List.forM_eq_forM, List.forM_cons, Step.bind_apply, htold]

/-- The recorder hears of the store itself. -/
lemma hears_put (h : m.LedBy recorder) (a : Nat) (b : Byte) :
    Hears recorder m ((m.put a b).note ⟨recorder, ⟨a, m.cells.byte a, b⟩⟩) where
  led := (h.put a b).note _
  replays := by
    refine ⟨[⟨a, m.cells.byte a, b⟩], ?_, .cons rfl (.nil _)⟩
    rw [heard_note, if_pos rfl]
    rfl

/-- **The recorder hears every store**, by induction on how deeply stores may nest. -/
theorem tells_storeWith : ∀ (depth a : Nat) (b : Byte),
    Tells recorder (storeWith (deliver depth) a b)
  | 0, a, b => by
      intro m hends hled
      obtain ⟨others, hothers, -⟩ := hled.first
      have hsubscribed : (m.put a b).subscribed = recorder :: others := hothers
      refine absurd ?_ hends
      simp [Step.outcome, storeWith, deliver, Step.bind_apply, hsubscribed]
  | depth + 1, a, b => by
      intro m hends hled
      obtain ⟨others, hothers, hnot⟩ := hled.first
      -- whoever is told behind the recorder stores at a smaller depth
      have htold := Tells.forM (l := others) fun name hname =>
        tells_tell (tells_storeWith depth) ⟨a, m.cells.byte a, b⟩ fun heq => hnot (heq ▸ hname)
      exact (hears_put hled a b).trans
        (htold.of_eq (storeWith_of_led hled hothers depth a b) hends (hears_put hled a b).led)

lemma tells_store (recorder : Text) (a : Nat) (b : Byte) : Tells recorder (store a b) :=
  tells_storeWith nestingLimit a b

end Stores

/-! ## Mild watchers -/

/-- All watchers do no more than let watchers come and go. -/
def IsMild (m : Memory) : Prop :=
  ∀ name change, ∀ reaction ∈ m.reactions name change, reaction.IsMild

section Mild

variable (announce : Change → Step Memory Unit) (change : Change)

/-- Mild reactions end well, and touch neither cells nor journal. -/
lemma forM_perform_of_mild : ∀ (reactions : List Reaction) {m : Memory}, m.IsMild →
    (∀ reaction ∈ reactions, reaction.IsMild) →
    ∃ m', reactions.forM (perform announce) m = .ok () m' ∧ m'.IsMild ∧ m'.cells = m.cells ∧
      m'.journal = m.journal
  | [], m, hm, _ => ⟨m, rfl, hm, rfl, rfl⟩
  | reaction :: reactions, m, hm, h => by
      have hrest : ∀ r ∈ reactions, r.IsMild := fun r hr => h r (List.mem_cons_of_mem _ hr)
      cases h reaction List.mem_cons_self with
      | @subscribe recruit react hreact =>
          have hcome : (m.subscribe ⟨recruit, react⟩).IsMild := reactions_introduce_of hm hreact
          obtain ⟨m', hends, hmild, hcells, hjournal⟩ :=
            forM_perform_of_mild reactions hcome hrest
          exact ⟨m', hends, hmild, hcells.trans (cells_subscribe m _),
            hjournal.trans (journal_introduce m _)⟩
      | unsubscribe left =>
          have hgone : (m.unsubscribe left).IsMild := reactions_introduce_of hm
            fun _ _ hreaction => by simp [Watcher.recorder] at hreaction
          obtain ⟨m', hends, hmild, hcells, hjournal⟩ :=
            forM_perform_of_mild reactions hgone hrest
          exact ⟨m', hends, hmild, hcells.trans (cells_unsubscribe m _),
            hjournal.trans (journal_introduce m _)⟩

/-- Mild watchers are told one after the other. -/
lemma forM_tell_of_mild : ∀ (names : List Text) {m : Memory}, m.IsMild →
    ∃ m', names.forM (tell announce change) m = .ok () m' ∧ m'.IsMild ∧ m'.cells = m.cells ∧
      m'.journal = m.journal ++ names.map fun name => ⟨name, change⟩
  | [], m, hm => ⟨m, rfl, hm, rfl, (List.append_nil _).symm⟩
  | name :: names, m, hm => by
      obtain ⟨m₁, htold, hmild₁, hcells₁, hjournal₁⟩ :=
        forM_perform_of_mild announce (m.reactions name change) (m := m.note ⟨name, change⟩) hm
          (hm name change)
      obtain ⟨m', hends, hmild, hcells, hjournal⟩ := forM_tell_of_mild names hmild₁
      refine ⟨m', ?_, hmild, hcells.trans hcells₁, ?_⟩
      · rw [List.forM_eq_forM, List.forM_cons, Step.bind_apply]
        simp only [tell, Step.bind_apply, Step.modify_apply, Step.get_apply]
        rw [show (m.note ⟨name, change⟩).reactions name change = m.reactions name change from rfl,
          htold]
        exact hends
      · rw [hjournal, hjournal₁]
        simp [note]

/-- **Mild watchers** let every store through, and all who are subscribed hear of it once. -/
theorem store_of_mild (hm : m.IsMild) (a : Nat) (b : Byte) :
    ∃ m', store a b m = .ok () m' ∧ m'.IsMild ∧ m'.cells = m.cells.put a b ∧
      m'.journal = m.journal ++ m.subscribed.map fun name => ⟨name, ⟨a, m.cells.byte a, b⟩⟩ := by
  obtain ⟨m', hends, hmild, hcells, hjournal⟩ :=
    forM_tell_of_mild (deliver (nestingLimit - 1)) ⟨a, m.cells.byte a, b⟩ m.subscribed
      (m := m.put a b) hm
  refine ⟨m', ?_, hmild, hcells, hjournal⟩
  simp only [store, storeWith, Step.bind_apply, Step.get_apply, Step.modify_apply]
  exact hends

/-- Of a store that mild watchers let through, the recorder hears just once. -/
lemma heard_of_store (hm : m.IsMild) (hled : m.LedBy recorder) {a : Nat} {b : Byte}
    (hstore : store a b m = .ok () m') :
    m'.IsMild ∧ m'.LedBy recorder ∧
      m'.heard recorder = m.heard recorder ++ [⟨a, m.cells.byte a, b⟩] := by
  obtain ⟨m₁, hends, hmild, -, hjournal⟩ := store_of_mild hm a b
  obtain rfl : m₁ = m' := by
    rw [hstore] at hends
    cases hends
    rfl
  have hhears := tells_store recorder a b m (by simp [Step.outcome, hstore]) hled
  rw [Step.final_of_ok hstore] at hhears
  refine ⟨hmild, hhears.led, ?_⟩
  -- of all the notices, the recorder has the first one only
  obtain ⟨others, hothers, hnot⟩ := hled.first
  rw [heard_of_append hjournal, hothers, List.map_cons, List.filter_cons_of_pos (by simp)]
  have hnone : (others.map fun name => (⟨name, ⟨a, m.cells.byte a, b⟩⟩ : Notice)).filter
      (fun notice => notice.watcher = recorder) = [] := by
    rw [List.filter_eq_nil_iff]
    simp only [List.mem_map, forall_exists_index, and_imp, forall_apply_eq_imp_iff₂,
      decide_eq_true_eq]
    rintro name hname rfl
    exact hnot hname
  rw [hnone]
  rfl

lemma cast_toNat_of_fits {cells : Cells} {a : Int} {width : Nat} (h : cells.fits a width = true) :
    (a.toNat : Int) = a := by
  simp only [Cells.fits, Bool.and_eq_true, decide_eq_true_eq] at h
  exact Int.toNat_of_nonneg h.1

/-- Of a byte that is written, the recorder hears once. -/
lemma heard_of_writeByte (hm : m.IsMild) (hled : m.LedBy recorder) {a v : Int}
    (h : writeByte a v m = .ok () m') :
    ∃ changes, m'.heard recorder = m.heard recorder ++ changes ∧
      changes.map (fun change => (change.address : Int)) = [a] := by
  obtain ⟨_, _, hrequire, hstore⟩ := Step.bind_eq_ok_iff.1 h
  obtain ⟨hfits, rfl⟩ := require_eq_ok hrequire
  obtain ⟨-, -, hheard⟩ := heard_of_store hm hled hstore
  exact ⟨_, hheard, by rw [List.map_singleton, cast_toNat_of_fits hfits]⟩

/-- Of a word that is written, the recorder hears twice, of the low byte first. -/
lemma heard_of_writeWord (hm : m.IsMild) (hled : m.LedBy recorder) {a v : Int}
    (h : writeWord a v m = .ok () m') :
    ∃ changes, m'.heard recorder = m.heard recorder ++ changes ∧
      changes.map (fun change => (change.address : Int)) = [a, a + 1] := by
  obtain ⟨_, _, hrequire, hstores⟩ := Step.bind_eq_ok_iff.1 h
  obtain ⟨hfits, rfl⟩ := require_eq_ok hrequire
  obtain ⟨_, m₁, hlow, hhigh⟩ := Step.bind_eq_ok_iff.1 hstores
  obtain ⟨hmild, hled₁, hheard⟩ := heard_of_store hm hled hlow
  obtain ⟨-, -, hheard'⟩ := heard_of_store hmild hled₁ hhigh
  refine ⟨_, by rw [hheard', hheard, List.append_assoc], ?_⟩
  rw [List.map_append, List.map_singleton, List.map_singleton, Int.natCast_add,
    cast_toNat_of_fits hfits]
  rfl

end Mild

/-! ## Writes -/

/-- The checked writes. -/
inductive Writes : Step Memory Unit → Prop
  | byte (a v : Int) : Writes (writeByte a v)
  | word (a v : Int) : Writes (writeWord a v)

namespace Writes

variable {write : Step Memory Unit}

/-- The recorder hears all that a write stores. -/
lemma tells (h : Writes write) (recorder : Text) : Tells recorder write := by
  cases h with
  | byte a v => exact (tells_require a 1).bind fun _ => tells_store _ _ _
  | word a v =>
      exact (tells_require a 2).bind fun _ => (tells_store _ _ _).bind fun _ => tells_store _ _ _

/-- Mild watchers stay mild. -/
lemma keeps_isMild (h : Writes write) : Step.Keeps IsMild write := by
  have hstore : ∀ a b, Step.Keeps IsMild (store a b) := by
    intro a b m hm
    obtain ⟨m', hends, hmild, -⟩ := store_of_mild hm a b
    rw [Step.final_of_ok hends]
    exact hmild
  have hrequire : ∀ a width, Step.Keeps IsMild (require a width) := by
    intro a width m hm
    rw [final_require]
    exact hm
  cases h with
  | byte a v => exact (hrequire a 1).bind fun _ => hstore _ _
  | word a v => exact (hrequire a 2).bind fun _ => (hstore _ _).bind fun _ => hstore _ _

end Writes

end Memory
end Asm16

import Asm16.Proofs.Program.Lines
import Asm16.Proofs.Run.Failure
import Asm16.Proofs.Run.Lasting

/-!
# Line numbers

A run counts the lines of its program, and so the number that it reports for a failure says how many
lines end in front of the failed one.  That is true whatever hooks and others do to the scheduler, as
long as nobody sets a batch size that no batch can have: then a run would go backwards.

* `Underway` — what stays as it is while a run is in progress.
* `NumberedAt`, `Comes.numberedAt` — the lines that a run comes to are counted from the front.
* `number_of_failure` — the number that a failure is reported with.
* `lines_end_at_breaks` — the lines of a text, their numbers and the comments in them.
-/

namespace Asm16

/-- The request sets no batch size that a batch cannot have. -/
def Control.IsProper : Control → Prop
  | .setBatchSize size => 1 ≤ size
  | _ => True

def HookAction.IsProper : HookAction → Prop
  | .control request => request.IsProper
  | _ => True

namespace Scheduler

def Demand.IsProper : Demand → Prop
  | .run _ => True
  | .control request => request.IsProper

variable {source : Text} {s t u : Scheduler} {place next : Place} {met others : List (List Demand)}
  {processed : Int}

/-! ## Lines are counted from the front -/

/-- A run that was accepted in the state `s` is in progress, with so many lines taken note of. -/
structure Underway (s : Scheduler) (processed : Int) (t : Scheduler) : Prop where
  busy : t.isBusy = true
  batchSize : 1 ≤ t.batchSize
  hooks : t.hooks.Within s.hooks
  processed : t.processed = processed

lemma lasting_underway (hhooks : s.hooks.Only HookAction.IsProper) (processed : Int) :
    Lasting (fun _ a => a.IsProper) (Underway s processed) where
  hooks := by
    intro t h kind hook hhook
    exact hhooks.of_within h.hooks kind hook hhook
  write h _ := ⟨h.busy, h.batchSize, h.hooks, h.processed⟩
  absorb h _ := ⟨h.busy, h.batchSize, h.hooks, h.processed⟩
  note h := ⟨h.busy, h.batchSize, h.hooks, h.processed⟩
  shown h := ⟨h.busy, h.batchSize, h.hooks, h.processed⟩
  launch h _ := ⟨h.busy, h.batchSize, h.hooks, h.processed⟩
  clear h hidle := by
    rw [h.busy] at hidle
    cases hidle
  stop := by
    intro t h _ _
    have hsteered := Steered.stop (P := fun _ => True) t
    exact ⟨hsteered.isBusy h.busy, hsteered.batchSize ▸ h.batchSize,
      hsteered.hooks.trans h.hooks, hsteered.processed.trans h.processed⟩
  resize h _ _ hasked := ⟨h.busy, hasked, h.hooks, h.processed⟩
  detach h _ _ := ⟨h.busy, h.batchSize, (Hooks.Within.set_none _ _).trans h.hooks, h.processed⟩

lemma Underway.meetAll (hhooks : s.hooks.Only HookAction.IsProper) :
    ∀ (demands : List Demand) {t : Scheduler}, (∀ demand ∈ demands, demand.IsProper) →
      Underway s processed t → Underway s processed (Demand.meetAll demands t)
  | [], _, _, h => h
  | demand :: rest, t, hdemands, h => by
      have hasked : ∀ request, demand = .control request → (HookAction.control request).IsProper := by
        rintro request rfl
        exact hdemands (.control request) (by simp)
      have hmet := (lasting_underway hhooks processed).meet .state demand hasked h.busy h
      exact meetAll hhooks rest (fun other hother => hdemands other (by simp [hother])) hmet

/-- Where a run stands in its program, lines are counted from the front. -/
def NumberedAt (s : Scheduler) : Place → Scheduler → Prop
  | .opening, t => ∃ processed, Underway s processed t
  | .pause, t => ∃ processed, 0 ≤ processed ∧ Underway s processed t
  | .line next stop, t => 0 ≤ next ∧ 0 ≤ stop ∧ ∃ processed, Underway s processed t

lemma NumberedAt.onward (hhooks : s.hooks.Only HookAction.IsProper) (h : NumberedAt s place t)
    (hleg : place.leg source t = .ok (.onward next) u) : NumberedAt s next u := by
  cases Place.passes_of_leg hleg with
  | opened hp =>
      obtain ⟨processed, h⟩ := h
      have hpublished := (lasting_underway hhooks processed).publish t h
      rw [Step.final_of_ok hp] at hpublished
      exact ⟨0, Int.le_refl 0, hpublished.busy, hpublished.batchSize, hpublished.hooks, rfl⟩
  | begun hleft hrunning =>
      obtain ⟨processed, hfront, h⟩ := h
      have := h.processed
      have := h.batchSize
      exact ⟨by omega, by omega, processed, h⟩
  | carried hlt hr =>
      obtain ⟨hfront, hstop, processed, h⟩ := h
      refine ⟨by omega, hstop, processed, ?_⟩
      exact (lasting_underway hhooks processed).runLine
        (fun h _ => ⟨h.busy, h.batchSize, h.hooks, h.processed⟩) h hr

lemma NumberedAt.waits (hhooks : s.hooks.Only HookAction.IsProper) (h : NumberedAt s place t)
    (hleg : place.leg source t = .ok .waits u) : NumberedAt s .pause u := by
  cases Place.passes_of_leg hleg with
  | @batchDone i stop _ _ hle he =>
      obtain ⟨-, hstop, processed, h⟩ := h
      have hlasting := lasting_underway hhooks stop
      have hnoted : Underway s stop { t with processed := stop } :=
        ⟨h.busy, h.batchSize, h.hooks, rfl⟩
      have hreported := hlasting.callHook hlasting.publish .progress
        (.progress stop t.total) hnoted ⟨h.busy, h.batchSize, h.hooks, rfl⟩
      have hcall : callHook publish .progress (.progress stop t.total)
          { t with processed := stop } = .ok () u := he
      rw [Step.final_of_ok hcall] at hreported
      exact ⟨stop, hstop, hreported⟩

/-- **Wherever a run comes to**, lines are counted from the front. -/
theorem Comes.numberedAt (hhooks : s.hooks.Only HookAction.IsProper) (hsize : 1 ≤ s.batchSize)
    (h : Comes source s met place t)
    (hmet : ∀ demands ∈ met, ∀ demand ∈ demands, demand.IsProper) : NumberedAt s place t := by
  induction h with
  | accepted =>
      rw [enter_eq]
      exact ⟨_, rfl, hsize, .refl _, rfl⟩
  | onward _ hleg ih => exact (ih hmet).onward hhooks hleg
  | resumed demands _ hleg ih =>
      obtain ⟨processed, hfront, h⟩ :=
        (ih fun ds hds => hmet ds (by simp [hds])).waits hhooks hleg
      exact ⟨processed, hfront, h.meetAll hhooks demands (hmet demands (by simp))⟩

/-- **The number of a failed line** is its index, counted from one. -/
theorem number_of_failure (hidle : s.isBusy = false) (hsize : 1 ≤ s.batchSize)
    (hhooks : s.hooks.Only HookAction.IsProper)
    (hothers : ∀ demands ∈ others, ∀ demand ∈ demands, demand.IsProper) {r : RunResult}
    (hrun : runAmid source others s = .ok (some (.finished r)) t) {f : Failure}
    (hfailure : r.failure = some f) :
    ∃ (i : Nat) (line : Text), f.line = i + 1 ∧ (Text.lines source)[i]? = some line ∧
      ∃ v w, executeLine line v = .error (.fault f.fault) w := by
  have hfirst : Comes source s [] .opening _ := .accepted
  obtain ⟨met, place, v, hmet, hcomes, hcloses⟩ := hfirst.exists_closes others
  rw [← hfirst.runAmid_eq hidle, List.nil_append, hrun] at hcloses
  rw [List.nil_append] at hmet
  have hnumbered := hcomes.numberedAt hhooks hsize fun ds hds => hothers ds (hmet.subset hds)
  cases hcloses with
  | ended hleg =>
      cases Place.passes_of_leg hleg with
      | cancelled | completed => cases hfailure
      | failed =>
          obtain ⟨line, fault, w, -, hline, he, hfail⟩ := exists_of_line_ended hleg
          obtain ⟨i, rfl⟩ := Int.eq_ofNat_of_zero_le hnumbered.1
          have hr := result_of_fail hfail
          rw [hr] at hfailure
          cases hfailure
          exact ⟨i, line, rfl, lines_of_line? hline, v, w, he⟩

/-- **Lines end at breaks.**  The lines of a program are those that its text falls into at its
breaks, and these are the lines between its newlines just if it holds no other break.  A failure is
reported with the number of the breaks in front of its line, and one more.  A comment goes on up to
the next break, and what stands behind the break are lines of their own. -/
theorem lines_end_at_breaks (source : Text) :
    (∀ ls, Text.Splits isBreak source ls ↔ ls = (Program.load source).lines.toList) ∧
      (Text.Splits isNewline source (Program.load source).lines.toList ↔
        ∀ c ∈ source, isBreak c = true → isNewline c = true) ∧
      (∀ {s t : Scheduler} {others : List (List Demand)} {r : RunResult} {f : Failure},
        s.isBusy = false → 1 ≤ s.batchSize → s.hooks.Only HookAction.IsProper →
        (∀ demands ∈ others, ∀ demand ∈ demands, demand.IsProper) →
        runAmid source others s = .ok (some (.finished r)) t → r.failure = some f →
        ∃ before line after, source = before ++ line ++ after ∧
          Text.IsLine isBreak before line after ∧ f.line = Text.countEnds isBreak before + 1 ∧
          ∃ u v, executeLine line u = .error (.fault f.fault) v) ∧
      ∀ before comment after, source = before ++ ';' :: (comment ++ after) →
        (∀ c ∈ comment, isBreak c = false) → (∀ c, after.head? = some c → isBreak c = true) →
        (∀ m : Machine, m.interpret (Text.lines source) =
          m.interpret (Text.lines (before ++ ';' :: after))) ∧
        ∀ ending rest, after = ending ++ rest → Text.IsEnd isBreak ending rest →
          Text.lines source =
            Text.lines (before ++ ';' :: (comment ++ ending)) ++ Text.lines rest := by
  refine ⟨fun _ => Text.splits_iff, Text.splits_newline_iff, ?_, ?_⟩
  · intro s t others r f hidle hsize hhooks hothers hrun hfailure
    obtain ⟨i, line, hnumber, hline, he⟩ :=
      number_of_failure hidle hsize hhooks hothers hrun hfailure
    obtain ⟨before, after, hsource, hwhole, hcount⟩ :=
      (Text.splits_lines source).exists_isLine rfl rfl hline
    exact ⟨before, line, after, hsource, hwhole, by rw [hnumber, hcount], he⟩
  · rintro before comment after rfl hcomment hafter
    refine ⟨interpret_comment hcomment hafter, ?_⟩
    rintro ending rest rfl hend
    have hended := hend.isEnded rfl (before ++ ';' :: comment)
    have hlines := Text.lines_append_of_ended hended
    simpa using hlines

/-- The second line fails, behind one break. -/
theorem second_line_ends_at_break :
    ∃ r t f before line after,
      runAmid secondFails [[]] { machine := .initial 16, batchSize := 1 } =
        .ok (some (.finished r)) t ∧
      r.failure = some f ∧ secondFails = before ++ line ++ after ∧
      Text.IsLine isBreak before line after ∧ f.line = 2 ∧ Text.countEnds isBreak before = 1 := by
  have hended : (ended? (runAmid secondFails [[]] { machine := .initial 16, batchSize := 1 })).map
      (fun last => last.1.failure) = some (some ⟨2, ⟨.unknownRegister, some ['z']⟩⟩) := by decide +kernel
  obtain ⟨r, t, hrun, hr⟩ := exists_of_ended? hended
  have hothers : ∀ demands ∈ [([] : List Demand)], ∀ demand ∈ demands, demand.IsProper := by simp
  obtain ⟨before, line, after, hsource, hline, hnumber, -⟩ :=
    (lines_end_at_breaks secondFails).2.2.1 rfl (by decide) (Hooks.only_none HookAction.IsProper)
      hothers hrun hr
  have hone : (2 : Int) = Text.countEnds isBreak before + 1 := hnumber
  exact ⟨r, t, _, before, line, after, hrun, hr, hsource, hline, rfl, by omega⟩

/-- **A form feed in a comment ends the line**: there is no newline in the text, but what stands
behind the form feed is carried out, and it fails in the second line. -/
theorem form_feed_ends_line :
    let source : Text := [';', ' ', 'a', '\x0c', 'p', 'o', 'p', ' ', 'z']
    Text.Splits isNewline source [source] ∧
      ¬ Text.Splits isNewline source (Program.load source).lines.toList ∧
      ∃ r t, runAmid source [[]] { machine := .initial 16, batchSize := 1 } =
        .ok (some (.finished r)) t ∧ r.failure = some ⟨2, ⟨.unknownRegister, some ['z']⟩⟩ := by
  intro source
  refine ⟨.last (by simp [source, isNewline]) (by decide), ?_, ?_⟩
  · intro hsplits
    have hform := Text.splits_newline_iff.1 hsplits '\x0c' (by decide) (by decide)
    exact absurd hform (by decide)
  · have hended : (ended? (runAmid source [[]] { machine := .initial 16, batchSize := 1 })).map
        (fun last => last.1.failure) = some (some ⟨2, ⟨.unknownRegister, some ['z']⟩⟩) := by
      decide +kernel
    obtain ⟨r, t, hrun, hr⟩ := exists_of_ended? hended
    exact ⟨r, t, hrun, hr⟩

end Scheduler
end Asm16

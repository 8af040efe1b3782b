import CrmAutomation.Execution.Administration
import CrmAutomation.Proofs.Engine.Perform
import CrmAutomation.Proofs.Numeric.Rounding
import CrmAutomation.Proofs.Store.Timestamp
import Mathlib.Algebra.Order.BigOperators.Group.List
import Mathlib.Algebra.Ring.Int.Defs

/-!
The figures over a window of time.

An execution is in the window if the text of its start does not come before the text of the start of
the window, which is to say that it started no earlier. The counts are those of the executions in
the window, and the mean of their durations is a sum and a number of terms, so the order of the
records does not matter to any figure.
-/

namespace CrmAutomation

open EngineM Record Numeric Calendar

namespace Statistics

variable {vs ws : List Value} {rows other : List Row} {m : ℤ}

/-! ### Durations -/

/-- A duration in whole milliseconds, exact as a double. -/
def IsDuration (v : Value) : Prop := ∃ n : ℕ, n < 2 ^ 53 ∧ v = .int n

/-- The milliseconds of a duration. -/
def wholeOf : Value → ℕ
  | .int n => n.toNat
  | _ => 0

lemma foldlM_add (h : ∀ v ∈ vs, IsDuration v) (m : ℤ) :
    vs.foldlM Sum.add (.whole m) = .ok (.whole (m + (vs.map wholeOf).sum)) := by
  induction vs generalizing m with
  | nil => simp [pure, Except.pure]
  | cons v vs ih =>
    obtain ⟨⟨n, -, rfl⟩, hrest⟩ := List.forall_mem_cons.mp h
    have hadd : Sum.add (.whole m) (.int n) = .ok (.whole (m + n)) := rfl
    rw [List.foldlM_cons, hadd]
    refine (ih hrest (m + n)).trans ?_
    simp only [List.map_cons, List.sum_cons, wholeOf, Int.toNat_natCast]
    push_cast
    rw [add_assoc]

lemma sum_le (h : ∀ v ∈ vs, IsDuration v) : (vs.map wholeOf).sum ≤ 2 ^ 53 * vs.length := by
  have hle : ∀ n ∈ vs.map wholeOf, n ≤ 2 ^ 53 := by
    intro n hn
    obtain ⟨v, hv, rfl⟩ := List.mem_map.mp hn
    obtain ⟨n, hlt, rfl⟩ := h v hv
    exact hlt.le
  have hsum := List.sum_le_card_nsmul _ _ hle
  rwa [List.length_map, Nat.nsmul_eq_mul, Nat.mul_comm] at hsum

lemma isFinite_mean (h : ∀ v ∈ vs, IsDuration v) :
    (Binary64.ofQuotient (vs.map wholeOf).sum vs.length).isFinite = true := by
  refine Binary64.isFinite_ofQuotient ?_
  rw [Int.natAbs_natCast]
  exact sum_le h

lemma mean_whole {count : ℕ} (h : (Binary64.ofQuotient m count).isFinite = true) :
    (Sum.whole m).mean count = .ok (Binary64.ofQuotient m count) := by
  unfold Sum.mean
  dsimp only
  rw [if_pos h]

lemma meanMs_of_mean {s : Sum} {x : Binary64} (hne : vs ≠ [])
    (hs : vs.foldlM Sum.add (.whole 0) = .ok s) (hx : s.mean vs.length = .ok x) :
    meanMs vs = x.round.mapError .noInteger := by
  have hempty : vs.isEmpty = false := List.isEmpty_eq_false_iff.mpr hne
  rw [meanMs, hempty, hs]
  simp only [Bool.false_eq_true, if_false, bind, Except.bind]
  rw [hx]

lemma meanMs_eq (h : ∀ v ∈ vs, IsDuration v) (hne : vs ≠ []) :
    meanMs vs =
      (Binary64.ofQuotient (vs.map wholeOf).sum vs.length).round.mapError .noInteger := by
  have hsum : vs.foldlM Sum.add (.whole 0) = .ok (.whole (vs.map wholeOf).sum) := by
    rw [foldlM_add h, Int.zero_add]
  exact meanMs_of_mean hne hsum (mean_whole (isFinite_mean h))

lemma exists_meanMs (h : ∀ v ∈ vs, IsDuration v) : ∃ ms, meanMs vs = .ok ms := by
  by_cases hne : vs = []
  · subst hne
    exact ⟨0, rfl⟩
  · have hfinite := isFinite_mean h
    rw [meanMs_eq h hne]
    cases hx : Binary64.ofQuotient (vs.map wholeOf).sum vs.length with
    | finite b u => exact ⟨_, rfl⟩
    | nan p =>
      rw [hx] at hfinite
      cases hfinite
    | infinite b =>
      rw [hx] at hfinite
      cases hfinite

lemma meanMs_perm (h : ∀ v ∈ vs, IsDuration v) (hp : vs.Perm ws) : meanMs vs = meanMs ws := by
  by_cases hne : vs = []
  · subst hne
    rw [List.nil_perm.mp hp]
  · have hws : ∀ v ∈ ws, IsDuration v := fun v hv => h v (hp.mem_iff.mpr hv)
    have hwne : ws ≠ [] := fun hw => hne (hw ▸ hp).eq_nil
    rw [meanMs_eq h hne, meanMs_eq hws hwne, (hp.map wholeOf).sum_eq, hp.length_eq]

/-! ### Counts -/

lemma isDuration_of_mem
    (h : ∀ row ∈ rows, row.get "duration_ms" = .null ∨ IsDuration (row.get "duration_ms")) :
    ∀ v ∈ durations rows, IsDuration v := by
  intro v hv
  obtain ⟨hmem, hnull⟩ := List.mem_filter.mp hv
  obtain ⟨row, hrow, rfl⟩ := List.mem_map.mp hmem
  exact (h row hrow).resolve_left (bne_iff_ne.mp hnull)

lemma countOf_add_le (rows : List Row) :
    countOf .completed rows + countOf .failed rows + countOf .running rows ≤ rows.length := by
  induction rows with
  | nil => exact Nat.le_refl 0
  | cons row rows ih =>
    unfold countOf at ih ⊢
    rw [List.countP_cons, List.countP_cons, List.countP_cons, List.length_cons]
    have hone : (if row.get "status" == RunStatus.completed.value then 1 else 0) +
        (if row.get "status" == RunStatus.failed.value then 1 else 0) +
        (if row.get "status" == RunStatus.running.value then 1 else 0) ≤ 1 := by
      by_cases hcompleted : row.get "status" = RunStatus.completed.value
      · rw [hcompleted]
        decide
      · by_cases hfailed : row.get "status" = RunStatus.failed.value
        · rw [hfailed]
          decide
        · simp only [beq_iff_eq, hcompleted, hfailed, if_false]
          split <;> decide
    omega

lemma exists_ofRows
    (h : ∀ row ∈ rows, row.get "duration_ms" = .null ∨ IsDuration (row.get "duration_ms")) :
    ∃ st, ofRows rows = .ok st ∧ st.total = rows.length ∧
      st.completed = countOf .completed rows ∧ st.failed = countOf .failed rows ∧
      st.running = countOf .running rows := by
  obtain ⟨ms, hms⟩ := exists_meanMs (isDuration_of_mem h)
  simp only [ofRows]
  rw [hms]
  exact ⟨_, rfl, rfl, rfl, rfl, rfl⟩

/-- **The figures do not depend on the order of the rows.** -/
lemma ofRows_perm
    (h : ∀ row ∈ rows, row.get "duration_ms" = .null ∨ IsDuration (row.get "duration_ms"))
    (hp : rows.Perm other) : ofRows rows = ofRows other := by
  have hcount (status : RunStatus) : countOf status rows = countOf status other := hp.countP_eq _
  have hmean : meanMs (durations rows) = meanMs (durations other) :=
    meanMs_perm (isDuration_of_mem h) ((hp.map _).filter _)
  simp only [ofRows]
  rw [hmean, hcount, hcount, hcount, hp.length_eq]

end Statistics

/-! ### The window -/

lemma Calendar.Instant.addDays_of_dated {t days : ℤ} (ht : t ∈ Instant.dated)
    (hu : t + days * dayMs ∈ Instant.dated) : Instant.addDays t days = .ok (t + days * dayMs) := by
  obtain ⟨hlow, hhigh⟩ := ht
  obtain ⟨hlow', hhigh'⟩ := hu
  simp only [epochDays, dayMs, dayLimit] at hlow hhigh hlow' hhigh'
  have hword : ¬(days < -2147483648 || 2147483647 < days) = true := by
    simp only [Bool.or_eq_true, decide_eq_true_eq]
    omega
  have hcount : ¬999999999 < days.natAbs := by omega
  have hbefore : ¬t + days * dayMs + epochDays * dayMs < 0 := by
    simp only [epochDays, dayMs]
    omega
  have hafter : ¬(dayLimit : ℤ) * dayMs ≤ t + days * dayMs + epochDays * dayMs := by
    simp only [epochDays, dayMs, dayLimit]
    omega
  unfold Instant.addDays
  rw [if_neg hword, if_neg hcount]
  exact if_neg (by simp [hbefore, hafter])

namespace Execution

/-- The record of an execution that began at a moment of years 1 to 9999, with a duration or
without one. -/
structure Chronicled (began : Row → ℤ) (row : Row) : Prop where
  dated : began row ∈ Moment.dated
  start : row.get "started_at" = .text (Moment.isoText (began row))
  duration : row.get "duration_ms" = .null ∨ Statistics.IsDuration (row.get "duration_ms")

/-- The execution is one of the workflow, if one is named, and began no earlier than a moment. -/
def InWindow (workflow : Option String) (since : ℤ) (began : Row → ℤ) (row : Row) : Prop :=
  since ≤ began row ∧ ∀ w ∈ workflow, row.get "workflow_id" = .text w

instance (workflow : Option String) (since : ℤ) (began : Row → ℤ) :
    DecidablePred (InWindow workflow since began) := fun _ =>
  inferInstanceAs (Decidable (_ ∧ ∀ w ∈ workflow, _))

variable {began : Row → ℤ} {row : Row} {rows : List Row} {workflow : Option String} {since : ℤ}
  {e k : Engine}

lemma matchesAll_ofWorkflow : matchesAll (ofWorkflow (Value.ofText? workflow)) row = true ↔
    ∀ w ∈ workflow, w ≠ "" → row.get "workflow_id" = .text w := by
  cases workflow with
  | none => exact iff_of_true rfl nofun
  | some w =>
    by_cases hw : w = ""
    · subst hw
      exact iff_of_true rfl fun w hmem hne => absurd (Option.some.inj hmem).symm hne
    · have htruthy : (Value.text w).isTruthy = true := by
        rw [Value.isTruthy]
        simpa using hw
      rw [Value.ofText?, ofWorkflow, if_pos htruthy]
      simp [matchesAll, Filter.passes, Relation.holds, Value.agrees_text, hw]

/-- **The filters of the figures pass the executions in the window.** -/
lemma matchesAll_window (h : Chronicled began row) (hw : workflow ≠ some "") {t : ℤ}
    (ht : t ∈ Instant.dated) :
    matchesAll (⟨"started_at", .greaterThanOrEqual, .text (Instant.isoText t)⟩ ::
        ofWorkflow (Value.ofText? workflow)) row = true ↔
      InWindow workflow (1000 * t) began row := by
  have hstart : (Filter.passes ⟨"started_at", .greaterThanOrEqual, .text (Instant.isoText t)⟩
      row) = true ↔ 1000 * t ≤ began row := by
    rw [Filter.passes, h.start, Relation.holds_text, Instant.isoText_eq,
      Relation.says_text Moment.isoText_strictMonoOn h.dated (Instant.moment_mem ht)]
    rfl
  have hcons (f : Filter) (fs : List Filter) :
      matchesAll (f :: fs) row = true ↔ f.passes row = true ∧ matchesAll fs row = true := by
    rw [matchesAll, List.all_cons, Bool.and_eq_true]
    rfl
  have hnamed : (∀ w ∈ workflow, w ≠ "" → row.get "workflow_id" = .text w) ↔
      ∀ w ∈ workflow, row.get "workflow_id" = .text w := by
    refine forall₂_congr fun w hmem => ?_
    have hne : w ≠ "" := by
      rintro rfl
      exact hw hmem
    exact ⟨fun h => h hne, fun h _ => h⟩
  rw [hcons, hstart, matchesAll_ofWorkflow, hnamed, InWindow]

/-- The start of the window: so many days before now. -/
def windowStart (e : Engine) : ℤ := e.clock - e.settings.executionStatsWindowDays * dayMs

lemma perform_statistics (hnow : e.clock ∈ Instant.dated) (hsince : windowStart e ∈ Instant.dated)
    (hanswers : e.store.Answers executionsTable) (workflow : Value) :
    ((statistics workflow).perform e).1 =
      match Statistics.ofRows ((e.store.rows executionsTable).filter (matchesAll
        (⟨"started_at", .greaterThanOrEqual, .text (Instant.isoText (windowStart e))⟩ ::
          ofWorkflow workflow))) with
      | .ok st => .ok st
      | .error c => .error (.crash c) := by
  have hstart : e.clock + -e.settings.executionStatsWindowDays * dayMs = windowStart e := by
    rw [windowStart, Int.neg_mul]
    rfl
  have hdays := Instant.addDays_of_dated hnow (by rw [hstart]; exact hsince)
  rw [hstart] at hdays
  obtain ⟨s, hrows⟩ := perform_select hanswers
    { filters := ⟨"started_at", .greaterThanOrEqual, .text (Instant.isoText (windowStart e))⟩ ::
        ofWorkflow workflow }
  unfold statistics
  rw [perform_bind_of_ok (rfl : settings.perform e = (.ok e.settings, e)),
    perform_bind_of_ok (perform_now e), hdays,
    perform_bind_of_ok (perform_ofExcept_ok.mpr ⟨rfl, rfl⟩)]
  refine (congrArg Prod.fst (perform_bind_of_ok hrows)).trans ?_
  have hsorted (rows : List Row) : limited none (sorted rows none false) = rows := rfl
  rw [hsorted]
  cases Statistics.ofRows _ with
  | ok st => rfl
  | error c => rfl

/-- **The figures over the window.** If the store answers, they count the executions, of the
workflow if one is named, that began no earlier than the window; each state is counted by itself,
and any store with the same records in another order yields the same figures. -/
theorem statistics_window (began : Row → ℤ) (workflow : Option String) (e : Engine)
    (hrows : ∀ row ∈ e.store.rows executionsTable, Chronicled began row)
    (hworkflow : workflow ≠ some "") (hnow : e.clock ∈ Instant.dated)
    (hsince : windowStart e ∈ Instant.dated) (hanswers : e.store.Answers executionsTable) :
    ∃ st, ((statistics (Value.ofText? workflow)).perform e).1 = .ok st ∧
      (let counted := (e.store.rows executionsTable).filter
        (InWindow workflow (1000 * windowStart e) began)
      st.total = counted.length ∧
        st.completed = counted.countP (·.get "status" = .text "completed") ∧
        st.failed = counted.countP (·.get "status" = .text "failed") ∧
        st.running = counted.countP (·.get "status" = .text "running")) ∧
      st.completed + st.failed + st.running ≤ st.total ∧
      ∀ k : Engine, k.settings = e.settings → k.clock = e.clock →
        k.store.Answers executionsTable →
        (k.store.rows executionsTable).Perm (e.store.rows executionsTable) →
        ((statistics (Value.ofText? workflow)).perform k).1 = .ok st := by
  let filters : List Filter :=
    ⟨"started_at", .greaterThanOrEqual, .text (Instant.isoText (windowStart e))⟩ ::
      ofWorkflow (Value.ofText? workflow)
  have hpassed : (e.store.rows executionsTable).filter (matchesAll filters) =
      (e.store.rows executionsTable).filter (InWindow workflow (1000 * windowStart e) began) := by
    refine List.filter_congr fun row hrow => ?_
    rw [Bool.eq_iff_iff, decide_eq_true_iff]
    exact matchesAll_window (hrows row hrow) hworkflow hsince
  have hdurations : ∀ row ∈ (e.store.rows executionsTable).filter (matchesAll filters),
      row.get "duration_ms" = .null ∨ Statistics.IsDuration (row.get "duration_ms") :=
    fun row hrow => (hrows row (List.mem_of_mem_filter hrow)).duration
  have hcount (status : RunStatus) (rows : List Row) : Statistics.countOf status rows =
      rows.countP (·.get "status" = .text status.name) :=
    List.countP_congr fun row _ => by
      rw [beq_iff_eq, decide_eq_true_iff]
      rfl
  obtain ⟨st, hst, htotal, hcompleted, hfailed, hrunning⟩ := Statistics.exists_ofRows hdurations
  refine ⟨st, ?_, ?_, ?_, fun k hsettings hclock hk hperm => ?_⟩
  · rw [perform_statistics hnow hsince hanswers, hst]
  · rw [hpassed] at htotal hcompleted hfailed hrunning
    rw [hcount] at hcompleted hfailed hrunning
    exact ⟨htotal, hcompleted, hfailed, hrunning⟩
  · rw [hcompleted, hfailed, hrunning, htotal]
    exact Statistics.countOf_add_le _
  · have hstart : windowStart k = windowStart e := by
      rw [windowStart, windowStart, hsettings, hclock]
    have hsame := Statistics.ofRows_perm hdurations (hperm.symm.filter (matchesAll filters))
    rw [perform_statistics (by rwa [hclock]) (by rwa [hstart]) hk, hstart, ← hsame, hst]

/-- A window that starts on the second, and executions at its start, within that second and just
before it. -/
def bounded : Engine where
  store := { backend := .memory [(executionsTable, [
    [("started_at", .text (Moment.isoText 1706702400000000)), ("status", .text "running")],
    [("started_at", .text (Moment.isoText 1706702400000001)), ("status", .text "failed"),
      ("duration_ms", .int 7)],
    [("started_at", .text (Moment.isoText 1706702399999999)), ("status", .text "completed"),
      ("duration_ms", .int 9)]])] }

theorem statistics_window_bounded :
    ∃ st, ((statistics .null).perform bounded).1 = .ok st ∧ st.total = 2 ∧ st.completed = 0 ∧
      st.failed = 1 ∧ st.running = 1 := by
  let began (row : Row) : ℤ :=
    if row.get "status" = .text "running" then 1706702400000000
    else if row.get "status" = .text "failed" then 1706702400000001 else 1706702399999999
  have hrows : ∀ row ∈ bounded.store.rows executionsTable, Chronicled began row := by
    refine List.forall_mem_cons.mpr ⟨?_, List.forall_mem_cons.mpr ⟨?_,
      List.forall_mem_singleton.mpr ?_⟩⟩
    · exact ⟨⟨by decide, by decide⟩, rfl, .inl rfl⟩
    · exact ⟨⟨by decide, by decide⟩, rfl, .inr ⟨7, by decide, rfl⟩⟩
    · exact ⟨⟨by decide, by decide⟩, rfl, .inr ⟨9, by decide, rfl⟩⟩
  obtain ⟨st, hst, ⟨htotal, hcompleted, hfailed, hrunning⟩, -⟩ :=
    statistics_window began none bounded hrows (by decide) ⟨by decide, by decide⟩
      ⟨by decide, by decide⟩ ⟨rfl, rfl⟩
  refine ⟨st, hst, ?_⟩
  rw [htotal, hcompleted, hfailed, hrunning]
  decide

end Execution

end CrmAutomation

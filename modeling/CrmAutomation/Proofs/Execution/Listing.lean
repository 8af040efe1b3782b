import CrmAutomation.Proofs.Execution.Chronicle
import CrmAutomation.Proofs.Execution.Figures

/-!
Listing executions, the newest first.

Every record says when its run started, in a text; the texts are in the order of time, and the sort
is stable, so what is listed is in the order of the starts and, where runs started at one instant,
in the order in which they were made. A limit cuts off what started earliest.
-/

namespace CrmAutomation

open EngineM Record Run Calendar

namespace Execution

variable {rows : List Row} {row : Row} {began : Row → ℤ} {workflow : Option String} {e : Engine}
  {n : ℕ}

/-! ### By the start -/

/-- The row says when its execution began, in years 1 to 9999. -/
structure SaysStart (began : Row → ℤ) (row : Row) : Prop where
  dated : began row ∈ Instant.dated
  start : row.get "started_at" = .text (Instant.isoText (began row))

lemma comparedBy_start (h : ∀ row ∈ rows, SaysStart began row) :
    ComparedBy "started_at" rows began :=
  comparedBy_of_strictMonoOn Instant.isoText_strictMonoOn fun row hrow =>
    ⟨(h row hrow).dated, (h row hrow).start⟩

lemma arranged_by_start (h : ∀ row ∈ rows, SaysStart began row) (descending : Bool) :
    Arranged began descending rows (sorted rows (some "started_at") descending) := by
  have hpresent : rows.filter (hasValue "started_at") = rows := by
    refine List.filter_eq_self.mpr fun row hrow => hasValue_iff.mpr ?_
    rw [(h row hrow).start]
    nofun
  have hmissing : (rows.filter fun row => !hasValue "started_at" row) = [] := by
    refine List.filter_eq_nil_iff.mpr fun row hrow => ?_
    have hvalue : hasValue "started_at" row = true :=
      List.filter_eq_self.mp hpresent row hrow
    rw [hvalue]
    exact Bool.false_ne_true
  rw [sorted_of_truthy (by decide), hpresent, hmissing, List.append_nil]
  exact (comparedBy_start h).ordered descending

/-! ### The first ones -/

/-- The execution is one of the workflow, if one is named. -/
def OfWorkflow (workflow : Option String) (row : Row) : Prop :=
  ∀ w ∈ workflow, w ≠ "" → row.get "workflow_id" = .text w

instance (workflow : Option String) : DecidablePred (OfWorkflow workflow) := fun _ =>
  inferInstanceAs (Decidable (∀ w ∈ workflow, _))

lemma perform_list (hanswers : e.store.Answers executionsTable) (hn : 1 ≤ n) :
    ((list (Value.ofText? workflow) (.int n)).perform e).1 =
      .ok ((sorted ((e.store.rows executionsTable).filter (OfWorkflow workflow))
        (some "started_at") true).take n) := by
  have hfilter : (e.store.rows executionsTable).filter
      (matchesAll (ofWorkflow (Value.ofText? workflow))) =
        (e.store.rows executionsTable).filter (OfWorkflow workflow) := by
    refine List.filter_congr fun row _ => ?_
    rw [Bool.eq_iff_iff, decide_eq_true_iff, matchesAll_ofWorkflow]
    rfl
  obtain ⟨s, hselect⟩ := perform_select hanswers
    { filters := ofWorkflow (Value.ofText? workflow), orderBy := some "started_at",
      descending := true }
  have hlimit (settings : Settings) : readLimit (limitOr (.int n) settings) = .ok (n : ℤ) := by
    have htruthy : (Value.int n).isTruthy = true := by
      simp only [Value.isTruthy, bne_iff_ne]
      omega
    rw [limitOr, Value.orElse, if_pos htruthy]
    rfl
  unfold list
  rw [perform_bind_of_ok (rfl : settings.perform e = (.ok e.settings, e)),
    perform_bind_of_ok hselect, hlimit, hfilter]
  have hcut (rows : List Row) : limited (some (n : ℤ)) rows = rows.take n := by
    have hpos : ¬(n : ℤ) < 0 := by omega
    simp only [limited, if_neg hpos, Int.toNat_natCast]
  exact congrArg Except.ok (hcut _)

lemma began_le_of_arranged {items listed omitted : List Row}
    (h : Arranged began true items (listed ++ omitted)) :
    ∀ a ∈ listed, ∀ b ∈ omitted, began b ≤ began a :=
  (List.pairwise_append.mp h.sorted).2.2

/-! ### Annals -/

lemma exists_began {xs : List Start} {s : Store} (h : Annals xs s)
    (hclock : ∀ x ∈ xs, x.engine.clock ∈ Instant.dated) :
    ∃ began : Row → ℤ, (∀ x ∈ xs, ∀ row, x.Begun row → began row = x.engine.clock) ∧
      ∀ row ∈ s.rows executionsTable, SaysStart began row := by
  classical
  let began (row : Row) : ℤ := if h : ∃ x ∈ xs, x.Begun row then h.choose.engine.clock else 0
  -- the text of a start stands for one instant, so any run that a row is the record of will do
  have hbegan : ∀ x ∈ xs, ∀ row, x.Begun row → began row = x.engine.clock := by
    intro x hx row hbegun
    have hex : ∃ x ∈ xs, x.Begun row := ⟨x, hx, hbegun⟩
    obtain ⟨hmem, hchosen⟩ := hex.choose_spec
    have htext : Instant.isoText hex.choose.engine.clock = Instant.isoText x.engine.clock :=
      Value.text.inj (Option.some.inj (hchosen.started.symm.trans hbegun.started))
    have hclocks : hex.choose.engine.clock = x.engine.clock :=
      Instant.isoText_strictMonoOn.injOn (hclock _ hmem) (hclock x hx) htext
    rw [← hclocks]
    exact dif_pos hex
  refine ⟨began, hbegan, fun row hrow => ?_⟩
  obtain ⟨x, hx, hbegun⟩ := exists_of_forall₂ h.records.flip hrow
  have hstart := hbegan x hx row hbegun
  constructor
  · rw [hstart]
    exact hclock x hx
  · rw [Fields.get, hbegun.started, hstart]
    rfl

end Execution

namespace Session

open Execution

/-- **The newest executions first.** After any session that started without executions, whose runs
start in years 1 to 9999 and whose nodes spare the table of executions, the table holds the records
of runs in the order in which they were made. If the store answers, a list of the executions, of a
workflow if one is named, has as many of them as the limit allows: in the order of their starts, the
newest first and those of one instant as they were made, none of them twice. What is left out began
no later than what is listed. -/
theorem listed_newest_first (calls : List Call) (e : Engine)
    (hempty : e.store.rows executionsTable = [])
    (havoids : ∀ x ∈ starts calls e, ∀ t, x.Ran t → t.Avoids executionsTable)
    (hclock : ∀ x ∈ starts calls e, x.engine.clock ∈ Instant.dated)
    (hanswers : (after calls e).store.Answers executionsTable)
    (workflow : Option String) (n : ℕ) (hn : 1 ≤ n) :
    ∃ (xs : List Start) (began : Row → ℤ) (listed omitted : List Row),
      xs ⊆ starts calls e ∧ Annals xs (after calls e).store ∧
      (∀ x ∈ xs, ∀ row, x.Begun row → began row = x.engine.clock) ∧
      ((list (Value.ofText? workflow) (.int n)).perform (after calls e)).1 = .ok listed ∧
      (let chosen := ((after calls e).store.rows executionsTable).filter (OfWorkflow workflow)
      listed.length = min n chosen.length ∧ Arranged began true chosen (listed ++ omitted)) ∧
      (∀ a ∈ listed, ∀ b ∈ omitted, began b ≤ began a) ∧
      (listed.map (·.get "id")).Nodup := by
  obtain ⟨xs, hsub, hannals⟩ := annals_after hempty havoids
  obtain ⟨began, hbegan, hsays⟩ := exists_began hannals fun x hx => hclock x (hsub hx)
  let chosen := ((after calls e).store.rows executionsTable).filter (OfWorkflow workflow)
  let newest := sorted chosen (some "started_at") true
  have harranged : Arranged began true chosen newest :=
    arranged_by_start (fun row hrow => hsays row (List.mem_of_mem_filter hrow)) true
  have hcut : Arranged began true chosen (newest.take n ++ newest.drop n) := by
    rw [List.take_append_drop]
    exact harranged
  have hnodup : (chosen.map (·.get "id")).Nodup :=
    hannals.nodup.sublist (List.filter_sublist.map _)
  refine ⟨xs, began, newest.take n, newest.drop n, hsub, hannals, hbegan, perform_list hanswers hn,
    ⟨?_, hcut⟩, began_le_of_arranged hcut, ?_⟩
  · rw [List.length_take, harranged.perm.length_eq]
  · exact ((harranged.perm.map _).nodup_iff.mpr hnodup).sublist ((List.take_sublist n _).map _)

/-- A workflow without nodes, which fails. -/
def bare : Definition where
  id := "w"
  triggerType := .manual

/-- Two runs that start at one instant, and one that starts later. -/
def evening : List Call := [
  .run bare (.text "manual") .null (.int 0), .run bare (.text "manual") .null (.int 0),
  .pause 1, .run bare (.text "manual") .null (.int 0)]

theorem listed_newest_first_evening :
    ∃ listed, ((list (.text "w") (.int 2)).perform (after evening {})).1 = .ok listed ∧
      listed.length = 2 ∧ (listed.map (·.get "id")).Nodup := by
  have hruns : ∀ x ∈ starts evening {}, ∀ t, x.Ran t → t.Avoids executionsTable := by
    have htraces : ∀ x ∈ starts evening {}, ∃ t ∈ traceOf? x, t.Avoids executionsTable := by
      decide +kernel
    intro x hx t ht
    obtain ⟨t', ht', havoids⟩ := htraces x hx
    rw [ran_unique ht (ran_of_trace? ht')]
    exact havoids
  have hclock : ∀ x ∈ starts evening {}, x.engine.clock ∈ Instant.dated := by
    have hyears : ∀ x ∈ starts evening {},
        0 ≤ x.engine.clock + epochDays * dayMs ∧
          x.engine.clock + epochDays * dayMs < dayLimit * dayMs := by
      decide +kernel
    exact hyears
  have hanswers : (after evening {}).store.Answers executionsTable :=
    ⟨by decide +kernel, by decide +kernel⟩
  obtain ⟨-, -, listed, -, -, -, -, hlist, ⟨hlength, -⟩, -, hnodup⟩ :=
    listed_newest_first evening {} rfl hruns hclock hanswers (some "w") 2 (by decide)
  refine ⟨listed, hlist, hlength.trans ?_, hnodup⟩
  decide +kernel

end Session

end CrmAutomation

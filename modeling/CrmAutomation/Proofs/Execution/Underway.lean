import CrmAutomation.Proofs.Execution.Settled
import CrmAutomation.Proofs.Run.Start

/-!
Runs leave rows settled.

While a run is in progress, every row with its id is its record and says that it is in progress. So
it is when the run starts, for its id is new, and so it stays until the outcome is written, which
is the last thing that a run writes.
-/

namespace CrmAutomation.Run

open EngineM Record Relation Execution

/-- Every row with the id is the record of the run, and in the state. -/
def InState (id : String) (status : RunStatus) (s : Store) : Prop :=
  ∀ row ∈ s.rows executionsTable, row.get "id" = .text id →
    Records id row ∧ row.find? "status" = some status.value

/-- The identifier that is drawn for the run is not that of a row. -/
def Start.Fresh (x : Start) : Prop :=
  ∀ row ∈ x.engine.store.rows executionsTable, row.get "id" ≠ .text x.id

instance (x : Start) : Decidable x.Fresh :=
  inferInstanceAs (Decidable (∀ row ∈ x.engine.store.rows executionsTable,
    row.get "id" ≠ .text x.id))

/-- If the run makes its record, its id is new, and its nodes spare the table of executions. -/
def Start.Sparing (x : Start) : Prop := ∀ t, x.Ran t → x.Fresh ∧ t.Avoids executionsTable

variable {x : Start} {t : Trace} {id : String} {s k : Store} {patch : Fields}

lemma settled_of_running (h : InState id .running s) (hp : patch.Plain)
    (hid : patch.find? "id" = none) :
    Settled s (s.update executionsTable patch (ownRecord id)).2 := by
  refine settled_of_update hp hid fun row hrow hm => ?_
  obtain ⟨-, hst⟩ := h row hrow (matchesAll_id.mp hm)
  apply not_finished_of_running
  rw [Fields.get, hst]
  rfl

lemma inState_of_rows {status : RunStatus}
    (hrows : k.rows executionsTable = s.rows executionsTable) (h : InState id status s) :
    InState id status k := by
  unfold InState
  rw [hrows]
  exact h

lemma inState_of_update {status status' : RunStatus} {fs : List Filter} {n : ℕ}
    (h : InState id status s) (hu : s.update executionsTable patch fs = (.ok n, k))
    (hp : patch.Plain) (hid : patch.find? "id" = none)
    (hfs : ∀ row, matchesAll fs row = true → row.get "id" = .text id)
    (hst : ∀ row ∈ s.rows executionsTable, row.get "id" = .text id →
      (if matchesAll fs row = true then s.overwrite row patch else row).find? "status" =
        some status'.value) : InState id status' k := by
  intro row' hrow' hid'
  rw [Store.rows_update hu executionsTable, if_pos rfl] at hrow'
  obtain ⟨row, hrow, rfl⟩ := List.mem_map.mp hrow'
  have hold : row.get "id" = .text id := by
    by_cases hm : matchesAll fs row = true
    · exact hfs row hm
    · rw [if_neg hm] at hid'
      exact hid'
  refine ⟨?_, hst row hrow hold⟩
  obtain ⟨hr, -⟩ := h row hrow hold
  split
  · exact records_overwrite hr hp hid s
  · exact hr

lemma find?_status_overwrite {status : RunStatus} {row : Row} (hr : Records id row)
    (hst : row.find? "status" = some status.value) (hp : patch.Plain)
    (hno : patch.find? "status" = none) (s : Store) :
    (s.overwrite row patch).find? "status" = some status.value := by
  have hjson : ∀ v, row.find? "status" = some v → v.IsJson := by
    intro v hv
    rw [hst] at hv
    cases hv
    exact Value.isJson_text _
  rw [Store.find?_overwrite_other hr.plain hp hno hjson, hst]

lemma inState_of_write {status : RunStatus} (h : InState id status s) (hp : patch.Plain)
    (hid : patch.find? "id" = none) (hno : patch.find? "status" = none) :
    InState id status (s.update executionsTable patch (ownRecord id)).2 := by
  rcases hu : s.update executionsTable patch (ownRecord id) with ⟨r | n, k⟩
  · exact inState_of_rows (Store.rows_update_error hu executionsTable) h
  · refine inState_of_update h hu hp hid (fun row hm => matchesAll_id.mp hm) fun row hrow hold => ?_
    obtain ⟨hr, hst⟩ := h row hrow hold
    rw [if_pos (matches_own hr)]
    exact find?_status_overwrite hr hst hp hno s

lemma proceeds_of_works (h : Works (· ≠ executionsTable) id s k) (hu : InState id .running s) :
    Proceeds s [k] k ∧ InState id .running k := by
  cases h with
  | other h =>
    exact ⟨.one (h.mono fun _ _ => trivial) (settled_of_moves h),
      inState_of_rows (Store.rows_of_moves h) hu⟩
  | progress r h =>
    have hp := plain_progressPatch r
    exact ⟨.one (.update s _ _ _ trivial) (settled_of_running hu hp rfl),
      inState_of_write hu hp rfl rfl⟩

lemma proceeds_of_path (h : ReflTransGen (Works (· ≠ executionsTable) id) s k)
    (hu : InState id .running s) :
    (∃ ss, Proceeds s ss k) ∧ InState id .running k := by
  induction h with
  | refl => exact ⟨⟨_, .still⟩, hu⟩
  | tail _ h ih =>
    obtain ⟨⟨ss, hss⟩, hu⟩ := ih
    obtain ⟨hk, hu⟩ := proceeds_of_works h hu
    exact ⟨⟨_, hss.append hk⟩, hu⟩

lemma running_of_made (h : x.Ran t) (hf : x.Fresh) : InState x.id .running t.made.store := by
  obtain ⟨row, hrows, hrow⟩ := record_of_launch h.launched
  rw [Start.id_of_ran h] at hrow
  intro row' hrow' hid
  rw [hrows] at hrow'
  rcases List.mem_append.mp hrow' with hold | hnew
  · exact absurd hid (hf row' hold)
  · rw [List.mem_singleton.mp hnew]
    exact ⟨hrow.toRecords, hrow.status⟩

lemma proceeds_of_ran (h : x.Ran t) (hf : x.Fresh) (ha : t.Avoids executionsTable) :
    ∃ ss, Proceeds x.engine.store ss x.outcome.2.store := by
  have hstart : Proceeds x.engine.store [t.made.store] t.made.store := by
    obtain ⟨row, hmade⟩ := store_of_launch h.launched
    rw [hmade]
    exact .one (.insert _ _ _ row trivial) (settled_of_insert _ _ row)
  have hw := works_of_ran h (within_of_avoids ha)
  rw [Start.id_of_ran h] at hw
  obtain ⟨⟨ss, hss⟩, hu⟩ := proceeds_of_path hw (running_of_made h hf)
  rcases store_of_ran h with hs | hs
  · exact ⟨_, hs ▸ hstart.append hss⟩
  · have hclosed : Proceeds t.walked.store [t.closed x.definition] (t.closed x.definition) := by
      unfold Trace.closed
      rw [Start.id_of_ran h]
      exact .one (.update _ _ _ _ trivial) (settled_of_running hu (plain_outcomePatch _ _ _ _)
        (find?_outcomePatch _ _ _ _ (by decide)))
    exact ⟨_, hs ▸ (hstart.append hss).append hclosed⟩

/-- **A run leaves rows settled**, whatever comes of it, if it spares the table of executions. -/
theorem proceeds_of_outcome (h : x.Sparing) :
    ∃ ss, Proceeds x.engine.store ss x.outcome.2.store := by
  -- without a trace no record was made, and the rows are as they were
  by_cases hr : ∃ t, x.Ran t
  · obtain ⟨t, ht⟩ := hr
    exact proceeds_of_ran ht (h t ht).1 (h t ht).2
  · rcases store_of_unlaunched (fun t ht => hr ⟨t, ht⟩) with hs | ⟨given, r, -, hi⟩
    · exact ⟨[], hs ▸ .still⟩
    · have hs : (x.engine.store.insert x.engine.clock executionsTable
          (startRow x.definition x.event given x.retryCount x.engine.clock)).2 =
            x.outcome.2.store := congrArg Prod.snd hi
      rw [← hs]
      exact ⟨_, .one (.insert _ _ _ _ trivial) (settled_of_insert _ _ _)⟩

end CrmAutomation.Run

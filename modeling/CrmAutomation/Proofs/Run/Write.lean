import CrmAutomation.Proofs.Engine.Frame
import CrmAutomation.Proofs.Run.Launch
import CrmAutomation.Proofs.Store.Refusal

/-!
How a run writes to its record.

The progress after a node and the outcome at the end are written the same way: to the rows that
carry the id of the run, and if the store fails that is logged. The record keeps its id and its
place.
-/

namespace CrmAutomation

open EngineM Record Calendar

namespace Run

/-- Writes fields to the record of a run; a failure of the store to do so is only logged. -/
def write (patch : Fields) (id event : String) : EngineM Unit :=
  (do let _ ← update executionsTable patch (ownRecord id)).onStorageFault fun _ =>
    log .error event

lemma recordProgress_eq (r : Run) :
    recordProgress r = write r.progressPatch r.id "Failed to record execution progress" := rfl

lemma finalize_eq (r : Run) (status : RunStatus) (error : Option Value) (e : Engine) :
    (finalize r status error).perform e =
      (do
        write (r.outcomePatch status error e.clock) r.id "Failed to finalize execution"
        log .info "Workflow execution finished").perform e :=
  perform_bind_of_ok (perform_now e)

/-- The store takes the fields for the record of a run. -/
def Takes (s : Store) (patch : Fields) (id : String) (s' : Store) : Prop :=
  ∃ n, s.update executionsTable patch (ownRecord id) = (.ok n, s')

instance (s : Store) (patch : Fields) (id : String) (s' : Store) :
    Decidable (Takes s patch id s') :=
  match h : s.update executionsTable patch (ownRecord id) with
  | (.ok n, k) =>
    if hk : k = s' then .isTrue ⟨n, hk ▸ h⟩
    else .isFalse fun ⟨m, hm⟩ => by
      rw [h] at hm
      cases hm
      exact hk rfl
  | (.error _, _) => .isFalse fun ⟨m, hm⟩ => by
      rw [h] at hm
      cases hm

variable {patch : Fields} {id event : String} {e e' : Engine} {s s' : Store} {row : Row} {n : ℕ}

lemma perform_write (patch : Fields) (id event : String) (e : Engine) :
    (write patch id event).perform e =
      match e.store.update executionsTable patch (ownRecord id) with
      | (.ok _, s) => (.ok (), { e with store := s })
      | (.error (.fault f), s) =>
        (.ok (), ({ e with store := s }.notingAll (databaseNotes f)).noting .error event)
      | (.error r, s) => (.error r.failure, { e with store := s }) := by
  unfold write update
  rw [onStorageFault_stored]
  · rcases e.store.update executionsTable patch (ownRecord id) with ⟨(_ | _ | _) | _, s⟩
    iterate 4 rfl
  · exact fun _ _ => ⟨_, _, rfl⟩

lemma write_leaves (patch : Fields) (id event : String) (e : Engine) :
    ∃ journal, ((write patch id event).perform e).2 =
      { e with store := (e.store.update executionsTable patch (ownRecord id)).2, journal } := by
  rw [perform_write]
  rcases e.store.update executionsTable patch (ownRecord id) with ⟨(_ | _ | _) | _, s⟩
  iterate 4 exact ⟨_, rfl⟩

lemma store_write (patch : Fields) (id event : String) (e : Engine) :
    ((write patch id event).perform e).2.store =
      (e.store.update executionsTable patch (ownRecord id)).2 := by
  obtain ⟨journal, h⟩ := write_leaves patch id event e
  rw [h]

lemma finalize_leaves (r : Run) (status : RunStatus) (error : Option Value) (e : Engine) :
    ∃ journal, ((finalize r status error).perform e).2 =
      { e with
        store := (e.store.update executionsTable (r.outcomePatch status error e.clock)
          (ownRecord r.id)).2
        journal } := by
  obtain ⟨journal, h⟩ := write_leaves (r.outcomePatch status error e.clock) r.id
    "Failed to finalize execution" e
  rw [finalize_eq, perform_bind]
  rcases hw : (write (r.outcomePatch status error e.clock) r.id
    "Failed to finalize execution").perform e with ⟨g | ⟨⟩, k⟩
  all_goals
    rw [hw] at h
    dsimp only at h
    subst h
  · exact ⟨journal, rfl⟩
  · exact ⟨_, rfl⟩

lemma store_finalize (r : Run) (status : RunStatus) (error : Option Value) (e : Engine) :
    ((finalize r status error).perform e).2.store =
      (e.store.update executionsTable (r.outcomePatch status error e.clock)
        (ownRecord r.id)).2 := by
  obtain ⟨journal, h⟩ := finalize_leaves r status error e
  rw [h]

lemma write_cases (h : (write patch id event).perform e = (.ok (), e')) :
    Takes e.store patch id e'.store ∨ ∀ table, e'.store.rows table = e.store.rows table := by
  rw [perform_write] at h
  rcases hu : e.store.update executionsTable patch (ownRecord id) with ⟨r | n, s⟩
  · rw [hu] at h
    cases r with
    | fault f =>
      cases h
      exact Or.inr fun table => Store.rows_update_error hu table
    | program text | hugeKey => cases h
  · rw [hu] at h
    cases h
    exact Or.inl ⟨n, hu⟩

lemma write_returns (hs : e.store.Steady executionsTable) (patch : Fields) (id event : String) :
    ∃ e', (write patch id event).perform e = (.ok (), e') ∧
      e'.store.Steady executionsTable := by
  rw [perform_write]
  have ho : (e.store.update executionsTable patch (ownRecord id)).2.Steady executionsTable :=
    Store.plans_update (Store.lasting_steady executionsTable) hs
  rcases hu : e.store.update executionsTable patch (ownRecord id) with ⟨r | n, s⟩
  · obtain ⟨f, rfl⟩ := Store.fault_of_update_error hs hu
    rw [hu] at ho
    exact ⟨_, rfl, ho⟩
  · rw [hu] at ho
    exact ⟨_, rfl, ho⟩

lemma finalize_returns (hs : e.store.Steady executionsTable) (r : Run) (status : RunStatus)
    (error : Option Value) :
    ∃ e', (finalize r status error).perform e = (.ok (), e') ∧
      e'.store.Steady executionsTable := by
  obtain ⟨k, hk, ho⟩ := write_returns hs (r.outcomePatch status error e.clock) r.id
    "Failed to finalize execution"
  rw [finalize_eq, perform_bind_of_ok hk]
  exact ⟨_, rfl, ho⟩

lemma write_of_takes (h : Takes e.store patch id s) (event : String) :
    (write patch id event).perform e = (.ok (), { e with store := s }) := by
  obtain ⟨n, hn⟩ := h
  rw [perform_write, hn]

/-! ### The record among the rows -/

lemma matches_own (hr : Records id row) : matchesAll (ownRecord id) row = true := by
  refine matchesAll_id.mpr ?_
  rw [Fields.get, hr.id]
  rfl

lemma getElem?_of_takes (h : Takes s patch id s') (hn : (s.rows executionsTable)[n]? = some row)
    (hr : Records id row) :
    (s'.rows executionsTable)[n]? = some (s.overwrite row patch) := by
  obtain ⟨m, hm⟩ := h
  rw [Store.rows_update hm executionsTable, if_pos rfl, List.getElem?_map, hn, Option.map_some,
    if_pos (matches_own hr)]

lemma records_overwrite (hr : Records id row) (hp : patch.Plain) (hid : patch.find? "id" = none)
    (s : Store) : Records id (s.overwrite row patch) where
  plain := Store.plain_overwrite hr.plain hp
  id := by
    rw [Store.find?_overwrite_other hr.plain hp hid]
    · exact hr.id
    · intro v hv
      rw [hr.id] at hv
      cases hv
      exact Value.isJson_text id

/-! ### The fields that are written -/

lemma plain_progressPatch (r : Run) : r.progressPatch.Plain where
  texts := by simp [progressPatch]
  nodup := by simp [progressPatch]

lemma plain_outcomePatch (r : Run) (status : RunStatus) (error : Option Value) (t : Instant) :
    (r.outcomePatch status error t).Plain := by
  have hplain : Fields.Plain [
      ("status", status.value), ("completed_at", .text t.isoText),
      ("duration_ms", .int (t - r.startedAt)), ("steps_executed", stepsValue r.steps)] :=
    ⟨by simp, by simp⟩
  unfold outcomePatch
  dsimp only
  split
  · exact hplain.insert "error_message" _
  · exact hplain

lemma find?_outcomePatch (r : Run) (status : RunStatus) (error : Option Value) (t : Instant)
    {k : Key} (hk : k ≠ "error_message") :
    (r.outcomePatch status error t).find? k =
      Fields.find? [
        ("status", status.value), ("completed_at", .text t.isoText),
        ("duration_ms", .int (t - r.startedAt)), ("steps_executed", stepsValue r.steps)] k := by
  unfold outcomePatch
  dsimp only
  split
  · rw [Fields.find?_insert, if_neg (Ne.symm hk)]
  · rfl

end Run

end CrmAutomation

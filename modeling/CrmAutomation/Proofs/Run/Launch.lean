import CrmAutomation.Proofs.Engine.Perform
import CrmAutomation.Proofs.Store.Overwrite
import CrmAutomation.Proofs.Store.Refusal
import CrmAutomation.Run.Basic

/-!
How a run makes its record.

The record goes to the end of the table of executions. It carries the id of the run, and says that
the run is in progress and has done nothing yet.
-/

namespace CrmAutomation

open EngineM Record

namespace Run

variable {d : Definition} {event payload retryCount : Value} {e k : Engine} {r : Run}
  {given : Fields}

def starting (d : Definition) (event : Value) (given : Fields) (e : Engine) (row : Row) :
    Run where
  workflow := d.id
  event
  startedAt := e.clock
  scope := initialScope (row.get "id").literalForm given e.clock d.name

lemma launch_of_unreadable {f : Payload.Fault} (h : Payload.fields payload = .error f) :
    (launch d event payload retryCount).perform e =
      (.error (.crash (.malformed f.malformed)), e) := by
  unfold launch
  rw [perform_bind_of_ok (perform_now _)]
  exact perform_bind_of_error (perform_ofExcept_error.mpr ⟨f, h, rfl, rfl⟩)

lemma launch_of_fields (h : Payload.fields payload = .ok given) :
    (launch d event payload retryCount).perform e =
      match e.store.insert e.clock executionsTable (startRow d event given retryCount e.clock) with
      | (.ok row, s) => (.ok (.ok (starting d event given e row)), { e with store := s })
      | (.error (.fault f), s) =>
        (.ok (.error f), { e with store := s }.notingAll (databaseNotes f))
      | (.error r, s) => (.error r.failure, { e with store := s }) := by
  have hread : (Payload.read payload).perform e = (.ok given, e) :=
    perform_ofExcept_ok.mpr ⟨h, rfl⟩
  unfold launch
  rw [perform_bind_of_ok (perform_now _), perform_bind_of_ok hread]
  dsimp only
  rw [onStorageFault_insert]
  · rcases e.store.insert e.clock executionsTable (startRow d event given retryCount e.clock)
      with ⟨(_ | _ | _) | _, s⟩
    iterate 4 rfl
  · exact fun _ _ => ⟨_, _, rfl⟩

lemma launch_made (h : (launch d event payload retryCount).perform e = (.ok (.ok r), k)) :
    ∃ given row s, Payload.fields payload = .ok given ∧
      e.store.insert e.clock executionsTable (startRow d event given retryCount e.clock) =
        (.ok row, s) ∧ r = starting d event given e row ∧ k = { e with store := s } := by
  rcases hp : Payload.fields payload with f | given
  · rw [launch_of_unreadable hp] at h
    cases h
  · rw [launch_of_fields hp] at h
    split at h
    · rename_i row s hi
      cases h
      exact ⟨given, row, s, rfl, hi, rfl, rfl⟩
    · cases h
    · cases h

lemma store_of_launch (h : (launch d event payload retryCount).perform e = (.ok (.ok r), k)) :
    ∃ row, k.store = (e.store.insert e.clock executionsTable row).2 := by
  obtain ⟨given, row, s, -, hi, -, rfl⟩ := launch_made h
  exact ⟨_, (congrArg Prod.snd hi).symm⟩

lemma launch_error_iff (hs : e.store.Orderly) :
    (∃ g k, (launch d event payload retryCount).perform e = (.error g, k)) ↔
      ∃ f, Payload.fields payload = .error f := by
  constructor
  · rintro ⟨g, k, h⟩
    rcases hp : Payload.fields payload with f | given
    · exact ⟨f, rfl⟩
    · rw [launch_of_fields hp] at h
      split at h
      · cases h
      · cases h
      · rename_i r s hr hi
        obtain ⟨f, rfl⟩ := Store.fault_of_insert_error hs rfl hi
        exact absurd rfl (hr f)
  · rintro ⟨f, hf⟩
    exact ⟨_, _, launch_of_unreadable hf⟩

lemma id_of_launch (h : (launch d event payload retryCount).perform e = (.ok (.ok r), k)) :
    r.id = Store.identifier (e.store.drawn + 1) := by
  obtain ⟨given, row, s, -, hi, rfl, -⟩ := launch_made h
  obtain ⟨hrow, -⟩ := Store.rows_insert hi executionsTable
  show (row.get "id").literalForm = _
  rw [hrow, Fields.get, Store.find?_complete_id rfl]
  rfl

lemma steps_of_launch (h : (launch d event payload retryCount).perform e = (.ok (.ok r), k)) :
    r.steps = [] := by
  obtain ⟨given, row, s, -, -, rfl, -⟩ := launch_made h
  rfl

/-! ### The record -/

/-- The row is the record of the run: its keys are distinct texts, and it carries the id. -/
structure Records (id : String) (row : Row) : Prop where
  plain : row.Plain
  id : row.find? "id" = some (.text id)

lemma plain_startRow (d : Definition) (event : Value) (given : Fields) (retryCount : Value)
    (e : Engine) : (startRow d event given retryCount e.clock).Plain where
  texts := by simp [startRow]
  nodup := by simp [startRow]

/-- What the record of a run says when the run starts. -/
structure Starting (id : String) (row : Row) : Prop extends Records id row where
  status : row.find? "status" = some RunStatus.running.value
  error : row.find? "error_message" = none
  steps : row.find? "steps_executed" = some (stepsValue [])
  current : row.find? "current_step_id" = some .null

lemma row_of_launch (h : (launch d event payload retryCount).perform e = (.ok (.ok r), k)) :
    ∃ given row, Payload.fields payload = .ok given ∧
      k.store.rows executionsTable = e.store.rows executionsTable ++ [row] ∧ Records r.id row ∧
      ∀ key : Key, key ≠ "id" → key ≠ "created_at" →
        row.find? key =
          ((startRow d event given retryCount e.clock).find? key).map e.store.brings := by
  obtain ⟨given, stored, s, hp, hi, rfl, rfl⟩ := launch_made h
  obtain ⟨hrow, hrows⟩ := Store.rows_insert hi executionsTable
  rw [if_pos rfl] at hrows
  have hplain : stored.Plain := by
    rw [hrow]
    exact ((plain_startRow d event given retryCount e).insertNew _ _).insertNew _ _
  have hid : stored.find? "id" = some (.text (starting d event given e stored).id) := by
    rw [id_of_launch h, hrow]
    exact Store.find?_complete_id rfl _ _
  refine ⟨given, e.store.keep stored, hp, hrows, ⟨Store.plain_keep hplain, ?_⟩, ?_⟩
  · rw [Store.find?_keep hplain, hid]
    exact congrArg some (Store.brings_of_isJson (Value.isJson_text _))
  · intro key hkey hc
    rw [Store.find?_keep hplain, hrow, Store.find?_complete_other hkey hc]

/-- **The record** of a run is added at the end of the table. -/
theorem record_of_launch
    (h : (launch d event payload retryCount).perform e = (.ok (.ok r), k)) :
    ∃ row, k.store.rows executionsTable = e.store.rows executionsTable ++ [row] ∧
      Starting r.id row := by
  obtain ⟨given, row, -, hrows, hrecord, hfind⟩ := row_of_launch h
  have hkeep : ∀ {key : Key} {v : Value}, key ≠ "id" → key ≠ "created_at" →
      (startRow d event given retryCount e.clock).find? key = some v → v.IsJson →
      row.find? key = some v := by
    intro key v hid hc hv hj
    rw [hfind key hid hc, hv, Option.map_some, Store.brings_of_isJson hj]
  refine ⟨row, hrows, hrecord, ?_, ?_, ?_, ?_⟩
  · exact hkeep (by decide) (by decide) rfl (Value.isJson_text _)
  · rw [hfind _ (by decide) (by decide)]
    rfl
  · exact hkeep (by decide) (by decide) rfl rfl
  · exact hkeep (by decide) (by decide) rfl rfl

end Run

end CrmAutomation

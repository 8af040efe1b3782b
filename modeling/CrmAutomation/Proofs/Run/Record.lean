import CrmAutomation.Proofs.Run.Boundary
import Mathlib.Data.List.Forall2

/-!
What the record of a run says in the end.

During the walk the record says that the run is in progress, and it lists the steps so far. A store
in a database writes a row only if it comes to be another; after a node it does, for the row lists
a step more, and at the end it does, for the state is another.
-/

namespace CrmAutomation

open EngineM Record

/-! ### Steps as they are listed -/

namespace Step

/-- The item tells of a step: the node, and whether it succeeded. -/
def Tells (s : Step) (item : Value) : Prop :=
  ∃ fs : Fields, item = .object fs ∧ fs.find? "node_id" = some (.text s.nodeId) ∧
    fs.find? "status" = some (.text (if s.result.succeeded then "completed" else "failed"))

lemma plain_fields (s : Step) : s.fields.Plain := by
  have hplain : Fields.Plain [
      ("node_id", .text s.nodeId), ("node_type", .text s.nodeType), ("status", s.status.value),
      ("started_at", .text s.startedAt.isoText), ("completed_at", .text s.completedAt.isoText),
      ("duration_ms", .int s.durationMs), ("output", s.result.output)] := ⟨by simp, by simp⟩
  unfold fields
  dsimp only
  split
  · exact hplain.insert "error" _
  · exact hplain

lemma find?_fields (s : Step) {k : Key} (hk : k ≠ "error") :
    s.fields.find? k = Fields.find? [
      ("node_id", .text s.nodeId), ("node_type", .text s.nodeType), ("status", s.status.value),
      ("started_at", .text s.startedAt.isoText), ("completed_at", .text s.completedAt.isoText),
      ("duration_ms", .int s.durationMs), ("output", s.result.output)] k := by
  unfold fields
  dsimp only
  split
  · rw [Fields.find?_insert, if_neg (Ne.symm hk)]
  · rfl

lemma status_value (s : Step) :
    s.status.value = .text (if s.result.succeeded then "completed" else "failed") := by
  unfold status
  split
  · rfl
  · rfl

lemma tells_keep (s : Step) (k : Store) : Tells s (.object (k.keep s.fields)) := by
  refine ⟨_, rfl, ?_, ?_⟩
  · rw [Store.find?_keep s.plain_fields, s.find?_fields (by decide)]
    exact congrArg some (Store.brings_of_isJson (Value.isJson_text _))
  · rw [Store.find?_keep s.plain_fields, s.find?_fields (by decide), ← status_value]
    exact congrArg some (Store.brings_of_isJson (Value.isJson_text _))

end Step

/-- The value lists the steps, one item for each and in their order. -/
def ListsSteps (steps : List Step) (v : Value) : Prop :=
  ∃ items, v = .list items ∧ List.Forall₂ Step.Tells steps items

lemma brings_stepsValue (s : Store) (steps : List Step) :
    s.brings (stepsValue steps) = .list (steps.map fun step => .object (s.keep step.fields)) := by
  rcases hb : s.backend with tables | ⟨phase, archive⟩
  · simp only [Store.brings, Store.keep, hb]
    rfl
  · simp only [Store.brings, Store.keep, hb]
    show Value.list (Value.restoredList _) = _
    rw [Value.restoredList_eq, List.map_map]
    rfl

lemma listsSteps_brings (s : Store) (steps : List Step) :
    ListsSteps steps (s.brings (stepsValue steps)) := by
  refine ⟨_, brings_stepsValue s steps, ?_⟩
  rw [List.forall₂_map_right_iff, List.forall₂_same]
  exact fun step _ => step.tells_keep s

lemma stepsValue_disagrees {steps steps' : List Step} {w : Value} (hw : ListsSteps steps w)
    (hl : steps'.length ≠ steps.length) :
    (Value.isSameNoNumber (stepsValue steps') w || (stepsValue steps').agrees w) = false := by
  obtain ⟨items, rfl, hitems⟩ := hw
  rw [show Value.isSameNoNumber (stepsValue steps') (.list items) = false from rfl, Bool.false_or,
    Bool.eq_false_iff]
  intro ha
  have hlen := Value.length_of_agreesList (show Value.agreesList _ items = true from ha)
  rw [List.length_map, ← hitems.length_eq] at hlen
  exact hl hlen

namespace Run

variable {d : Definition} {event payload retryCount : Value} {e e' : Engine} {n : Node}
  {r r' : Run} {v : Visit} {seen : List String} {queue : List Node} {vs : List Visit}
  {ending : Ending} {t : Trace} {old : List Row} {row : Row} {s : Store} {result : RunResult}

/-! ### The record during the walk -/

/-- The row is the record of a run in progress, with what the run has done. -/
structure Progress (r : Run) (row : Row) : Prop extends Records r.id row where
  status : row.find? "status" = some RunStatus.running.value
  error : row.find? "error_message" = none
  steps : ∃ w, row.find? "steps_executed" = some w ∧ ListsSteps r.steps w
  current : row.find? "current_step_id" = some (Value.ofText? r.currentNode)

/-- The table of executions is what it was, and the record of a run in progress. -/
def Tracks (old : List Row) (r : Run) (s : Store) : Prop :=
  ∃ row, s.rows executionsTable = old ++ [row] ∧ Progress r row

lemma rows_of_takes {patch : Fields} {id : String} {s' : Store} (h : Takes s patch id s')
    (hrows : s.rows executionsTable = old ++ [row]) (hr : Records id row)
    (hold : ∀ o ∈ old, o.get "id" ≠ .text id) :
    s'.rows executionsTable = old ++ [s.overwrite row patch] := by
  obtain ⟨m, hm⟩ := h
  have hstay : ∀ o ∈ old, (if matchesAll (ownRecord id) o then s.overwrite o patch else o) = o :=
    fun o ho => if_neg fun hmatch => hold o ho (matchesAll_id.mp hmatch)
  rw [Store.rows_update hm executionsTable, if_pos rfl, hrows, List.map_append,
    List.map_congr_left hstay, List.map_id', List.map_singleton, if_pos (matches_own hr)]

lemma isJson_ofText? (o : Option String) : (Value.ofText? o).IsJson := by
  rcases o with _ | s
  · rfl
  · rfl

/-- A row that lists another number of steps is written again with the progress, whatever the
store. -/
lemma find?_overwrite_progress {steps : List Step} {w : Value} (hr : row.Plain)
    (hw : row.find? "steps_executed" = some w) (hsteps : ListsSteps steps w)
    (hl : r.steps.length ≠ steps.length) (s : Store) (k : Key) :
    (s.overwrite row r.progressPatch).find? k =
      ((r.progressPatch.find? k).or (row.find? k)).map s.brings := by
  refine Store.find?_overwrite (k := "steps_executed") hr (plain_progressPatch r) rfl ?_ k
  intro u hu
  rw [hw] at hu
  cases hu
  exact stepsValue_disagrees hsteps hl

lemma progress_push {step : Step} (h : Progress r row) (s : Store) :
    Progress (r.push step) (s.overwrite row (r.push step).progressPatch) := by
  have hp := plain_progressPatch (r.push step)
  have hid : (r.push step).id = r.id := id_push r step
  obtain ⟨w, hw, hsteps⟩ := h.steps
  have hlen : (r.push step).steps.length ≠ r.steps.length := by
    show (r.steps ++ [step]).length ≠ _
    simp
  have hfind := find?_overwrite_progress h.plain hw hsteps hlen s
  have hrec : Records (r.push step).id (s.overwrite row (r.push step).progressPatch) := by
    rw [hid]
    exact records_overwrite h.toRecords hp rfl s
  refine ⟨hrec, ?_, ?_, ?_, ?_⟩
  · rw [hfind, h.status]
    exact congrArg some (Store.brings_of_isJson (Value.isJson_text _))
  · rw [hfind, h.error]
    rfl
  · exact ⟨_, hfind _, listsSteps_brings s _⟩
  · rw [hfind]
    exact congrArg some (Store.brings_of_isJson (isJson_ofText? _))

/-- The store takes the progress after the visit. -/
def Visit.Recorded (v : Visit) : Prop :=
  Takes v.after.store v.outcome.progressPatch v.outcome.id v.settled.store

lemma tracks_of_happens (hv : v.Happens d n r e) (hrec : v.Recorded)
    (hsp : v.after.store.rows executionsTable = v.before.store.rows executionsTable)
    (hold : ∀ o ∈ old, o.get "id" ≠ .text r.id) (h : Tracks old r e.store) :
    Tracks old v.outcome (v.left d).store := by
  obtain ⟨row, hrows, hrow⟩ := h
  rw [← hv.before, ← hsp] at hrows
  have hid := id_outcome hv
  rw [← hid] at hold
  have hr : Records v.outcome.id row := by
    rw [hid]
    exact hrow.toRecords
  rw [store_left]
  refine ⟨_, rows_of_takes hrec hrows hr hold, ?_⟩
  rw [← hv.run] at hrow
  exact progress_push hrow v.after.store

lemma tracks_of_walks (hw : Walks d seen queue r e vs ending r' e')
    (hend : ∀ n f, ending ≠ .raised n f) (hrec : ∀ v ∈ vs, v.Recorded)
    (hsp : ∀ v ∈ vs, v.after.store.rows executionsTable = v.before.store.rows executionsTable)
    (hold : ∀ o ∈ old, o.get "id" ≠ .text r.id) (h : Tracks old r e.store) :
    Tracks old r' e'.store := by
  induction hw with
  | done => exact h
  | pass _ _ ih => exact ih hend hrec hsp hold h
  | visit _ hv _ _ ih =>
    rw [List.forall_mem_cons] at hrec hsp
    have hnext := tracks_of_happens hv hrec.1 hsp.1 hold h
    rw [← id_outcome hv] at hold
    exact ih hend hrec.2 hsp.2 hold hnext
  | stop _ hv =>
    exact tracks_of_happens hv (hrec _ List.mem_cons_self) (hsp _ List.mem_cons_self) hold h
  | raise => exact absurd rfl (hend _ _)

lemma tracks_of_ran (h : Ran d event payload retryCount e t)
    (hold : ∀ o ∈ e.store.rows executionsTable, o.get "id" ≠ .text t.first.id)
    (hend : ∀ n f, t.ending ≠ .raised n f) (hrec : ∀ v ∈ t.visits, v.Recorded) (hsp : t.Spares) :
    Tracks (e.store.rows executionsTable) t.last t.walked.store := by
  obtain ⟨row, hrows, hrow⟩ := record_of_launch h.launched
  refine tracks_of_walks h.walked hend hrec hsp hold ⟨row, hrows, hrow.toRecords, hrow.status,
    hrow.error, ⟨_, hrow.steps, ?_⟩, ?_⟩
  · rw [steps_of_launch h.launched]
    exact ⟨[], rfl, .nil⟩
  · rw [hrow.current]
    unfold Run.currentNode
    rw [steps_of_launch h.launched]
    rfl

/-! ### Errors of runs -/

lemma sound_of_happens (hv : v.Happens d n r e) : v.result.Sound :=
  (Node.fits_execute hv.executed).sound

lemma isTruthy_stopError (f : NodeFault) : (stopError f).isTruthy = true := by
  unfold stopError Value.orElse
  split
  · assumption
  · rfl

lemma error_sound (h : Ran d event payload retryCount e t) {error : Value}
    (he : t.error d = some error) : error.isTruthy = true ∧ error.IsJson := by
  unfold Trace.error at he
  split at he
  · cases he
    exact ⟨rfl, rfl⟩
  · split at he
    · rename_i u hu
      cases he
      obtain ⟨-, v, hv, f, hf, rfl⟩ := fault_of_stopped h.walked hu
      have hs := sound_of_happens (happens_of_mem h.walked v hv)
      exact ⟨isTruthy_stopError f, Value.isJson_orElse (hs f hf) (Value.isJson_text _)⟩
    · cases he
    · cases he

lemma filter_error (h : Ran d event payload retryCount e t) :
    (t.error d).filter (·.isTruthy) = t.error d := by
  rcases he : t.error d with _ | error
  · rfl
  · rw [Option.filter_some, if_pos (error_sound h he).1]

lemma result_status (h : Ran d event payload retryCount e t) :
    (t.result d).status = some (if (t.error d).isSome then .failed else .completed) := by
  unfold Trace.result resultOf
  dsimp only
  rw [filter_error h]

/-! ### The record at the end -/

lemma status_disagrees (d : Definition) (t : Trace) :
    (Value.isSameNoNumber (t.status d).value RunStatus.running.value ||
      (t.status d).value.agrees RunStatus.running.value) = false := by
  rcases status_cases d t with h | h
  · rw [h]
    rfl
  · rw [h]
    rfl

lemma find?_error_outcomePatch (h : Ran d event payload retryCount e t) (i : Calendar.Instant) :
    (t.last.outcomePatch (t.status d) (t.error d) i).find? "error_message" = t.error d := by
  unfold outcomePatch
  rw [filter_error h]
  rcases t.error d with _ | error
  · rfl
  · exact (Fields.find?_insert _ _ _ _).trans (if_pos rfl)

lemma find?_overwrite_outcome (d : Definition) (t : Trace) (hr : row.Plain)
    (hst : row.find? "status" = some RunStatus.running.value) (i : Calendar.Instant) (s : Store)
    (k : Key) :
    (s.overwrite row (t.last.outcomePatch (t.status d) (t.error d) i)).find? k =
      (((t.last.outcomePatch (t.status d) (t.error d) i).find? k).or (row.find? k)).map
        s.brings := by
  refine Store.find?_overwrite (k := "status") hr (plain_outcomePatch _ _ _ _)
    (find?_outcomePatch _ _ _ _ (by decide)) (fun u hu => ?_) k
  rw [hst] at hu
  cases hu
  exact status_disagrees d t

/-- What the record of a run says when the run is over. -/
structure Reports (t : Trace) (result : RunResult) (row : Row) : Prop where
  id : row.find? "id" = some (.text result.execution)
  status : row.find? "status" = result.status.map RunStatus.value
  error : row.find? "error_message" = result.error
  steps : ∃ items, row.find? "steps_executed" = some (.list items) ∧
    List.Forall₂ Step.Tells t.steps items
  current : row.find? "current_step_id" = some (Value.ofText? (t.steps.getLast?.map (·.nodeId)))

lemma reports_of_progress (h : Ran d event payload retryCount e t)
    (hrow : Progress t.last row) (s : Store) (i : Calendar.Instant) :
    Reports t (t.result d)
      (s.overwrite row (t.last.outcomePatch (t.status d) (t.error d) i)) := by
  have hother := fun {k : Key} => find?_outcomePatch t.last (t.status d) (t.error d) i (k := k)
  have hfind := find?_overwrite_outcome d t hrow.plain hrow.status i s
  have hid : t.last.id = t.first.id := id_of_walks h.walked
  refine ⟨?_, ?_, ?_, ?_, ?_⟩
  · rw [hfind, hother (by decide), hrow.id, hid]
    exact congrArg some (Store.brings_of_isJson (Value.isJson_text _))
  · rw [hfind, hother (by decide)]
    exact congrArg some (Store.brings_of_isJson (Value.isJson_text _))
  · rw [hfind, find?_error_outcomePatch h, hrow.error, Option.or_none]
    show (t.error d).map s.brings = t.error d
    rcases he : t.error d with _ | error
    · rfl
    · exact congrArg some (Store.brings_of_isJson (error_sound h he).2)
  · obtain ⟨items, hitems, htells⟩ := listsSteps_brings s t.last.steps
    refine ⟨items, ?_, htells⟩
    rw [hfind, hother (by decide)]
    exact congrArg some hitems
  · rw [hfind, hother (by decide), hrow.current]
    exact congrArg some (Store.brings_of_isJson (isJson_ofText? _))

/-- **The record of a run** whose writes are taken: what the run returns is consistent, the table of
executions has the record of the run after the rows that it had, and the record reports what the run
returned and executed. -/
theorem record_of_once
    (h : (once d event payload retryCount).perform e = (.ok result, e'))
    (ht : Ran d event payload retryCount e t)
    (hfresh : ∀ row ∈ e.store.rows executionsTable, row.get "id" ≠ .text t.first.id)
    (hrec : ∀ v ∈ t.visits, v.Recorded) (hc : t.Closes d) (hsp : t.Spares) :
    (result.success = true ↔ result.error = none) ∧
      (result.status = some .completed ↔ result.error = none) ∧
      (result.status = some .failed ↔ result.error ≠ none) ∧
      ∃ record, e'.store.rows executionsTable = e.store.rows executionsTable ++ [record] ∧
        Reports t result record := by
  obtain ⟨closed, hr, rfl, rfl⟩ := returned_of_once ht h
  obtain ⟨row, hrows, hrow⟩ := tracks_of_ran ht hfresh hr.yields hrec hsp
  rw [← id_of_walks ht.walked] at hfresh
  obtain ⟨s, hs⟩ := hc
  have hf := hr.finalized
  rw [finalize_eq, perform_bind_of_ok (write_of_takes hs _)] at hf
  cases hf
  have hstatus := result_status (d := d) ht
  have herror : (t.result d).error = t.error d := rfl
  refine ⟨?_, ?_, ?_, _, rows_of_takes hs hrows hrow.toRecords hfresh,
    reports_of_progress ht hrow _ _⟩
  · exact Option.isNone_iff_eq_none
  · rw [hstatus, herror]
    rcases t.error d with _ | error
    · simp
    · simp
  · rw [hstatus, herror]
    rcases t.error d with _ | error
    · simp
    · simp

/-- A trigger, a task without a title, and a node after it. -/
def untitled : Definition where
  id := "untitled"
  flow := {
    nodes := [
      { id := "a", type := some "trigger" }, { id := "b", type := some "create_task" },
      { id := "c" }]
    edges := [{ source := "a", target := "b" }, { source := "b", target := "c" }] }

/-- A store with the record of another run. -/
def usedEngine : Engine :=
  { store := { backend := .memory [(executionsTable, [[("id", .text "old")]])] } }

def untitledTrace : Trace :=
  (trace? 9 untitled .null (.object []) (.int 0) usedEngine).get (by decide +kernel)

theorem record_of_once_untitled :
    ∃ result e', ∃ record : Row, (once untitled .null (.object []) (.int 0)).perform usedEngine =
        (.ok result, e') ∧ result.status = some .failed ∧
      e'.store.rows executionsTable = usedEngine.store.rows executionsTable ++ [record] ∧
      Reports untitledTrace result record := by
  have ht : Ran untitled .null (.object []) (.int 0) usedEngine untitledTrace :=
    ran_of_trace? (Option.some_get _).symm
  have hr : Returned untitled untitledTrace _ :=
    ⟨by have hend : untitledTrace.ending = .stopped (.text "Task requires a title") := by
          decide +kernel
        simp [hend], Prod.ext (by decide +kernel) rfl⟩
  obtain ⟨-, -, hfailed, record, hrows, hrep⟩ := record_of_once (once_of_returned ht hr) ht
    (by decide +kernel) (by unfold Visit.Recorded; decide +kernel)
    ((closes_iff rfl).mpr (by decide +kernel)) (spares_of_asks ht (by decide +kernel))
  exact ⟨_, _, record, once_of_returned ht hr, hfailed.mpr (by decide +kernel), hrows, hrep⟩

end Run

end CrmAutomation

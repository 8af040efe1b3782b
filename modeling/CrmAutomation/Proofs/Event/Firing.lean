import CrmAutomation.Proofs.Event.Matching
import CrmAutomation.Proofs.Run.Start

/-!
What an event leaves in the table of executions.

The definitions that an event starts are found once. Then they are run one after the other, and what
a run does to the tables, or that it raises, does not keep the next one from being made.
-/

namespace CrmAutomation.Trigger

open EngineM Record Run

/-- Finds what an event about an entity starts: the payload of its runs, and the definitions. -/
def seek (event : Value) (entityType : String) (entityId payload : Value) :
    EngineM (Value × List Definition) := do
  let fields ← Payload.read payload
  let composed := Value.object (Payload.compose entityType entityId fields)
  let definitions ← matching event composed
  if definitions.isEmpty then log .debug "No workflows bound to event"
  else log .info "Triggering workflows"
  pure (composed, definitions)

/-- The runs of definitions, each on the engine that the one before left. -/
def startsOf (event payload : Value) : List Definition → Engine → List Start
  | [], _ => []
  | d :: ds, e =>
    let x : Start := ⟨d, event, payload, .int 0, e⟩
    x :: startsOf event payload ds x.outcome.2

/-- The engine that the last run of definitions leaves. -/
def afterAll (event payload : Value) : List Definition → Engine → Engine
  | [], e => e
  | d :: ds, e => afterAll event payload ds (⟨d, event, payload, .int 0, e⟩ : Start).outcome.2

/-- The runs that an event about an entity starts. -/
def starts (event : Value) (entityType : String) (entityId payload : Value) (e : Engine) :
    List Start :=
  match (seek event entityType entityId payload).perform e with
  | (.ok (composed, definitions), k) => startsOf event composed definitions k
  | (.error _, _) => []

variable {event entityId payload : Value} {entityType : String} {given : Fields} {e k : Engine}
  {ds : List Definition} {row : Row} {rows : List Row} {s : Store}

/-! ### The steps of firing -/

lemma starts_eq {found : Value × List Definition}
    (h : (seek event entityType entityId payload).perform e = (.ok found, k)) :
    starts event entityType entityId payload e = startsOf event found.1 found.2 k := by
  rw [starts, h]

lemma perform_fire (e : Engine) :
    (fire event entityType entityId payload).perform e =
      (seek event entityType entityId payload >>= fun found =>
        runAll event found.1 found.2 >>= returned).perform e := by
  have hfire : fire event entityType entityId payload =
      seek event entityType entityId payload >>= fun found =>
        runAll event found.1 found.2 >>= returned := by
    unfold fire seek
    simp only [bind_assoc]
    refine bind_congr fun fields => bind_congr fun ds => ?_
    rcases ds with _ | ⟨d, ds⟩
    · simp only [List.isEmpty_nil, if_true, bind_assoc, pure_bind]
      rfl
    · simp only [List.isEmpty_cons, Bool.false_eq_true, if_false, bind_assoc, pure_bind]
  rw [hfire]

lemma perform_attempt {α : Type} (x : EngineM α) (e : Engine) :
    x.attempt.perform e = (.ok (x.perform e).1, (x.perform e).2) := rfl

lemma perform_runAll (event payload : Value) (ds : List Definition) (e : Engine) :
    (runAll event payload ds).perform e =
      (.ok ((startsOf event payload ds e).map fun x => x.outcome.1),
        afterAll event payload ds e) := by
  induction ds generalizing e with
  | nil => rfl
  | cons d ds ih =>
    let x : Start := ⟨d, event, payload, .int 0, e⟩
    rw [runAll, perform_bind_of_ok (perform_attempt _ e)]
    exact perform_bind_of_ok (ih x.outcome.2)

lemma perform_returned (outcomes : List (Except Failure RunResult)) (e : Engine) :
    ∃ k, (returned outcomes).perform e = (.ok (outcomes.filterMap Except.toOption), k) ∧
      k.store = e.store := by
  induction outcomes generalizing e with
  | nil => exact ⟨e, rfl, rfl⟩
  | cons outcome outcomes ih =>
    rcases outcome with f | result
    · obtain ⟨k, hk, hs⟩ := ih (e.noting .error "Workflow run raised")
      exact ⟨k, (perform_bind_of_ok (perform_log _ _ e)).trans hk, hs⟩
    · obtain ⟨k, hk, hs⟩ := ih e
      exact ⟨k, perform_bind_of_ok hk, hs⟩

lemma store_runAll (event payload : Value) (ds : List Definition) (e : Engine) :
    ((runAll event payload ds >>= returned).perform e).2.store =
      (afterAll event payload ds e).store := by
  rw [perform_bind_of_ok (perform_runAll event payload ds e)]
  obtain ⟨k, hk, hs⟩ := perform_returned
    ((startsOf event payload ds e).map fun x => x.outcome.1) (afterAll event payload ds e)
  rw [hk]
  exact hs

lemma starts_of_seek {composed : Value}
    (h : (seek event entityType entityId payload).perform e = (.ok (composed, ds), k)) :
    ∀ d ∈ ds, ∃ row ∈ e.store.rows definitionsTable, Starts event composed row d := by
  unfold seek at h
  obtain ⟨fields, k₁, hfields, hrest⟩ := perform_bind_ok.mp h
  obtain ⟨-, rfl⟩ := perform_ofExcept_ok.mp hfields
  dsimp only at hrest
  obtain ⟨found, k₂, hfound, hlogged⟩ := perform_bind_ok.mp hrest
  have hsame : composed = .object (Payload.compose entityType entityId fields) ∧ ds = found := by
    split at hlogged
    all_goals
      cases hlogged
      exact ⟨rfl, rfl⟩
  obtain ⟨rfl, rfl⟩ := hsame
  exact starts_of_matching hfound

/-! ### The rows -/

lemma rows_of_startsOf
    (h : ∀ x ∈ startsOf event payload ds e, ∃ t, x.Ran t ∧ t.Avoids executionsTable) :
    (afterAll event payload ds e).store.brings = e.store.brings ∧
      ∃ old records, (afterAll event payload ds e).store.rows executionsTable = old ++ records ∧
        List.Forall₂ (Revised (Start.ids (startsOf event payload ds e)) e.store.brings)
          (e.store.rows executionsTable) old ∧
        List.Forall₂ Start.Recorded (startsOf event payload ds e) records := by
  induction ds generalizing e with
  | nil =>
    refine ⟨rfl, e.store.rows executionsTable, [], (List.append_nil _).symm, ?_, .nil⟩
    exact List.forall₂_same.mpr fun row _ => Revised.refl _ _ row
  | cons d ds ih =>
    let x : Start := ⟨d, event, payload, .int 0, e⟩
    obtain ⟨⟨t, ht, ha⟩, hrest⟩ := List.forall_mem_cons.mp h
    obtain ⟨hb, old, row, hrows, hold, hrow⟩ := Start.rows_of_ran ht ha
    obtain ⟨hb', all, records, hall, hrevised, hrecords⟩ := ih hrest
    -- what the later runs make of the rows, the record of the first among them
    rw [hrows, hb] at hrevised
    obtain ⟨old', new, rfl, hold', hnew⟩ := forall₂_append_left hrevised
    cases hnew with
    | @cons _ row' _ _ hrow' hnil =>
    cases hnil
    refine ⟨hb'.trans hb, old', row' :: records, ?_, ?_, ?_⟩
    · rw [List.append_assoc] at hall
      exact hall
    · have hfirst : {x.id} ⊆ Start.ids (startsOf event payload (d :: ds) e) := by
        rintro id rfl
        exact ⟨x, List.mem_cons_self, rfl⟩
      have hothers : Start.ids (startsOf event payload ds x.outcome.2) ⊆
          Start.ids (startsOf event payload (d :: ds) e) := by
        rintro id ⟨y, hy, rfl⟩
        exact ⟨y, List.mem_cons_of_mem _ hy, rfl⟩
      exact forall₂_trans (fun _ _ _ hab hbc => hab.trans hbc)
        (hold.imp fun _ _ hr => hr.mono hfirst) (hold'.imp fun _ _ hr => hr.mono hothers)
    · exact .cons (hrow.revised hrow') hrecords

lemma definition_of_startsOf (event payload : Value) (ds : List Definition) (e : Engine) :
    (startsOf event payload ds e).map (·.definition) = ds := by
  induction ds generalizing e with
  | nil => rfl
  | cons d ds ih => exact congrArg (d :: ·) (ih _)

lemma occasion_of_startsOf {x : Start} (hx : x ∈ startsOf event payload ds e) :
    x.event = event ∧ x.payload = payload ∧ x.retryCount = .int 0 := by
  induction ds generalizing e with
  | nil => cases hx
  | cons d ds ih =>
    rcases List.mem_cons.mp hx with rfl | hx
    · exact ⟨rfl, rfl, rfl⟩
    · exact ih hx

/-! ### What an event leaves -/

/-- The columns of a definition row that are looked at first are of the right kind. -/
structure Shapely (row : Row) : Prop where
  config : row.get "trigger_config" = .null ∨ ∃ config, row.get "trigger_config" = .object config
  policy : row.get "error_handling" = .null ∨ ∃ s, row.get "error_handling" = .text s

lemma not_derails (h : Shapely row) : ¬Derails event row := by
  rintro ⟨-, -, ⟨ht, hno⟩ | ⟨named, -, -, hp⟩⟩
  · rcases h.config with hc | ⟨config, hc⟩
    · rw [hc] at ht
      cases ht
    · exact hno config hc
  · unfold Definition.policyIsNoName at hp
    rcases h.policy with hc | ⟨s, hc⟩
    · rw [hc] at hp
      cases hp
    · rw [hc] at hp
      cases hp

lemma seek_of_shapely (event : Value) (entityType : String) (entityId : Value)
    (hp : Payload.fields payload = .ok given)
    (hread : e.store.select definitionsTable { filters := activeFilters } = (.ok rows, s))
    (hshape : ∀ row ∈ e.store.rows definitionsTable, Shapely row) :
    let composed := Value.object (Payload.compose entityType entityId given)
    ∃ k, (seek event entityType entityId payload).perform e =
        (.ok (composed, (e.store.rows definitionsTable).filterMap (matched? event composed)), k) ∧
      k.store = s := by
  intro composed
  obtain ⟨k, hk, hs⟩ := matching_of_not_derails event composed hread
    fun row hrow => not_derails (hshape row hrow)
  have hfields : (Payload.read payload).perform e = (.ok given, e) :=
    perform_ofExcept_ok.mpr ⟨hp, rfl⟩
  unfold seek
  rw [perform_bind_of_ok hfields, perform_bind_of_ok hk]
  split
  · exact ⟨_, perform_bind_of_ok (perform_log _ _ k), hs⟩
  · exact ⟨_, perform_bind_of_ok (perform_log _ _ k), hs⟩

lemma fields_object (fs : Fields) : Payload.fields (.object fs) = .ok fs := by
  rcases fs with _ | ⟨p, fs⟩
  · rfl
  · rfl

lemma brings_of_startsOf
    (h : ∀ x ∈ startsOf event payload ds e, ∃ t, x.Ran t ∧ t.Avoids executionsTable) :
    ∀ x ∈ startsOf event payload ds e, x.engine.store.brings = e.store.brings := by
  induction ds generalizing e with
  | nil => simp [startsOf]
  | cons d ds ih =>
    obtain ⟨⟨t, ht, ha⟩, hrest⟩ := List.forall_mem_cons.mp h
    refine List.forall_mem_cons.mpr ⟨rfl, fun x hx => ?_⟩
    exact (ih hrest x hx).trans (Start.rows_of_ran ht ha).1

/-- The row is the record of a run that the event started with the payload; values stand in it as
they are brought back. If the run returned, its result carries the id of the record. -/
structure Leaves (event composed : Value) (brings : Value → Value) (x : Start) (row : Row) :
    Prop where
  id : row.find? "id" = some (.text x.id)
  workflow : row.find? "workflow_id" = some (.text x.definition.id)
  event : row.find? "trigger_event" = some (brings event)
  payload : row.find? "trigger_data" = some (brings composed)
  retryCount : row.find? "retry_count" = some (.int 0)
  reported : ∀ result, x.outcome.1 = .ok result → result.execution = x.id

lemma leaves_of_recorded {x : Start} {fs : Fields} {t : Trace}
    (hx : x ∈ startsOf event (.object fs) ds e) (hb : x.engine.store.brings = e.store.brings)
    (ht : x.Ran t) (h : x.Recorded row) : Leaves event (.object fs) e.store.brings x row := by
  obtain ⟨hevent, hpayload, hcount⟩ := occasion_of_startsOf hx
  refine ⟨h.id, h.workflow, ?_, ?_, ?_, fun _ => Start.execution_of_outcome ht⟩
  · rw [h.event, hb, hevent]
  · obtain ⟨given, hp, hd⟩ := h.payload
    rw [hpayload, fields_object] at hp
    cases hp
    rw [hd, hb]
  · rw [h.retryCount, hcount]
    exact congrArg some (Store.brings_of_isJson rfl)

/-- **One record for each definition**: around definition rows of the right kind that can be read,
an event runs exactly the definitions that it starts in the state before the first run, in storage
order. If every run can make its record and spares the table of executions otherwise, each adds one
row to it, its record, whatever the runs before did to the definitions and even if they raised; the
rows that were there stay but for those that carry the id of one of the runs. The results are those
of the runs that returned. -/
theorem fire_records (hp : Payload.fields payload = .ok given)
    (hread : e.store.select definitionsTable { filters := activeFilters } = (.ok rows, s))
    (hshape : ∀ row ∈ e.store.rows definitionsTable, Shapely row)
    (hruns : ∀ x ∈ starts event entityType entityId payload e,
      ∃ t, x.Ran t ∧ t.Avoids executionsTable) :
    let composed := Value.object (Payload.compose entityType entityId given)
    let xs := starts event entityType entityId payload e
    (∀ row d, matched? event composed row = some d ↔ Starts event composed row d) ∧
      xs.map (·.definition) =
        (e.store.rows definitionsTable).filterMap (matched? event composed) ∧
      ∃ e' old records,
        (fire event entityType entityId payload).perform e =
          (.ok (xs.filterMap fun x => x.outcome.1.toOption), e') ∧
        e'.store.rows executionsTable = old ++ records ∧
        List.Forall₂ (fun row row' => (∀ x ∈ xs, row.get "id" ≠ .text x.id) → row' = row)
          (e.store.rows executionsTable) old ∧
        List.Forall₂ (Leaves event composed e.store.brings) xs records := by
  intro composed xs
  obtain ⟨k, hk, hs⟩ := seek_of_shapely event entityType entityId hp hread hshape
  have hxs : xs = startsOf event composed
      ((e.store.rows definitionsTable).filterMap (matched? event composed)) k := by
    show starts event entityType entityId payload e = _
    rw [starts, hk]
  have hmove : Store.Moves (· ≠ executionsTable) e.store
      (e.store.select definitionsTable { filters := activeFilters }).2 := .select _ _ _
  rw [hread] at hmove
  have hrows : k.store.rows executionsTable = e.store.rows executionsTable := by
    rw [hs]
    exact Store.rows_of_moves hmove
  have hbrings : k.store.brings = e.store.brings := by
    rw [hs]
    exact Store.brings_of_moves hmove
  refine ⟨fun _ _ => matched?_eq_some, by rw [hxs, definition_of_startsOf], ?_⟩
  have hruns' : ∀ x ∈ xs, ∃ t, x.Ran t ∧ t.Avoids executionsTable := hruns
  rw [hxs] at hruns' ⊢
  obtain ⟨-, old, records, hall, hold, hrecords⟩ := rows_of_startsOf hruns'
  obtain ⟨k', hk', hs'⟩ := perform_returned
    ((startsOf event composed ((e.store.rows definitionsTable).filterMap
      (matched? event composed)) k).map fun x => x.outcome.1)
    (afterAll event composed ((e.store.rows definitionsTable).filterMap
      (matched? event composed)) k)
  refine ⟨k', old, records, ?_, hs' ▸ hall, ?_, ?_⟩
  · rw [perform_fire, perform_bind_of_ok hk, perform_bind_of_ok (perform_runAll _ _ _ _), hk',
      List.filterMap_map]
    rfl
  · rw [← hrows]
    exact hold.imp fun _ _ hr ho => hr.other fun id ⟨x, hx, hid⟩ => hid ▸ ho x hx
  · rw [← hbrings]
    refine ((List.forall₂_and_left _ _).mpr ⟨fun x hx => hx, hrecords⟩).imp fun x row hx => ?_
    obtain ⟨hmem, hrecord⟩ := hx
    obtain ⟨t, ht, -⟩ := hruns' x hmem
    exact leaves_of_recorded hmem (brings_of_startsOf hruns' x hmem) ht hrecord

/-! ### Firing, computed -/

/-- The runs of definitions with their traces, if each walks in at most so many steps. -/
def startsOf? (steps : ℕ) (event payload : Value) :
    List Definition → Engine → Option (List (Start × Trace))
  | [], _ => some []
  | d :: ds, e =>
    (trace? steps d event payload (.int 0) e).bind fun t =>
      (startsOf? steps event payload ds (t.outcome d).2).map
        ((⟨d, event, payload, .int 0, e⟩, t) :: ·)

/-- The runs that an event about an entity starts, with their traces. -/
def starts? (steps : ℕ) (event : Value) (entityType : String) (entityId payload : Value)
    (e : Engine) : Option (List (Start × Trace)) :=
  match (seek event entityType entityId payload).perform e with
  | (.ok (composed, definitions), k) => startsOf? steps event composed definitions k
  | (.error _, _) => some []

lemma startsOf_of_startsOf? {steps : ℕ} {runs : List (Start × Trace)}
    (h : startsOf? steps event payload ds e = some runs) :
    startsOf event payload ds e = runs.map (·.1) ∧ ∀ p ∈ runs, p.1.Ran p.2 := by
  induction ds generalizing e runs with
  | nil =>
    cases h
    exact ⟨rfl, by simp⟩
  | cons d ds ih =>
    obtain ⟨t, ht, h⟩ := Option.bind_eq_some_iff.mp h
    obtain ⟨rest, hrest, rfl⟩ := Option.map_eq_some_iff.mp h
    let x : Start := ⟨d, event, payload, .int 0, e⟩
    have hx : x.Ran t := ran_of_trace? ht
    obtain ⟨hstarts, hran⟩ := ih hrest
    refine ⟨?_, List.forall_mem_cons.mpr ⟨hx, hran⟩⟩
    rw [startsOf, Start.outcome_of_ran hx, hstarts]
    rfl

lemma starts_of_starts? {steps : ℕ} {runs : List (Start × Trace)}
    (h : starts? steps event entityType entityId payload e = some runs) :
    starts event entityType entityId payload e = runs.map (·.1) ∧ ∀ p ∈ runs, p.1.Ran p.2 := by
  unfold starts? at h
  unfold starts
  split at h
  · exact startsOf_of_startsOf? h
  · cases h
    exact ⟨rfl, by simp⟩

/-- A row that an event starts, with a flow of one node. -/
def singleRow (id : String) (node : Fields) : Row :=
  (activeRow id (boundTo "won") .null).insert "flow_definition"
    (.object [("nodes", .list [.object (("id", .text "n") :: node)])])

/-- Two definitions for one event, the first of which raises, and one without a valid policy. -/
def eventful : Engine := defining [
  singleRow "a" [("type", .text "action"), ("data", .object [("config", .text "x")])],
  activeRow "b" (boundTo "won") (.text "explode"),
  singleRow "c" [("type", .text "trigger")]]

def eventfulRuns : List (Start × Trace) :=
  (starts? 9 (.text "won") "deal" (.text "D1") .null eventful).get (by decide +kernel)

theorem fire_records_eventful :
    ∃ xs e' old records,
      (fire (.text "won") "deal" (.text "D1") .null).perform eventful =
        (.ok [{ success := true, execution := "id-2", status := some .completed }], e') ∧
      xs.map (fun x : Start => x.definition.id) = ["a", "c"] ∧
      e'.store.rows executionsTable = old ++ records ∧
      List.Forall₂ (Leaves (.text "won")
        (.object [("entity_type", .text "deal"), ("entity_id", .text "D1"), ("deal", .object [])])
        eventful.store.brings) xs records := by
  have hread : eventful.store.select definitionsTable { filters := activeFilters } =
      (.ok (eventful.store.rows definitionsTable), eventful.store) := by decide +kernel
  have hshape : ∀ row ∈ eventful.store.rows definitionsTable, Shapely row := by
    intro row hrow
    have hrow : row ∈ [singleRow "a" _, activeRow "b" _ _, singleRow "c" _] := hrow
    simp only [List.mem_cons, List.not_mem_nil, or_false] at hrow
    rcases hrow with rfl | rfl | rfl
    · exact ⟨Or.inr ⟨_, rfl⟩, Or.inl rfl⟩
    · exact ⟨Or.inr ⟨_, rfl⟩, Or.inr ⟨_, rfl⟩⟩
    · exact ⟨Or.inr ⟨_, rfl⟩, Or.inl rfl⟩
  obtain ⟨hstarts, hran⟩ := starts_of_starts? (Option.some_get
    (show (starts? 9 (.text "won") "deal" (.text "D1") .null eventful).isSome by
      decide +kernel)).symm
  have havoids : ∀ p ∈ eventfulRuns, p.2.Avoids executionsTable := by decide +kernel
  have hruns : ∀ x ∈ starts (.text "won") "deal" (.text "D1") .null eventful,
      ∃ t, x.Ran t ∧ t.Avoids executionsTable := by
    intro x hx
    rw [hstarts] at hx
    obtain ⟨p, hp, rfl⟩ := List.mem_map.mp hx
    exact ⟨p.2, hran p hp, havoids p hp⟩
  obtain ⟨-, -, e', old, records, hfire, hrows, -, hrecords⟩ :=
    fire_records rfl hread hshape hruns
  have hresults : (starts (.text "won") "deal" (.text "D1") .null eventful).filterMap
      (fun x => x.outcome.1.toOption) =
        eventfulRuns.filterMap fun p => (p.2.outcome p.1.definition).1.toOption := by
    rw [hstarts, List.filterMap_map]
    exact List.filterMap_congr fun p hp => by
      rw [← Start.outcome_of_ran (hran p hp)]
      rfl
  refine ⟨_, e', old, records, ?_, ?_, hrows, hrecords⟩
  · rw [hfire, hresults]
    have hvalue : eventfulRuns.filterMap (fun p => (p.2.outcome p.1.definition).1.toOption) =
        [{ success := true, execution := "id-2", status := some .completed }] := by
      decide +kernel
    rw [hvalue]
  · rw [hstarts, List.map_map]
    have hids : eventfulRuns.map (fun p => p.1.definition.id) = ["a", "c"] := by decide +kernel
    exact hids

end CrmAutomation.Trigger

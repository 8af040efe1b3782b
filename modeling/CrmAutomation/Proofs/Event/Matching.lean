import CrmAutomation.Event.Trigger
import CrmAutomation.Proofs.Engine.Perform
import CrmAutomation.Proofs.Store.Overwrite
import CrmAutomation.Proofs.Workflow.Reading

/-!
Which definitions an event starts.

A row starts a run if it is active, is bound to the event, holds a valid definition, and the
conditions of the definition hold on the payload. Other rows are passed over, but for two kinds that
keep all definitions of the event from being found: those whose trigger configuration is no object,
and those whose error policy is a list or an object.
-/

namespace CrmAutomation

open EngineM Record Schema Workflow

namespace Definition

variable {row : Row} {d : Definition}

lemma HeldBy.config_eq (h : d.HeldBy row) (ht : row.get "trigger_type" = .text "event") :
    ∃ config s, row.get "trigger_config" = .object config ∧ s ≠ "" ∧
      Fields.get config "event" = .text s := by
  have htype : d.triggerType = .event := by
    rw [Fields.get] at ht
    rcases h.type with ⟨-, hd⟩ | hd
    · exact hd
    · rw [hd, Option.getD_some, Value.text.injEq] at ht
      exact TriggerType.name_eq_event.mp ht
  obtain ⟨s, hs, hevent⟩ := h.event htype
  have hne : d.triggerConfig ≠ {} := by
    intro hempty
    rw [hempty] at hevent
    cases hevent
  obtain ⟨v, hv, hread⟩ := h.config.exists_of_ne hne
  obtain ⟨config, rfl, hnamed⟩ := TriggerConfig.event_of_reader hread hevent
  refine ⟨config, s, ?_, hs, hnamed⟩
  rw [Fields.get, hv]
  rfl

end Definition

namespace Trigger

/-- The row cannot be looked at: its trigger configuration is there but no object, or it is bound to
the event and its error policy is a list or an object. -/
def Misshapen (event : Value) (row : Row) : Prop :=
  ((row.get "trigger_config").isTruthy = true ∧
      ∀ config, row.get "trigger_config" ≠ .object config) ∨
    ∃ named, namedEvent row = .ok named ∧ named.agrees event = true ∧
      Definition.policyIsNoName row = true

/-- An active row keeps the event from starting anything. -/
structure Derails (event : Value) (row : Row) : Prop where
  active : (row.get "is_active").agrees (.bool true) = true
  type : row.get "trigger_type" = .text "event"
  misshapen : Misshapen event row

/-- The row holds a definition that the event starts. -/
structure Starts (event payload : Value) (row : Row) (d : Definition) : Prop where
  active : (row.get "is_active").agrees (.bool true) = true
  type : row.get "trigger_type" = .text "event"
  event : ∃ config, row.get "trigger_config" = .object config ∧
    (Fields.get config "event").agrees event = true
  valid : Definition.ofRow row = .ok (.ok d)
  met : ∀ c ∈ d.triggerConfig.conditions, c.condition.holds payload = true

/-- The definition that the event starts in a row, if it starts one. -/
def matched? (event payload : Value) (row : Row) : Option Definition :=
  match row.get "trigger_config", Definition.ofRow row with
  | .object config, .ok (.ok d) =>
    if matchesAll activeFilters row && (Fields.get config "event").agrees event &&
        d.triggerConfig.conditions.all (·.condition.holds payload) then some d
    else none
  | _, _ => none

variable {event payload : Value} {row : Row} {rows : List Row} {d : Definition} {e : Engine}
  {s : Store}

lemma event_of_starts (h : Starts event payload row d) : ∃ s, s ≠ "" ∧ event = .text s := by
  obtain ⟨config, hc, ha⟩ := h.event
  obtain ⟨config', s, hc', hs, hnamed⟩ := (Definition.ofRow_eq_ok.mp h.valid).config_eq h.type
  rw [hc, Value.object.injEq] at hc'
  rw [hc', hnamed] at ha
  exact ⟨s, hs, Value.text_agrees.mp ha⟩

lemma matchesAll_active : matchesAll activeFilters row = true ↔
    (row.get "is_active").agrees (.bool true) = true ∧ row.get "trigger_type" = .text "event" := by
  simp [activeFilters, equalities, matchesAll, Filter.passes, Relation.holds, Value.agrees_text]

lemma matched?_eq_some : matched? event payload row = some d ↔ Starts event payload row d := by
  constructor
  · intro h
    unfold matched? at h
    split at h
    · rename_i config d' hc hd
      rw [Option.ite_none_right_eq_some, Bool.and_eq_true, Bool.and_eq_true] at h
      obtain ⟨⟨⟨hactive, hevent⟩, hmet⟩, hsome⟩ := h
      cases hsome
      obtain ⟨ha, ht⟩ := matchesAll_active.mp hactive
      exact ⟨ha, ht, ⟨config, hc, hevent⟩, hd, List.all_eq_true.mp hmet⟩
    · cases h
  · rintro ⟨ha, ht, ⟨config, hc, he⟩, hv, hm⟩
    unfold matched?
    rw [hc, hv]
    dsimp only
    rw [matchesAll_active.mpr ⟨ha, ht⟩, he, List.all_eq_true.mpr hm]
    rfl

/-! ### One row -/

lemma all_verdicts (data : Value) (cs : List Condition) :
    (Condition.verdicts data cs).all (·.holds) = cs.all (·.holds data) := by
  induction cs with
  | nil => rfl
  | cons c cs ih =>
    rw [Condition.verdicts, List.all_cons, ← ih]
    rw [show c.holds data = (c.evaluate data).holds from rfl]
    rcases hc : (c.evaluate data).holds with _ | _
    · simp [hc]
    · simp [hc]

lemma perform_holdAll (cs : List Condition) (data : Value) (e : Engine) :
    (holdAll cs data).perform e =
      (.ok (cs.all (·.holds data)),
        e.notingAll ((Condition.verdicts data cs).flatMap (·.notes))) := by
  rw [← all_verdicts]
  exact perform_bind_of_ok (perform_logAll _ e)

/-- The event that a row names: none without an object for a configuration, and nothing is named if
something else stands there. -/
lemma namedEvent_cases (row : Row) :
    (∃ config, row.get "trigger_config" = .object config ∧
      namedEvent row = .ok (Fields.get config "event")) ∨
    ((∀ config, row.get "trigger_config" ≠ .object config) ∧
      (if (row.get "trigger_config").isTruthy then namedEvent row = .error .triggerConfig
        else namedEvent row = .ok .null)) := by
  unfold namedEvent Value.orElse
  rcases hc : row.get "trigger_config" with _ | _ | _ | _ | _ | _ | config
  case object =>
    refine Or.inl ⟨config, rfl, ?_⟩
    rcases config with _ | ⟨p, config⟩
    · rfl
    · rfl
  all_goals
    refine Or.inr ⟨fun config h => (by cases h), ?_⟩
    split
    · rfl
    · rfl

lemma matchRow_of_misshapen (payload : Value) (h : Misshapen event row) (e : Engine) :
    ∃ f, (matchRow event payload row).perform e = (.error f, e) := by
  rcases h with ⟨ht, hno⟩ | ⟨named, hn, ha, hp⟩
  · rcases namedEvent_cases row with ⟨config, hc, -⟩ | ⟨-, hn⟩
    · exact absurd hc (hno config)
    · rw [if_pos ht] at hn
      exact ⟨_, perform_bind_of_error (perform_ofExcept_error.mpr ⟨_, hn, rfl, rfl⟩)⟩
  · obtain ⟨fault, hf⟩ := Definition.ofRow_error_iff.mpr hp
    refine ⟨.crash (.malformed .policy), ?_⟩
    unfold matchRow
    rw [perform_bind_of_ok (perform_ofExcept_ok.mpr ⟨hn, rfl⟩), if_pos ha]
    exact perform_bind_of_error (perform_ofExcept_error.mpr ⟨fault, hf, rfl, rfl⟩)

lemma matchRow_of_not_misshapen (payload : Value) (hactive : matchesAll activeFilters row = true)
    (h : ¬Misshapen event row) (e : Engine) :
    ∃ k, (matchRow event payload row).perform e = (.ok (matched? event payload row), k) ∧
      k.store = e.store := by
  unfold Misshapen at h
  obtain ⟨hconfig, hpolicy⟩ := not_or.mp h
  obtain ⟨named, hn, hobject⟩ : ∃ named, namedEvent row = .ok named ∧
      ∀ config, row.get "trigger_config" = .object config → named = Fields.get config "event" := by
    rcases namedEvent_cases row with ⟨config, hc, hn⟩ | ⟨hno, hn⟩
    · refine ⟨_, hn, fun config' hc' => ?_⟩
      rw [hc] at hc'
      cases hc'
      rfl
    · rw [if_neg fun ht => hconfig ⟨ht, hno⟩] at hn
      exact ⟨_, hn, fun config hc => absurd hc (hno config)⟩
  unfold matchRow
  rw [perform_bind_of_ok (perform_ofExcept_ok.mpr ⟨hn, rfl⟩)]
  by_cases ha : named.agrees event = true
  · rw [if_pos ha]
    rcases hr : Definition.ofRow row with fault | read
    · exact absurd ⟨named, hn, ha, Definition.ofRow_error_iff.mp ⟨fault, hr⟩⟩ hpolicy
    rw [perform_bind_of_ok (perform_ofExcept_ok.mpr ⟨rfl, rfl⟩)]
    rcases read with invalid | d
    · have hnone : matched? event payload row = none := by
        unfold matched?
        rw [hr]
        split
        · rename_i hd
          cases hd
        · rfl
      rw [hnone]
      exact ⟨_, perform_bind_of_ok (perform_log _ _ e), rfl⟩
    · obtain ⟨config, -, hc, -⟩ :=
        (Definition.ofRow_eq_ok.mp hr).config_eq (matchesAll_active.mp hactive).2
      have hm : matched? event payload row =
          if d.triggerConfig.conditions.all (·.condition.holds payload) then some d else none := by
        unfold matched?
        rw [hc, hr]
        dsimp only
        rw [hactive, ← hobject config hc, ha]
        rfl
      have hall : (d.triggerConfig.conditions.map (·.condition)).all (·.holds payload) =
          d.triggerConfig.conditions.all (·.condition.holds payload) := by
        simp only [List.all_map, Function.comp_def]
      dsimp only
      rw [perform_bind_of_ok (perform_holdAll _ payload e), hm, hall]
      rcases d.triggerConfig.conditions.all (·.condition.holds payload) with _ | _
      · exact ⟨_, perform_bind_of_ok (perform_log _ _ _), rfl⟩
      · exact ⟨_, rfl, rfl⟩
  · have hnone : matched? event payload row = none := by
      unfold matched?
      split
      · rename_i config d hc hd
        rw [← hobject config hc, Bool.eq_false_iff.mpr ha, Bool.and_false, Bool.false_and]
        rfl
      · rfl
    rw [if_neg ha, hnone]
    exact ⟨e, rfl, rfl⟩

/-! ### All rows -/

lemma matchRows_of_not_misshapen (payload : Value)
    (hactive : ∀ row ∈ rows, matchesAll activeFilters row = true)
    (h : ∀ row ∈ rows, ¬Misshapen event row) (e : Engine) :
    ∃ k, (matchRows event payload rows).perform e =
        (.ok (rows.filterMap (matched? event payload)), k) ∧ k.store = e.store := by
  induction rows generalizing e with
  | nil => exact ⟨e, rfl, rfl⟩
  | cons row rows ih =>
    rw [List.forall_mem_cons] at hactive h
    obtain ⟨k, hk, hstore⟩ := matchRow_of_not_misshapen payload hactive.1 h.1 e
    obtain ⟨k', hk', hstore'⟩ := ih hactive.2 h.2 k
    refine ⟨k', ?_, hstore'.trans hstore⟩
    rw [matchRows, perform_bind_of_ok hk, perform_bind_of_ok hk', List.filterMap_cons]
    rcases matched? event payload row with _ | d
    · rfl
    · rfl

lemma matchRows_of_misshapen (payload : Value)
    (hactive : ∀ row ∈ rows, matchesAll activeFilters row = true) (hrow : row ∈ rows)
    (h : Misshapen event row) (e : Engine) :
    ∃ f k, (matchRows event payload rows).perform e = (.error f, k) := by
  induction rows generalizing e with
  | nil => cases hrow
  | cons first rows ih =>
    rw [List.forall_mem_cons] at hactive
    by_cases hd : Misshapen event first
    · obtain ⟨f, hf⟩ := matchRow_of_misshapen payload hd e
      exact ⟨f, e, perform_bind_of_error hf⟩
    · have hrest : row ∈ rows := by
        rcases List.mem_cons.mp hrow with rfl | hrest
        · exact absurd h hd
        · exact hrest
      obtain ⟨k, hk, -⟩ := matchRow_of_not_misshapen payload hactive.1 hd e
      obtain ⟨f, k', hf⟩ := ih hactive.2 hrest k
      refine ⟨f, k', ?_⟩
      rw [matchRows, perform_bind_of_ok hk]
      exact perform_bind_of_error hf

lemma filterMap_matched? (event payload : Value) (rows : List Row) :
    (rows.filter (matchesAll activeFilters)).filterMap (matched? event payload) =
      rows.filterMap (matched? event payload) := by
  rw [List.filterMap_filter]
  refine List.filterMap_congr fun row _ => ?_
  rcases hm : matched? event payload row with _ | d
  · exact ite_self none
  · have hs := matched?_eq_some.mp hm
    rw [if_pos (matchesAll_active.mpr ⟨hs.active, hs.type⟩)]

lemma perform_matching (event payload : Value)
    (h : e.store.select definitionsTable { filters := activeFilters } = (.ok rows, s)) :
    (matching event payload).perform e =
        (matchRows event payload rows).perform { e with store := s } ∧
      rows = (e.store.rows definitionsTable).filter (matchesAll activeFilters) := by
  have hread : ((select definitionsTable { filters := activeFilters }).onStorageFault fun _ => do
      log .error "Failed to fetch workflows"
      pure []).perform e = (.ok rows, { e with store := s }) := by
    refine onStorageFault_of_ok ?_
    rw [select, perform_stored, h]
  exact ⟨perform_bind_of_ok hread, Store.eq_of_select h⟩

lemma matching_of_not_derails (event payload : Value)
    (h : e.store.select definitionsTable { filters := activeFilters } = (.ok rows, s))
    (hd : ∀ row ∈ e.store.rows definitionsTable, ¬Derails event row) :
    ∃ k, (matching event payload).perform e =
      (.ok ((e.store.rows definitionsTable).filterMap (matched? event payload)), k) ∧
        k.store = s := by
  obtain ⟨hmatch, hrows⟩ := perform_matching event payload h
  have hactive : ∀ row ∈ rows, matchesAll activeFilters row = true := by
    intro row hrow
    rw [hrows] at hrow
    exact (List.mem_filter.mp hrow).2
  have hshape : ∀ row ∈ rows, ¬Misshapen event row := by
    intro row hrow hm
    obtain ⟨ha, ht⟩ := matchesAll_active.mp (hactive row hrow)
    rw [hrows] at hrow
    exact hd row (List.mem_filter.mp hrow).1 ⟨ha, ht, hm⟩
  obtain ⟨k, hk, hs⟩ := matchRows_of_not_misshapen payload hactive hshape { e with store := s }
  refine ⟨k, ?_, hs⟩
  rw [hmatch, hk, hrows, filterMap_matched?]

lemma matching_of_derails (event payload : Value)
    (h : e.store.select definitionsTable { filters := activeFilters } = (.ok rows, s))
    (hrow : row ∈ e.store.rows definitionsTable) (hd : Derails event row) :
    ∃ f k, (matching event payload).perform e = (.error f, k) := by
  obtain ⟨hmatch, hrows⟩ := perform_matching event payload h
  have hsel : row ∈ rows := by
    rw [hrows]
    exact List.mem_filter.mpr ⟨hrow, matchesAll_active.mpr ⟨hd.active, hd.type⟩⟩
  rw [hrows] at hsel hmatch
  rw [hmatch]
  exact matchRows_of_misshapen payload (fun row hrow => (List.mem_filter.mp hrow).2) hsel
    hd.misshapen _

lemma starts_of_matching {ds : List Definition} {k : Engine}
    (h : (matching event payload).perform e = (.ok ds, k)) :
    ∀ d ∈ ds, ∃ row ∈ e.store.rows definitionsTable, Starts event payload row d := by
  rcases hread : e.store.select definitionsTable { filters := activeFilters } with ⟨r | rows, s⟩
  · -- nothing is found where the table cannot be read
    have hselect : (select definitionsTable { filters := activeFilters }).perform e = _ :=
      perform_stored _ e
    rw [hread] at hselect
    unfold matching at h
    cases r with
    | fault f =>
      rw [perform_bind, onStorageFault_of_fault hselect] at h
      cases h
      simp
    | program text | hugeKey =>
      rw [perform_bind, onStorageFault_of_error (by simp [Store.Refusal.failure]) hselect] at h
      cases h
  · intro d hd
    by_cases hderails : ∃ row ∈ e.store.rows definitionsTable, Derails event row
    · obtain ⟨row, hrow, hrowd⟩ := hderails
      obtain ⟨f, k', hf⟩ := matching_of_derails event payload hread hrow hrowd
      rw [hf] at h
      cases h
    · have hnone : ∀ row ∈ e.store.rows definitionsTable, ¬Derails event row :=
        fun row hrow hr => hderails ⟨row, hrow, hr⟩
      obtain ⟨k', hk, -⟩ := matching_of_not_derails event payload hread hnone
      rw [hk] at h
      cases h
      obtain ⟨row, hrow, hm⟩ := List.mem_filterMap.mp hd
      exact ⟨row, hrow, matched?_eq_some.mp hm⟩

/-- **What an event starts**: if the table of definitions can be read and no row derails the event,
exactly the definitions are found that the event starts, in storage order. A row that derails the
event keeps all of them from being found. -/
theorem matching_eq (event payload : Value)
    (h : e.store.select definitionsTable { filters := activeFilters } = (.ok rows, s)) :
    (∀ row d, matched? event payload row = some d ↔ Starts event payload row d) ∧
      ((∀ row ∈ e.store.rows definitionsTable, ¬Derails event row) →
        ∃ k, (matching event payload).perform e =
          (.ok ((e.store.rows definitionsTable).filterMap (matched? event payload)), k) ∧
            k.store = s) ∧
      ((∃ row ∈ e.store.rows definitionsTable, Derails event row) →
        ∃ f k, (matching event payload).perform e = (.error f, k)) := by
  refine ⟨fun row d => matched?_eq_some, fun hd => ?_, fun ⟨row, hrow, hd⟩ => ?_⟩
  · exact matching_of_not_derails event payload h hd
  · exact matching_of_derails event payload h hrow hd

/-- An active row with a trigger configuration and an error policy. -/
def activeRow (id : String) (config policy : Value) : Row := [
  ("id", .text id), ("is_active", .bool true), ("trigger_type", .text "event"),
  ("trigger_config", config), ("error_handling", policy)]

def boundTo (event : String) : Value := .object [("event", .text event)]

/-- An engine whose table of definitions has some rows. -/
def defining (rows : List Row) : Engine :=
  { store := { backend := .memory [(definitionsTable, rows)] } }

/-- A row with a policy that nobody knows is passed over; one whose configuration is a list derails
the event. -/
theorem matching_eq_defining :
    (∃ ds k, (matching (.text "won") (.object [])).perform (defining
        [activeRow "a" (boundTo "won") (.text "explode"), activeRow "b" (boundTo "won") .null]) =
          (.ok ds, k) ∧ ds.map (·.id) = ["b"]) ∧
      ∃ f k, (matching (.text "won") (.object [])).perform (defining
        [activeRow "a" (.list [.text "won"]) .null, activeRow "b" (boundTo "won") .null]) =
          (.error f, k) := by
  constructor
  · obtain ⟨-, hmatch, -⟩ := matching_eq (.text "won") (.object [])
      (e := defining [activeRow "a" (boundTo "won") (.text "explode"),
        activeRow "b" (boundTo "won") .null]) (Prod.ext rfl rfl)
    obtain ⟨k, hk, -⟩ := hmatch fun row hrow hd => by
      have hrow : row ∈ [activeRow "a" (boundTo "won") (.text "explode"),
          activeRow "b" (boundTo "won") .null] := hrow
      simp only [List.mem_cons, List.not_mem_nil, or_false] at hrow
      rcases hd.misshapen with ⟨-, hno⟩ | ⟨named, -, -, hp⟩
      · rcases hrow with rfl | rfl
        · exact hno _ rfl
        · exact hno _ rfl
      · rcases hrow with rfl | rfl
        · cases hp
        · cases hp
    exact ⟨_, k, hk, by decide +kernel⟩
  · obtain ⟨-, -, herror⟩ := matching_eq (.text "won") (.object [])
      (e := defining [activeRow "a" (.list [.text "won"]) .null,
        activeRow "b" (boundTo "won") .null]) (Prod.ext rfl rfl)
    have hmis : Misshapen (.text "won") (activeRow "a" (.list [.text "won"]) .null) :=
      Or.inl ⟨rfl, fun config h => by cases h⟩
    exact herror ⟨_, List.mem_cons_self, ⟨rfl, rfl, hmis⟩⟩

end Trigger

end CrmAutomation

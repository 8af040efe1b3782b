import CrmAutomation.Proofs.Rule.Counting

/-!
What comes of handling an event by rules.

The active rules for the event are read once, and each of them takes its turn. However the turns
end, the event is handled, and the number that is reported is the number of rules that succeeded.
-/

namespace CrmAutomation.Rule

open EngineM Record Calendar

/-- The rule that a row holds, if it can be read. -/
def ofRow? (row : Row) : Option Rule :=
  match ofRow row with
  | .ok r => some r
  | .refused _ => none

/-- The rules for an event among rows: those in active rows for it that can be read. -/
def rulesFor (event : Value) (rows : List Row) : List Rule :=
  (rows.filter (matchesAll (activeFilters event))).filterMap ofRow?

/-- The turns that an event about an entity gives to rules. -/
def turnsFor (event : Value) (entityType : String) (entityId : Value) (given : Fields)
    (e : Engine) : List Turn :=
  match (matching event).perform e with
  | (.ok rules, k) =>
    turns (Payload.compose entityType entityId given) rules
      (k.noting .info "Running automation rules")
  | (.error _, _) => []

variable {event entityId : Value} {entityType : String} {payload given : Fields} {e k : Engine}
  {row : Row} {rows : List Row} {r : Rule} {rs : List Rule} {s : Store} {x : Turn}

/-! ### Finding the rules -/

lemma ofRow?_eq_some : ofRow? row = some r ↔ ofRow row = .ok r := by
  unfold ofRow?
  rcases ofRow row with r' | issues <;> simp

lemma perform_readRows (rows : List Row) (e : Engine) :
    ∃ k, (readRows rows).perform e = (.ok (rows.filterMap ofRow?), k) ∧ k.store = e.store := by
  induction rows generalizing e with
  | nil => exact ⟨e, rfl, rfl⟩
  | cons row rows ih =>
    unfold readRows
    rw [List.filterMap_cons]
    rcases hrow : ofRow row with r | issues
    · obtain ⟨k, hk, hs⟩ := ih e
      rw [ofRow?_eq_some.mpr hrow, perform_bind_of_ok hk]
      exact ⟨k, rfl, hs⟩
    · obtain ⟨k, hk, hs⟩ := ih (e.noting .warning "Skipping invalid automation rule")
      have hnone : ofRow? row = none := by rw [ofRow?, hrow]
      rw [hnone]
      exact ⟨k, (perform_bind_of_ok (perform_log _ _ e)).trans hk, hs⟩

lemma matching_of_select
    (hread : e.store.select rulesTable { filters := activeFilters event } = (.ok rows, s)) :
    ∃ k, (matching event).perform e = (.ok (rulesFor event (e.store.rows rulesTable)), k) ∧
      k.store = s := by
  have hselect : (select rulesTable { filters := activeFilters event }).perform e =
      (.ok rows, { e with store := s }) := by
    rw [select, perform_stored, hread]
  have hrows : rows = (e.store.rows rulesTable).filter (matchesAll (activeFilters event)) :=
    Store.eq_of_select hread
  obtain ⟨k, hk, hs⟩ := perform_readRows rows { e with store := s }
  refine ⟨k, ?_, hs⟩
  rw [matching, perform_bind_of_ok (onStorageFault_of_ok hselect), hk, hrows]
  rfl

lemma matching_returns (ho : e.store.Orderly) (event : Value) :
    ∃ rules k, (matching event).perform e = (.ok rules, k) := by
  rcases hread : e.store.select rulesTable { filters := activeFilters event } with ⟨g | rows, s⟩
  · obtain ⟨f, rfl⟩ := Store.fault_of_select_error ho hread
    have hselect : (select rulesTable { filters := activeFilters event }).perform e =
        (.error (.storage f), { e with store := s }.notingAll (databaseNotes f)) := by
      rw [select, perform_stored, hread]
      rfl
    rw [matching, perform_bind, onStorageFault_of_fault hselect]
    exact ⟨[], _, rfl⟩
  · obtain ⟨k, hk, -⟩ := matching_of_select hread
    exact ⟨_, k, hk⟩

lemma keeps_matching {W : String → Prop} {R : Engine → Engine → Prop} (hR : Frame W R)
    (hm : (matching event).perform e = (.ok rs, k)) (level : Log.Level) (line : String) :
    R e (k.noting level line) := by
  have hkeeps := hR.keeps e (does_matching (hR.lockstep e) (Or.inl rfl) event)
  rw [hm] at hkeeps
  exact hR.trans _ _ _ hkeeps (hR.journal _ _)

lemma mem_rulesFor (h : r ∈ rulesFor event rows) : ∃ row ∈ rows, ofRow row = .ok r := by
  obtain ⟨row, hrow, hr⟩ := List.mem_filterMap.mp h
  exact ⟨row, (List.mem_filter.mp hrow).1, ofRow?_eq_some.mp hr⟩

lemma nodup_rulesFor (hids : (rows.map (·.get "id")).Nodup) (event : Value) :
    ((rulesFor event rows).map (·.id)).Nodup := by
  rw [List.Nodup, List.pairwise_map] at hids ⊢
  refine (hids.filter _).filterMap _ fun row row' hne r hr r' hr' he => hne ?_
  rw [id_of_ofRow (ofRow?_eq_some.mp hr), id_of_ofRow (ofRow?_eq_some.mp hr'), he]

lemma sources_rulesFor (hids : (rows.map (·.get "id")).Nodup) (event : Value) :
    Sources (rulesFor event rows) rows := by
  intro r hr row hrow hid
  obtain ⟨source, hsource, hread⟩ := mem_rulesFor hr
  have hsame : row = source :=
    List.inj_on_of_nodup_map hids hrow hsource (hid.trans (id_of_ofRow hread).symm)
  rw [hsame]
  exact hread

/-! ### Handling an event -/

lemma orderly_of_turns (ho : e.store.Orderly) (hx : x ∈ turns payload rs e) :
    x.before.store.Orderly := by
  induction rs generalizing e with
  | nil => cases hx
  | cons r rs ih =>
    rcases List.mem_cons.mp hx with rfl | hx
    · exact ho
    · exact ih (Turn.keeps_after frame_orderly ⟨r, payload, e⟩ ho) hx

lemma perform_handle (hm : (matching event).perform e = (.ok rs, k)) (entityType : String)
    (entityId : Value) (given : Fields) :
    let k' := k.noting .info "Running automation rules"
    let payload := Payload.compose entityType entityId given
    ∃ e', (handle event entityType entityId (.object given)).perform e =
        (.ok ((turns payload rs k').countP (·.yields)), e') ∧
      e'.store = (afterTurns payload rs k').store := by
  intro k' payload
  have hfields : (Payload.read (.object given)).perform k' = (.ok given, k') :=
    perform_ofExcept_ok.mpr ⟨Trigger.fields_object given, rfl⟩
  rw [handle, perform_bind_of_ok hm]
  rcases rs with _ | ⟨r, rs⟩
  · exact ⟨_, rfl, rfl⟩
  · refine
      ⟨(afterTurns payload (r :: rs) k').noting .info "Automation processing complete", ?_, rfl⟩
    rw [List.isEmpty_cons, if_neg Bool.false_ne_true, perform_bind_of_ok (perform_log _ _ k),
      perform_bind_of_ok hfields, perform_bind_of_ok (perform_runAll payload (r :: rs) k')]
    rfl

/-- **Rules handle an event**: around a store that fails only as stores do, an event about an entity
is always handled, and the number that is reported is the number of turns that succeed. If the table
of rules can be read and counting is not refused, the turns are those of the active rules for the
event that can be read; with distinct ids, the row of each that succeeds is counted once, and every
other row is as it was. -/
theorem handle_counts (ho : e.store.Orderly) (event : Value) (entityType : String)
    (entityId : Value) (given : Fields) :
    let xs := turnsFor event entityType entityId given e
    ∃ e', (handle event entityType entityId (.object given)).perform e =
        (.ok (xs.countP (·.succeeds)), e') ∧
      ∀ rows s, e.store.select rulesTable { filters := activeFilters event } = (.ok rows, s) →
        xs.map (·.rule) = rulesFor event (e.store.rows rulesTable) ∧
        (e.store.Kept → ((e.store.rows rulesTable).map (·.get "id")).Nodup →
          (∀ x ∈ xs, x.Counts) →
          List.Forall₂ (Tallied xs) (e.store.rows rulesTable) (e'.store.rows rulesTable)) := by
  intro xs
  obtain ⟨rules, k, hm⟩ := matching_returns ho event
  let k' := k.noting .info "Running automation rules"
  have hxs : xs = turns (Payload.compose entityType entityId given) rules k' := by
    show turnsFor event entityType entityId given e = _
    rw [turnsFor, hm]
  obtain ⟨e', he', hstore⟩ := perform_handle hm entityType entityId given
  have hrows : k'.store.rows rulesTable = e.store.rows rulesTable :=
    keeps_matching (frame_rows rulesTable) hm _ _
  refine ⟨e', ?_, fun rows s hread => ?_⟩
  · have hk : k'.store.Orderly := keeps_matching frame_orderly hm _ _ ho
    have hcount : ∀ x ∈ xs, x.yields = true ↔ x.succeeds = true := fun x hx => by
      rw [Turn.yields_eq (orderly_of_turns hk (hxs ▸ hx))]
    rw [he', ← hxs, List.countP_congr hcount]
  · obtain ⟨k₁, hfound, -⟩ := matching_of_select hread
    cases hm.symm.trans hfound
    refine ⟨by rw [hxs, rules_of_turns], fun hkept hids hcounts => ?_⟩
    have hk : k'.store.Kept := keeps_matching (frame_kept fun _ => True) hm _ _ hkept
    rw [hxs] at hcounts ⊢
    have hsources :
        Sources (rulesFor event (e.store.rows rulesTable)) (k'.store.rows rulesTable) := by
      rw [hrows]
      exact sources_rulesFor hids event
    have htally := tallied_turns hk (nodup_rulesFor hids event) hsources hcounts
    rw [hrows] at htally
    rw [hstore]
    exact htally

/-- A row of an active rule for an event. -/
def ruleRow (id event : String) (action : Fields) (others : Fields) : Row :=
  ("id", .text id) :: ("trigger_event", .text event) :: ("is_active", .bool true) ::
    ("actions", .object action) :: others

/-- Rules for one event: one that makes a task, one whose conditions do not hold, one that cannot be
read, and one that has nobody to notify. -/
def ruled : Engine where
  store := { backend := .memory [(rulesTable, [
    ruleRow "a" "won" [("type", .text "create_task")] [("execution_count", .null)],
    ruleRow "b" "won" [("type", .text "create_task")]
      [("trigger_conditions", .object [("stage", .text "lost")])],
    ruleRow "c" "won" [] [],
    ruleRow "d" "won" [("type", .text "notification")] [("execution_count", .int 7)]])] }

theorem handle_counts_ruled :
    ∃ e' row, (handle (.text "won") "deal" (.text "D1") (.object [])).perform ruled = (.ok 1, e') ∧
      Counted ruled.clock (ruleRow "a" "won" [("type", .text "create_task")]
        [("execution_count", .null)]) row ∧
      e'.store.rows rulesTable = row :: (ruled.store.rows rulesTable).tail := by
  obtain ⟨e', hhandle, htable⟩ := handle_counts (e := ruled) (by intro p hp; cases hp)
    (.text "won") "deal" (.text "D1") []
  let xs := turnsFor (.text "won") "deal" (.text "D1") [] ruled
  have hone : xs.countP (·.succeeds) = 1 := by decide +kernel
  have hfirst : ∃ x ∈ xs, x.succeeds = true ∧ x.rule.id = "a" ∧ x.done.clock = ruled.clock := by
    decide +kernel
  have hothers : ∀ row ∈ (ruled.store.rows rulesTable).tail, ∀ x ∈ xs, x.succeeds = true →
      row.get "id" ≠ .text x.rule.id := by decide +kernel
  have hcounts : ∀ x ∈ xs, x.Counts := by decide +kernel
  have hread : ruled.store.select rulesTable { filters := activeFilters (.text "won") } =
      (.ok (ruled.store.rows rulesTable), ruled.store) := by decide +kernel
  have htally := (htable _ _ hread).2 (fun _ _ _ => rfl) (by decide +kernel) hcounts
  obtain ⟨x, hx, hs, hid, hclock⟩ := hfirst
  rw [hone] at hhandle
  rcases hrows : e'.store.rows rulesTable with _ | ⟨row, rest⟩
  · rw [hrows] at htally
    cases htally
  · rw [hrows] at htally
    obtain ⟨ha, hrest⟩ := List.forall₂_cons.mp htally
    refine ⟨e', row, hhandle, ?_, ?_⟩
    · have hcounted := (ha.counted x hx hs (by rw [hid]; rfl)).2
      rw [hclock] at hcounted
      exact hcounted
    · rw [hrows, eq_of_forall₂ hrest fun old hold new ht => ht.others (hothers old hold)]
      rfl

end CrmAutomation.Rule

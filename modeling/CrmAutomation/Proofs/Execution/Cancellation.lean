import CrmAutomation.Execution.Administration
import CrmAutomation.Proofs.Node.Effect
import CrmAutomation.Proofs.Run.Revision
import Mathlib.Data.List.Pairwise

/-!
What comes of cancelling an execution.

Two requests decide it: the first looks for the execution, and the second marks it where it is still
running. An execution in a state that is neither over nor running, and one without a state, pass
between the two: they are not over, and the second request does not find them. So nothing changes
unless the execution is running, and then only its state and the time of its end do.
-/

namespace CrmAutomation

open EngineM Record

namespace Execution

/-! ### The requests -/

/-- What cancelling writes. -/
def cancelPatch (t : Calendar.Instant) : Fields :=
  [("status", RunStatus.cancelled.value), ("completed_at", .text t.isoText)]

/-- The request that looks for an execution. -/
def lookup (id : Value) (s : Store) : Store.Outcome (List Row) :=
  s.select executionsTable { filters := [⟨"id", .equals, id⟩], limit := some 1 }

/-- The request that marks an execution as cancelled where it is running. -/
def marking (id : Value) (t : Calendar.Instant) (s : Store) : Store.Outcome ℕ :=
  s.update executionsTable (cancelPatch t) (runningFilters id)

/-- The store does what was asked for. -/
def Granted {α : Type} (o : Store.Outcome α) : Prop := ∃ a, o.1 = .ok a

/-- How a cancel may end: with what, and with which store. -/
inductive CancelEnds (id : Value) (e : Engine) : Except Failure Bool → Store → Prop where
  | unread {r s} (hl : lookup id e.store = (.error r, s)) : CancelEnds id e (.error r.failure) s
  | unfound {s} (hl : lookup id e.store = (.ok [], s)) :
      CancelEnds id e (.error (.executionNotFound id)) s
  | stateless {row rows s c} (hl : lookup id e.store = (.ok (row :: rows), s))
      (hf : isFinished row = .error c) : CancelEnds id e (.error (.crash (.malformed c))) s
  | finished {row rows s} (hl : lookup id e.store = (.ok (row :: rows), s))
      (hf : isFinished row = .ok true) : CancelEnds id e (.ok false) s
  | unmarked {row rows s r k} (hl : lookup id e.store = (.ok (row :: rows), s))
      (hf : isFinished row = .ok false) (hm : marking id e.clock s = (.error r, k)) :
      CancelEnds id e (.error r.failure) k
  | marked {row rows s n k} (hl : lookup id e.store = (.ok (row :: rows), s))
      (hf : isFinished row = .ok false) (hm : marking id e.clock s = (.ok n, k)) :
      CancelEnds id e (.ok (n != 0)) k

variable {id : Value} {e : Engine} {s s' k : Store} {row row' : Row} {rows : List Row} {n : ℕ}
  {t : Calendar.Instant} {r : Except Failure Bool} {f : Store.Refusal}

lemma plain_cancelPatch (t : Calendar.Instant) : (cancelPatch t).Plain where
  texts := by simp [cancelPatch]
  nodup := by simp [cancelPatch]

lemma find?_cancelPatch {key : Key} (hs : key ≠ "status") (hc : key ≠ "completed_at")
    (t : Calendar.Instant) : (cancelPatch t).find? key = none := by
  simp [cancelPatch, Fields.find?_cons, Ne.symm hs, Ne.symm hc]

lemma matchesAll_running : matchesAll (runningFilters id) row = true ↔
    (row.get "id").agrees id = true ∧ row.get "status" = RunStatus.running.value := by
  simp [matchesAll, runningFilters, Filter.passes, Relation.holds, RunStatus.value,
    Value.agrees_text]

lemma perform_get (id : Value) (e : Engine) :
    (get id).perform e =
      match lookup id e.store with
      | (.ok (row :: _), s) => (.ok row, { e with store := s })
      | (.ok [], s) => (.error (.executionNotFound id), { e with store := s })
      | (.error r, s) => (.error r.failure, { e with store := s }.notingAll r.notes) := by
  have hselect : (select executionsTable { filters := [⟨"id", .equals, id⟩], limit := some 1 }
      ).perform e = _ := perform_stored _ e
  unfold get lookup
  rw [perform_bind, hselect]
  rcases e.store.select executionsTable { filters := [⟨"id", .equals, id⟩], limit := some 1 } with
    ⟨r | _ | ⟨row, rows⟩, s⟩
  · rfl
  · rfl
  · rfl

/-- Marks an execution as cancelled while it is in progress; yields whether it was. -/
def mark (id : Value) : EngineM Bool := do
  let t ← now
  let count ← update executionsTable (cancelPatch t) (runningFilters id)
  if count = 0 then
    logAbout id .info "Execution not running, nothing to cancel"
    pure false
  else
    logAbout id .info "Execution cancelled"
    pure true

lemma cancel_eq (id : Value) :
    cancel id = (do
      let row ← get id
      let finished ← EngineM.ofExcept .malformed (isFinished row)
      if finished then
        logAbout id .info "Execution already finished, nothing to cancel"
        pure false
      else mark id) := rfl

lemma mark_of_refused (h : marking id e.clock e.store = (.error f, s)) :
    ((mark id).perform e).1 = .error f.failure ∧ ((mark id).perform e).2.store = s := by
  have hupdate : (update executionsTable (cancelPatch e.clock) (runningFilters id)).perform e = _ :=
    perform_stored _ e
  unfold marking at h
  rw [h] at hupdate
  unfold mark
  rw [perform_bind_of_ok (perform_now e), perform_bind_of_error hupdate]
  exact ⟨rfl, rfl⟩

lemma mark_of_granted (h : marking id e.clock e.store = (.ok n, s)) :
    ((mark id).perform e).1 = .ok (n != 0) ∧ ((mark id).perform e).2.store = s := by
  have hupdate : (update executionsTable (cancelPatch e.clock) (runningFilters id)).perform e = _ :=
    perform_stored _ e
  unfold marking at h
  rw [h] at hupdate
  unfold mark
  rw [perform_bind_of_ok (perform_now e), perform_bind_of_ok hupdate]
  rcases n with _ | n
  · exact ⟨rfl, rfl⟩
  · exact ⟨rfl, rfl⟩

/-- **A cancel ends in one of six ways.** -/
theorem cancel_ends (id : Value) (e : Engine) :
    CancelEnds id e ((cancel id).perform e).1 ((cancel id).perform e).2.store := by
  have hget := perform_get id e
  rw [cancel_eq]
  rcases hl : lookup id e.store with ⟨f | _ | ⟨row, rows⟩, s⟩
  all_goals rw [hl] at hget
  · rw [perform_bind_of_error hget]
    exact .unread hl
  · rw [perform_bind_of_error hget]
    exact .unfound hl
  rw [perform_bind_of_ok hget]
  rcases hf : isFinished row with c | _ | _
  · rw [perform_bind_of_error (perform_ofExcept_error.mpr ⟨c, rfl, rfl, rfl⟩)]
    exact .stateless hl hf
  · rw [perform_bind_of_ok (perform_ofExcept_ok.mpr ⟨rfl, rfl⟩), if_neg Bool.false_ne_true]
    rcases hm : marking id e.clock s with ⟨f | n, k⟩
    · obtain ⟨hresult, hstore⟩ := mark_of_refused (e := { e with store := s }) hm
      rw [hresult, hstore]
      exact .unmarked hl hf hm
    · obtain ⟨hresult, hstore⟩ := mark_of_granted (e := { e with store := s }) hm
      rw [hresult, hstore]
      exact .marked hl hf hm
  · rw [perform_bind_of_ok (perform_ofExcept_ok.mpr ⟨rfl, rfl⟩), if_pos rfl]
    exact .finished hl hf

/-! ### Executions -/

/-- The row has the id. -/
def HasId (id : Value) (row : Row) : Prop := (row.get "id").agrees id = true

/-- No two rows have one id, and the state of each is a text, null or missing. -/
structure Regular (rows : List Row) : Prop where
  distinct : ∀ id, rows.Pairwise fun row row' => ¬(HasId id row ∧ HasId id row')
  states : ∀ row ∈ rows, row.get "status" = .null ∨ ∃ s, row.get "status" = .text s

/-- An execution was cancelled: its state and the time of its end are set, and nothing else in its
row has changed. -/
structure Cancelled (t : Calendar.Instant) (row row' : Row) : Prop where
  status : row'.find? "status" = some RunStatus.cancelled.value
  completedAt : row'.find? "completed_at" = some (.text t.isoText)
  others : ∀ key : Key, key ≠ "status" → key ≠ "completed_at" → row'.find? key = row.find? key

/-- The execution with the id was cancelled, and no other row of any table was touched. -/
structure Cancels (id : Value) (t : Calendar.Instant) (s s' : Store) : Prop where
  others : ∀ table, table ≠ executionsTable → s'.rows table = s.rows table
  rows : List.Forall₂
    (fun row row' => (HasId id row → Cancelled t row row') ∧ (¬HasId id row → row' = row))
    (s.rows executionsTable) (s'.rows executionsTable)

lemma Regular.eq_of_hasId (h : Regular rows) (hrow : row ∈ rows) (hrow' : row' ∈ rows)
    (hid : HasId id row) (hid' : HasId id row') : row = row' := by
  by_contra hne
  have hsymm : Std.Symm fun row row' => ¬(HasId id row ∧ HasId id row') :=
    ⟨fun _ _ hno hboth => hno hboth.symm⟩
  exact (h.distinct id).forall hrow hrow' hne ⟨hid, hid'⟩

lemma distinct_of_texts (ids : List String) (hrows : rows.map (·.get "id") = ids.map .text)
    (hids : ids.Nodup) (id : Value) :
    rows.Pairwise fun row row' => ¬(HasId id row ∧ HasId id row') := by
  have hnodup : (rows.map (·.get "id")).Nodup := by
    rw [hrows]
    exact hids.map fun _ _ h => Value.text.inj h
  refine (List.pairwise_map.mp hnodup).imp_of_mem fun {row row'} hrow hrow' hne hboth => hne ?_
  have htext : ∀ row ∈ rows, ∃ s, row.get "id" = .text s := by
    intro row hrow
    have hmem : row.get "id" ∈ ids.map .text := hrows ▸ List.mem_map_of_mem hrow
    obtain ⟨s, -, hs⟩ := List.mem_map.mp hmem
    exact ⟨s, hs.symm⟩
  obtain ⟨s, hs⟩ := htext row hrow
  obtain ⟨s', hs'⟩ := htext row' hrow'
  obtain ⟨hid, hid'⟩ := hboth
  unfold HasId at hid hid'
  rw [hs, Value.text_agrees] at hid
  rw [hs', Value.text_agrees, hid] at hid'
  rw [hs, hs', hid']

lemma isFinished_running (h : row.get "status" = RunStatus.running.value) :
    isFinished row = .ok false := by
  unfold isFinished
  rw [h]
  rfl

lemma isFinished_cancelled (h : row.find? "status" = some RunStatus.cancelled.value) :
    isFinished row = .ok true := by
  unfold isFinished
  rw [Fields.get, h]
  rfl

lemma Regular.isFinished_ne_error (h : Regular rows) (hrow : row ∈ rows) (c : Malformed) :
    isFinished row ≠ .error c := by
  unfold isFinished
  rcases h.states row hrow with hs | ⟨s, hs⟩
  · rw [hs]
    exact fun hc => by cases hc
  · rw [hs]
    exact fun hc => by cases hc

/-! ### What the requests come to -/

lemma rows_of_lookup (h : lookup id s = (.ok rows, s')) :
    rows = ((s.rows executionsTable).filter fun row => (row.get "id").agrees id).take 1 := by
  have hfilter : matchesAll [⟨"id", .equals, id⟩] = fun row => (row.get "id").agrees id :=
    funext fun row => Store.matchesAll_value
  have hrows := Store.eq_of_select h
  rw [hfilter] at hrows
  exact hrows

lemma unfound_of_lookup (h : lookup id s = (.ok [], s')) :
    ∀ row ∈ s.rows executionsTable, ¬HasId id row := by
  intro row hrow hid
  have hmem : row ∈ (s.rows executionsTable).filter fun row => (row.get "id").agrees id :=
    List.mem_filter.mpr ⟨hrow, hid⟩
  have hnil := rows_of_lookup h
  rw [eq_comm, List.take_eq_nil_iff] at hnil
  rcases hnil with hone | hnil
  · cases hone
  · rw [hnil] at hmem
    cases hmem

lemma found_of_lookup (h : lookup id s = (.ok (row :: rows), s')) :
    row ∈ s.rows executionsTable ∧ HasId id row := by
  have hmem : row ∈ (row :: rows) := List.mem_cons_self
  rw [rows_of_lookup h] at hmem
  exact List.mem_filter.mp (List.mem_of_mem_take hmem)

lemma sameRows_lookup (id : Value) (s : Store) : s.SameRows (lookup id s).2 :=
  fun table => Store.rows_select s executionsTable _ table

lemma marking_finds (h : marking id t s = (.ok n, k)) :
    n ≠ 0 ↔ ∃ row ∈ s.rows executionsTable,
      HasId id row ∧ row.get "status" = RunStatus.running.value := by
  rw [Store.count_of_update h, ← Nat.pos_iff_ne_zero, List.countP_pos_iff]
  simp only [matchesAll_running, HasId]

lemma sameRows_of_refused (h : marking id t s = (.error f, k)) : s.SameRows k :=
  Store.rows_update_error h

lemma sameRows_of_unfound (h : marking id t s = (.ok 0, k)) : s.SameRows k := by
  have hnone := List.countP_eq_zero.mp (Store.count_of_update h).symm
  intro table
  rw [Store.rows_update h]
  split
  · rename_i htable
    subst htable
    refine (List.map_congr_left fun row hrow => ?_).trans (List.map_id _)
    exact if_neg (hnone row hrow)
  · rfl

/-- A running execution that is marked is cancelled: its row cannot have been equal to that
before. -/
lemma cancelled_overwrite (hk : s.keep row = row)
    (hrunning : row.get "status" = RunStatus.running.value) (t : Calendar.Instant) :
    Cancelled t row (s.overwrite row (cancelPatch t)) := by
  have hp := plain_cancelPatch t
  rcases Store.overwrite_of_keep hk hp with ho | ⟨-, ha⟩
  · refine ⟨?_, ?_, fun key hs hc => ?_⟩
    · rw [ho]
      exact congrArg some (Store.brings_of_isJson (Value.isJson_text _))
    · rw [ho]
      exact congrArg some (Store.brings_of_isJson (Value.isJson_text _))
    · rw [ho, find?_cancelPatch hs hc]
      rfl
  · have hset : (row.merge (cancelPatch t)).find? "status" = some RunStatus.cancelled.value := by
      rw [Fields.find?_merge row hp.nodup]
      rfl
    obtain ⟨w, hw, hsame⟩ := Value.agrees_find? ha hset
    have hw' : w = RunStatus.running.value := by
      rw [Fields.get, hw] at hrunning
      exact hrunning
    rw [hw'] at hsame
    cases hsame

lemma cancels_of_marking (hr : Regular (s.rows executionsTable)) (hk : s.Kept)
    (h : marking id t s = (.ok n, k)) (hn : n ≠ 0) : Cancels id t s k := by
  obtain ⟨found, hfound, hown, hrunning⟩ := (marking_finds h).mp hn
  refine ⟨fun table ht => by rw [Store.rows_update h, if_neg (Ne.symm ht)], ?_⟩
  rw [Store.rows_update h, if_pos rfl, List.forall₂_map_right_iff, List.forall₂_same]
  intro row hrow
  constructor
  · intro hid
    have hsame : row = found := hr.eq_of_hasId hrow hfound hid hown
    have hmatches : matchesAll (runningFilters id) row = true :=
      matchesAll_running.mpr ⟨hid, hsame ▸ hrunning⟩
    rw [if_pos hmatches]
    exact cancelled_overwrite (Store.keep_of_kept hk hrow) (hsame ▸ hrunning) t
  · exact fun hid => if_neg fun hm => hid (matchesAll_running.mp hm).1

/-! ### Outcomes -/

lemma failure_ne_executionNotFound (f : Store.Refusal) : f.failure ≠ .executionNotFound id := by
  cases f <;> exact Failure.noConfusion

lemma not_granted {α : Type} {o : Store.Outcome α} (h : o = (.error f, s)) : ¬Granted o := by
  rintro ⟨a, ha⟩
  rw [h] at ha
  cases ha

lemma Cancels.of_sameRows (h : Cancels id t s k) (hs : e.store.SameRows s) :
    Cancels id t e.store k := by
  refine ⟨fun table ht => (h.others table ht).trans (hs table), ?_⟩
  rw [← hs executionsTable]
  exact h.rows

lemma Cancels.isFinished (h : Cancels id t s s') (hrow : row ∈ s'.rows executionsTable)
    (hid : HasId id row) : Execution.isFinished row = .ok true := by
  obtain ⟨old, -, hcancelled, hsame⟩ := exists_of_forall₂ h.rows.flip hrow
  by_cases hold : HasId id old
  · exact isFinished_cancelled (hcancelled hold).status
  · rw [hsame hold] at hid
    exact absurd hid hold

lemma Cancels.exists_hasId (h : Cancels id t s s') (hrow : row ∈ s.rows executionsTable)
    (hid : HasId id row) : ∃ row' ∈ s'.rows executionsTable, HasId id row' := by
  obtain ⟨row', hrow', hcancelled, -⟩ := exists_of_forall₂ h.rows hrow
  refine ⟨row', hrow', ?_⟩
  unfold HasId Fields.get
  rw [(hcancelled hid).others "id" (by decide) (by decide)]
  exact hid

namespace CancelEnds

lemma notFound_iff (h : CancelEnds id e r s') : r = .error (.executionNotFound id) ↔
    Granted (lookup id e.store) ∧ ∀ row ∈ e.store.rows executionsTable, ¬HasId id row := by
  have hfound {row : Row} {rows : List Row} {s : Store}
      (hl : lookup id e.store = (.ok (row :: rows), s)) :
      ¬∀ row ∈ e.store.rows executionsTable, ¬HasId id row := by
    obtain ⟨hrow, hid⟩ := found_of_lookup hl
    exact fun hno => hno row hrow hid
  cases h with
  | unread hl =>
    refine ⟨fun h => ?_, fun h => absurd h.1 (not_granted hl)⟩
    exact absurd (Except.error.inj h) (failure_ne_executionNotFound _)
  | unfound hl => exact ⟨fun _ => ⟨⟨[], congrArg Prod.fst hl⟩, unfound_of_lookup hl⟩, fun _ => rfl⟩
  | stateless hl => exact ⟨fun h => (by cases h), fun h => absurd h.2 (hfound hl)⟩
  | finished hl => exact ⟨fun h => (by cases h), fun h => absurd h.2 (hfound hl)⟩
  | unmarked hl =>
    refine ⟨fun h => ?_, fun h => absurd h.2 (hfound hl)⟩
    exact absurd (Except.error.inj h) (failure_ne_executionNotFound _)
  | marked hl => exact ⟨fun h => (by cases h), fun h => absurd h.2 (hfound hl)⟩

lemma eq_found (hr : Regular (e.store.rows executionsTable))
    (hl : lookup id e.store = (.ok (row :: rows), s)) (hrow' : row' ∈ e.store.rows executionsTable)
    (hid' : HasId id row') : row' = row := by
  obtain ⟨hrow, hid⟩ := found_of_lookup hl
  exact hr.eq_of_hasId hrow' hrow hid' hid

lemma marked_iff (hr : Regular (e.store.rows executionsTable))
    (hl : lookup id e.store = (.ok (row :: rows), s)) (hm : marking id t s = (.ok n, k)) :
    n ≠ 0 ↔ row.get "status" = RunStatus.running.value := by
  have hsame : s.rows executionsTable = e.store.rows executionsTable := by
    have hrows := sameRows_lookup id e.store executionsTable
    rw [hl] at hrows
    exact hrows
  rw [marking_finds hm, hsame]
  constructor
  · rintro ⟨other, hother, hid, hrunning⟩
    rw [← eq_found hr hl hother hid]
    exact hrunning
  · intro hrunning
    obtain ⟨hrow, hid⟩ := found_of_lookup hl
    exact ⟨row, hrow, hid, hrunning⟩

lemma true_iff (hr : Regular (e.store.rows executionsTable)) (h : CancelEnds id e r s') :
    r = .ok true ↔ Granted (lookup id e.store) ∧
      Granted (marking id e.clock (lookup id e.store).2) ∧
      ∃ row ∈ e.store.rows executionsTable,
        HasId id row ∧ row.get "status" = RunStatus.running.value := by
  cases h with
  | unread hl => exact ⟨fun h => (by cases h), fun h => absurd h.1 (not_granted hl)⟩
  | unfound hl =>
    refine ⟨fun h => (by cases h), fun ⟨_, _, row, hrow, hid, _⟩ => ?_⟩
    exact absurd hid (unfound_of_lookup hl row hrow)
  | stateless hl hf => exact absurd hf (hr.isFinished_ne_error (found_of_lookup hl).1 _)
  | finished hl hf =>
    refine ⟨fun h => (by cases h), fun ⟨_, _, row, hrow, hid, hrunning⟩ => ?_⟩
    rw [← eq_found hr hl hrow hid, isFinished_running hrunning] at hf
    cases hf
  | unmarked hl hf hm =>
    rw [hl]
    exact ⟨fun h => (by cases h), fun h => absurd h.2.1 (not_granted hm)⟩
  | @marked row rows s n k hl hf hm =>
    have hfinds := marked_iff hr hl hm
    obtain ⟨hrow, hid⟩ := found_of_lookup hl
    rw [hl, Except.ok.injEq, bne_iff_ne, hfinds]
    constructor
    · exact fun hrunning => ⟨⟨_, rfl⟩, ⟨n, congrArg Prod.fst hm⟩, row, hrow, hid, hrunning⟩
    · rintro ⟨-, -, other, hother, hid', hrunning⟩
      rw [← eq_found hr hl hother hid']
      exact hrunning

lemma false_iff (hr : Regular (e.store.rows executionsTable)) (h : CancelEnds id e r s') :
    r = .ok false ↔ Granted (lookup id e.store) ∧
      ∃ row ∈ e.store.rows executionsTable,
        HasId id row ∧ row.get "status" ≠ RunStatus.running.value ∧
          (isFinished row = .ok true ∨ Granted (marking id e.clock (lookup id e.store).2)) := by
  cases h with
  | unread hl => exact ⟨fun h => (by cases h), fun h => absurd h.1 (not_granted hl)⟩
  | unfound hl =>
    refine ⟨fun h => (by cases h), fun ⟨_, row, hrow, hid, _⟩ => ?_⟩
    exact absurd hid (unfound_of_lookup hl row hrow)
  | stateless hl hf => exact absurd hf (hr.isFinished_ne_error (found_of_lookup hl).1 _)
  | @finished row rows s hl hf =>
    obtain ⟨hrow, hid⟩ := found_of_lookup hl
    refine ⟨fun _ => ⟨⟨_, congrArg Prod.fst hl⟩, row, hrow, hid, fun hrunning => ?_, Or.inl hf⟩,
      fun _ => rfl⟩
    rw [isFinished_running hrunning] at hf
    cases hf
  | unmarked hl hf hm =>
    rw [hl]
    refine ⟨fun h => (by cases h), fun ⟨_, other, hother, hid, _, hdone⟩ => ?_⟩
    rcases hdone with hdone | hdone
    · rw [eq_found hr hl hother hid, hf] at hdone
      cases hdone
    · exact absurd hdone (not_granted hm)
  | @marked row rows s n k hl hf hm =>
    have hfinds := marked_iff hr hl hm
    obtain ⟨hrow, hid⟩ := found_of_lookup hl
    rw [hl, Except.ok.injEq, bne_eq_false_iff_eq]
    constructor
    · rintro rfl
      exact ⟨⟨_, rfl⟩, row, hrow, hid, fun hrunning => hfinds.mpr hrunning rfl,
        Or.inr ⟨0, congrArg Prod.fst hm⟩⟩
    · rintro ⟨-, other, hother, hid', hno, -⟩
      rw [eq_found hr hl hother hid', ne_eq, ← hfinds, not_not] at hno
      exact hno

lemma error_cases (hr : Regular (e.store.rows executionsTable)) (h : CancelEnds id e r s')
    {g : Failure} (hg : r = .error g) : g = .executionNotFound id ∨
      (∃ f, (lookup id e.store).1 = .error f ∧ g = f.failure) ∨
        ∃ f, (marking id e.clock (lookup id e.store).2).1 = .error f ∧ g = f.failure := by
  cases h with
  | unread hl => exact Or.inr (Or.inl ⟨_, congrArg Prod.fst hl, (Except.error.inj hg).symm⟩)
  | unfound hl => exact Or.inl (Except.error.inj hg).symm
  | stateless hl hf => exact absurd hf (hr.isFinished_ne_error (found_of_lookup hl).1 _)
  | unmarked hl hf hm =>
    rw [hl]
    exact Or.inr (Or.inr ⟨_, congrArg Prod.fst hm, (Except.error.inj hg).symm⟩)
  | finished | marked => cases hg

lemma sameRows (h : CancelEnds id e r s') (hno : r ≠ .ok true) : e.store.SameRows s' := by
  have hlooked := sameRows_lookup id e.store
  cases h with
  | unread hl | unfound hl | stateless hl | finished hl =>
    rw [hl] at hlooked
    exact hlooked
  | unmarked hl hf hm =>
    rw [hl] at hlooked
    exact fun table => (sameRows_of_refused hm table).trans (hlooked table)
  | @marked row rows s n k hl hf hm =>
    rw [hl] at hlooked
    have hzero : n = 0 := by
      by_contra hn
      exact hno (congrArg Except.ok (bne_iff_ne.mpr hn))
    rw [hzero] at hm
    exact fun table => (sameRows_of_unfound hm table).trans (hlooked table)

lemma cancels (hr : Regular (e.store.rows executionsTable)) (hk : e.store.Kept)
    (h : CancelEnds id e r s') (hyes : r = .ok true) : Cancels id e.clock e.store s' := by
  have hlooked := sameRows_lookup id e.store
  cases h with
  | unread | unfound | stateless | finished | unmarked => cases hyes
  | @marked row rows s n k hl hf hm =>
    have hmoves : Store.Moves (fun _ => False) e.store (lookup id e.store).2 := .select _ _ _
    have hkept := Store.kept_of_moves hmoves hk
    rw [hl] at hlooked hkept
    have hn : n ≠ 0 := bne_iff_ne.mp (Except.ok.inj hyes)
    refine (cancels_of_marking ?_ hkept hm hn).of_sameRows hlooked
    rw [hlooked executionsTable]
    exact hr

lemma again (hc : Cancels id t s s') {x : Engine}
    (hrows : x.store.rows executionsTable = s'.rows executionsTable)
    (hthere : ∃ row ∈ s.rows executionsTable, HasId id row) (h : CancelEnds id x r k) :
    r ≠ .ok true ∧ (Granted (lookup id x.store) → r = .ok false) := by
  have hfinished {row : Row} {rows : List Row} {s : Store}
      (hl : lookup id x.store = (.ok (row :: rows), s)) : isFinished row = .ok true := by
    obtain ⟨hrow, hid⟩ := found_of_lookup hl
    exact hc.isFinished (hrows ▸ hrow) hid
  cases h with
  | unread hl => exact ⟨fun h => (by cases h), fun h => absurd h (not_granted hl)⟩
  | unfound hl =>
    obtain ⟨row, hrow, hid⟩ := hthere
    obtain ⟨row', hrow', hid'⟩ := hc.exists_hasId hrow hid
    exact absurd hid' (unfound_of_lookup hl row' (hrows ▸ hrow'))
  | finished hl hf => exact ⟨fun h => (by cases h), fun _ => rfl⟩
  | stateless hl hf | unmarked hl hf | marked hl hf =>
    rw [hfinished hl] at hf
    cases hf

end CancelEnds

/-- **Cancelling an execution**: with both requests granted it yields whether the execution is
running, and fails exactly if there is none. If it is running, its state and the time of its end
are set; otherwise, and whenever the store refuses a request, no table changes. What was cancelled
is not cancelled again. -/
theorem cancel_outcome {e' : Engine} (hr : Regular (e.store.rows executionsTable))
    (hk : e.store.Kept) (h : (cancel id).perform e = (r, e')) :
    (r = .error (.executionNotFound id) ↔
      Granted (lookup id e.store) ∧ ∀ row ∈ e.store.rows executionsTable, ¬HasId id row) ∧
    (r = .ok true ↔
      Granted (lookup id e.store) ∧ Granted (marking id e.clock (lookup id e.store).2) ∧
        ∃ row ∈ e.store.rows executionsTable,
          HasId id row ∧ row.get "status" = RunStatus.running.value) ∧
    (r = .ok false ↔
      Granted (lookup id e.store) ∧ ∃ row ∈ e.store.rows executionsTable,
        HasId id row ∧ row.get "status" ≠ RunStatus.running.value ∧
          (isFinished row = .ok true ∨
            Granted (marking id e.clock (lookup id e.store).2))) ∧
    (∀ g, r = .error g → g = .executionNotFound id ∨
      (∃ f, (lookup id e.store).1 = .error f ∧ g = f.failure) ∨
        ∃ f, (marking id e.clock (lookup id e.store).2).1 = .error f ∧ g = f.failure) ∧
    (r = .ok true → Cancels id e.clock e.store e'.store) ∧
    (r ≠ .ok true → e.store.SameRows e'.store) ∧
    (r = .ok true → ∀ x : Engine,
      x.store.rows executionsTable = e'.store.rows executionsTable →
      x.store.SameRows ((cancel id).perform x).2.store ∧
        (Granted (lookup id x.store) → ((cancel id).perform x).1 = .ok false)) := by
  have hends := cancel_ends id e
  rw [h] at hends
  refine ⟨hends.notFound_iff, hends.true_iff hr, hends.false_iff hr,
    fun g hg => hends.error_cases hr hg, hends.cancels hr hk, hends.sameRows, fun hyes x hx => ?_⟩
  obtain ⟨-, -, row, hrow, hid, -⟩ := (hends.true_iff hr).mp hyes
  obtain ⟨hno, hfalse⟩ :=
    CancelEnds.again (hends.cancels hr hk hyes) hx ⟨row, hrow, hid⟩ (cancel_ends id x)
  exact ⟨(cancel_ends id x).sameRows hno, hfalse⟩

/-- Three executions: one is running, one is paused, and one has no state. -/
def threeExecutions : List Row := [
  [("id", .text "a"), ("status", .text "running"), ("retry_count", .int 0)],
  [("id", .text "b"), ("status", .text "paused")],
  [("id", .text "c")]]

/-- An engine with these executions, whose store is to fail. -/
def tracking (planned : List Store.PlannedFault) : Engine :=
  { store := { backend := .memory [(executionsTable, threeExecutions)], planned := planned } }

lemma regular_tracking (planned : List Store.PlannedFault) :
    Regular ((tracking planned).store.rows executionsTable) where
  distinct := distinct_of_texts ["a", "b", "c"] rfl (by decide)
  states := by
    intro row hrow
    have hmem : row ∈ threeExecutions := hrow
    simp only [threeExecutions, List.mem_cons, List.not_mem_nil, or_false] at hmem
    rcases hmem with rfl | rfl | rfl
    · exact Or.inr ⟨_, rfl⟩
    · exact Or.inr ⟨_, rfl⟩
    · exact Or.inl rfl

/-- The running execution is cancelled, once. The paused one is not, nor is one that is not there,
nor the running one if the store refuses to write. -/
theorem cancel_outcome_tracking :
    (∃ e', (cancel (.text "a")).perform (tracking []) = (.ok true, e') ∧
      Cancels (.text "a") (tracking []).clock (tracking []).store e'.store ∧
        ((cancel (.text "a")).perform e').1 = .ok false) ∧
    (∃ e', (cancel (.text "b")).perform (tracking []) = (.ok false, e') ∧
      (tracking []).store.SameRows e'.store) ∧
    (∃ e', (cancel (.text "z")).perform (tracking []) =
      (.error (.executionNotFound (.text "z")), e') ∧ (tracking []).store.SameRows e'.store) ∧
    ∃ g e', (cancel (.text "a")).perform (tracking [{ operation := some .update }]) =
      (.error g, e') ∧ (tracking [{ operation := some .update }]).store.SameRows e'.store := by
  have hkept (planned : List Store.PlannedFault) : (tracking planned).store.Kept :=
    fun _ _ _ => rfl
  refine ⟨?_, ?_, ?_, ?_⟩
  · rcases hp : (cancel (.text "a")).perform (tracking []) with ⟨r, e'⟩
    obtain ⟨-, htrue, -, -, hcancels, -, hagain⟩ :=
      cancel_outcome (regular_tracking []) (hkept []) hp
    have hyes : r = .ok true :=
      htrue.mpr ⟨⟨_, rfl⟩, ⟨_, rfl⟩, _, List.mem_cons_self, rfl, rfl⟩
    obtain ⟨-, hfalse⟩ := hagain hyes e' rfl
    have hlookup : Granted (lookup (.text "a") e'.store) := by
      cases hp
      exact ⟨_, rfl⟩
    exact ⟨e', congrArg (·, e') hyes, hcancels hyes, hfalse hlookup⟩
  · rcases hp : (cancel (.text "b")).perform (tracking []) with ⟨r, e'⟩
    obtain ⟨-, -, hfalse, -, -, hsame, -⟩ := cancel_outcome (regular_tracking []) (hkept []) hp
    have hpaused : ([("id", .text "b"), ("status", .text "paused")] : Row) ∈ threeExecutions := by
      simp [threeExecutions]
    have hno : r = .ok false :=
      hfalse.mpr ⟨⟨_, rfl⟩, _, hpaused, rfl, by decide +kernel, Or.inr ⟨_, rfl⟩⟩
    exact ⟨e', congrArg (·, e') hno, hsame (by simp [hno])⟩
  · rcases hp : (cancel (.text "z")).perform (tracking []) with ⟨r, e'⟩
    obtain ⟨hmissing, -, -, -, -, hsame, -⟩ := cancel_outcome (regular_tracking []) (hkept []) hp
    have hnone : ∀ row ∈ threeExecutions, ¬HasId (.text "z") row := by
      unfold HasId
      decide +kernel
    have hno : r = .error (.executionNotFound (.text "z")) := hmissing.mpr ⟨⟨_, rfl⟩, hnone⟩
    exact ⟨e', congrArg (·, e') hno, hsame (by simp [hno])⟩
  · rcases hp : (cancel (.text "a")).perform (tracking [{ operation := some .update }]) with ⟨r, e'⟩
    obtain ⟨-, -, -, -, -, hsame, -⟩ := cancel_outcome (regular_tracking _) (hkept _) hp
    have hno : ∃ g, r = .error g := by
      cases hp
      exact ⟨_, rfl⟩
    obtain ⟨g, rfl⟩ := hno
    exact ⟨g, e', rfl, hsame (by simp)⟩

end Execution

end CrmAutomation

import CrmAutomation.Proofs.Execution.Cancelling
import CrmAutomation.Proofs.Execution.Lineage
import CrmAutomation.Proofs.Run.Boundary

/-!
Sessions in which runs are started, retried and cancelled.

A retry runs what the record of an earlier run says: the workflow, the event and the payload. So
the run that it makes follows the earlier ones, as runs that start afresh do, and the table of
executions is a ledger of the runs of the session.
-/

namespace CrmAutomation

open EngineM Record Run

namespace Execution

variable {defs : List Row} {d : Definition} {brings : Value → Value} {xs : List Start} {x : Start}
  {e k : Engine} {id workflow event payload next : Value} {row : Row} {rows : List Row}
  {table : String} {fs : List Filter}

/-! ### Looking rows up -/

lemma mem_of_select
    (h : (select table { filters := fs, limit := some 1 }).perform e = (.ok rows, k))
    (hrow : row ∈ rows) : row ∈ e.store.rows table ∧ matchesAll fs row = true := by
  obtain ⟨s, hs, -⟩ := perform_stored_ok.mp h
  exact Store.mem_of_select hs hrow

lemma row_of_get (h : (get id).perform e = (.ok row, k)) :
    row ∈ e.store.rows executionsTable ∧ (row.get "id").agrees id = true := by
  obtain ⟨rows, k', hrows, h⟩ := perform_bind_ok.mp h
  split at h
  · cases h
    obtain ⟨hmem, hid⟩ := mem_of_select hrows List.mem_cons_self
    refine ⟨hmem, ?_⟩
    simpa [matchesAll, Filter.passes, Relation.holds] using hid
  · cases h

lemma defined_of_definition (h : (definition workflow).perform e = (.ok d, k)) :
    Defined (e.store.rows definitionsTable) d ∧ workflow = .text d.id := by
  obtain ⟨rows, k', hrows, h⟩ := perform_bind_ok.mp h
  split at h
  · cases h
  · rename_i row rest
    obtain ⟨read, k'', hread, hd⟩ := perform_bind_ok.mp h
    obtain ⟨hvalid, -⟩ := perform_ofExcept_ok.mp hread
    split at hd
    · cases hd
      obtain ⟨hmem, hid⟩ := mem_of_select hrows List.mem_cons_self
      refine ⟨⟨row, hmem, hvalid⟩, ?_⟩
      have hagrees : (row.get "id").agrees workflow = true := by
        simpa [matchesAll, Filter.passes, Relation.holds] using hid
      rw [(Definition.ofRow_eq_ok.mp hvalid).id] at hagrees
      exact Value.text_agrees.mp hagrees
    · cases hd

/-! ### What a retry runs -/

lemma retried_ok (h : (retried id).perform e = (.ok (d, event, payload, next), k)) :
    ∃ row ∈ e.store.rows executionsTable, (row.get "id").agrees id = true ∧
      row.find? "workflow_id" = some (.text d.id) ∧ Defined (e.store.rows definitionsTable) d ∧
      raised ((row.get "retry_count").orElse (.int 0)) = some next ∧
      reaches ((row.get "retry_count").orElse (.int 0)) d.maxRetries = false ∧
      event = (row.get "trigger_event").orElse (.text "manual") ∧
      payload = row.get "trigger_data" := by
  obtain ⟨row, k₁, hget, hrest⟩ := perform_bind_ok.mp h
  obtain ⟨hmem, hid⟩ := row_of_get hget
  have hread : e.store.Reads ((get id).perform e).2.store :=
    passes_of_does (fun K hK _ => does_get hK (Or.inl rfl) id) e
  rw [hget] at hread
  refine ⟨row, hmem, hid, ?_⟩
  rcases hw : row.find? "workflow_id" with _ | workflow
  · rw [hw] at hrest
    cases hrest
  rw [hw] at hrest
  obtain ⟨d', k₂, hd, hlast⟩ := perform_bind_ok.mp hrest
  obtain ⟨hdefined, rfl⟩ := defined_of_definition hd
  rw [Store.rows_of_reads hread] at hdefined
  rcases hn : raised ((row.get "retry_count").orElse (.int 0)) with _ | next'
  · rw [hn] at hlast
    cases hlast
  rw [hn] at hlast
  dsimp only at hlast
  split at hlast
  · cases hlast
  · rename_i hlimit
    cases hlast
    exact ⟨rfl, hdefined, rfl, Bool.eq_false_iff.mpr hlimit, rfl, rfl⟩

lemma lt_of_not_reaches {c m : ℕ} (h : reaches (.int c) m = false) : c < m := by
  by_contra hle
  have hreach : reaches (.int c) m = true := by
    have horder : (Value.int c).order (.int m) = .ofOrdering? (some (compare (c : ℤ) m)) := rfl
    unfold reaches
    rw [horder]
    rcases lt_or_eq_of_le (Nat.le_of_not_lt hle) with hlt | heq
    · have hgreater : compare (c : ℤ) m = .gt := by
        rw [compare_gt_iff_gt]
        omega
      rw [hgreater]
      rfl
    · rw [heq, compare_eq_iff_eq.mpr rfl]
      rfl
  rw [hreach] at h
  cases h

lemma orElse_count (c : ℕ) : (Value.int c).orElse (.int 0) = .int c := by
  unfold Value.orElse
  split
  · rfl
  · rename_i hzero
    have hnone : (c : ℤ) = 0 := by simpa [Value.isTruthy] using hzero
    rw [hnone]

/-! ### What follows in a lineage -/

lemma follows_of_mem (h : Lineage defs brings xs) (hx : x ∈ xs) :
    ∃ ys, Follows defs brings ys x := by
  obtain ⟨ys, zs, rfl⟩ := List.append_of_mem hx
  exact ⟨ys, follows_of_lineage h⟩

lemma follows_afresh (hd : Defined defs x.definition)
    (hname : ∃ name, name ≠ "" ∧ x.event = .text name) (hc : x.retryCount = .int 0) :
    Follows defs brings xs x :=
  ⟨hd, hname, ⟨0, Nat.zero_le _, hc⟩, Or.inl hc⟩

/-- **What a retry runs retries an earlier run**: the one in whose record it is found. -/
lemma follows_of_retried (h : Ledger defs brings xs e.store) (hu : Distinct defs)
    (hr : (retried id).perform e = (.ok (d, event, payload, next), k)) :
    Follows defs brings xs ⟨d, event, payload, next, k⟩ ∧
      ∃ y ∈ xs, ∃ row ∈ e.store.rows executionsTable, (row.get "id").agrees id = true ∧
        y.Recorded row ∧ Retries brings y ⟨d, event, payload, next, k⟩ := by
  obtain ⟨row, hrow, hid, hworkflow, hdefined, hnext, hlimit, hevent, hpayload⟩ := retried_ok hr
  obtain ⟨y, hy, hrecord⟩ := recorded_of_mem h hrow
  obtain ⟨ys, hfollows⟩ := follows_of_mem h.lineage hy
  obtain ⟨hbrings, -⟩ := h.engines y hy
  obtain ⟨c, -, hc⟩ := hfollows.count
  obtain ⟨name, hname, hnamed⟩ := hfollows.event
  rw [h.definitions] at hdefined
  have hsame : d = y.definition := by
    refine definition_unique hu hdefined hfollows.defined ?_
    rw [hrecord.workflow] at hworkflow
    exact (Value.text.inj (Option.some.inj hworkflow)).symm
  have hcount : row.get "retry_count" = .int c := by
    rw [Fields.get, hrecord.retryCount, hc]
    exact Store.brings_of_isJson rfl
  rw [hcount, orElse_count] at hnext hlimit
  have hless : c < d.maxRetries := lt_of_not_reaches hlimit
  have hraised : next = .int ((c : ℤ) + 1) := (Option.some.inj hnext).symm
  have hretries : Retries brings y ⟨d, event, payload, next, k⟩ := by
    refine ⟨hsame, ?_, ?_, ⟨c, hc, hraised⟩⟩
    · have hfound : row.get "trigger_event" = .text name := by
        rw [Fields.get, hrecord.event, hnamed]
        exact Store.brings_of_isJson (Value.isJson_text name)
      rw [hevent, hfound, Value.orElse_text hname, hnamed]
    · obtain ⟨given, hgiven, hdata⟩ := hrecord.payload
      refine ⟨given, hgiven, ?_⟩
      rw [hpayload, Fields.get, hdata, hbrings]
      rfl
  have hnamed' : event = .text name := hretries.event.trans hnamed
  refine ⟨⟨hdefined, ⟨name, hname, hnamed'⟩, ⟨c + 1, hless, ?_⟩, Or.inr ⟨y, hy, hretries⟩⟩,
    y, hy, row, hrow, hid, hrecord, hretries⟩
  exact hraised

/-! ### Runs that are made -/

/-- No node of the run writes executions or definitions. -/
def Abstains (x : Start) : Prop :=
  ∀ t, x.Ran t → t.Avoids executionsTable ∧ t.Avoids definitionsTable

/-- A run that follows the others keeps the ledger. If the store takes its record, that is added to
the executions; otherwise every table is as it was. -/
lemma made_of_start (h : Ledger defs brings xs x.engine.store) (hx : Follows defs brings xs x)
    (ha : Abstains x) :
    (x.Inserts → Ledger defs brings (xs ++ [x]) x.outcome.2.store ∧
      ∃ row, x.Recorded row ∧ x.outcome.2.store.rows executionsTable =
        x.engine.store.rows executionsTable ++ [row]) ∧
      (¬x.Inserts → Ledger defs brings xs x.outcome.2.store ∧
        x.engine.store.SameRows x.outcome.2.store) := by
  rw [Start.inserts_iff]
  constructor
  · rintro ⟨t, ht⟩
    obtain ⟨hexec, hdefs⟩ := ha t ht
    exact ledger_of_ran h hx ht hexec hdefs
  · exact fun hnone => ledger_of_unlaunched h fun t ht => hnone ⟨t, ht⟩

/-- The engine keeps a ledger: its store holds the definitions and the records of runs. -/
def Keeps (defs : List Row) (brings : Value → Value) (e : Engine) : Prop :=
  ∃ xs, Ledger defs brings xs e.store

lemma keeps_of_start (h : Ledger defs brings xs x.engine.store) (hx : Follows defs brings xs x)
    (ha : Abstains x) : Keeps defs brings x.outcome.2 := by
  obtain ⟨hmade, hunmade⟩ := made_of_start h hx ha
  by_cases hi : x.Inserts
  · exact ⟨_, (hmade hi).1⟩
  · exact ⟨_, (hunmade hi).1⟩

lemma keeps_of_startsOf {ds : List Definition} (h : Keeps defs brings e)
    (hname : ∀ d ∈ ds, ∃ name, name ≠ "" ∧ event = .text name)
    (hd : ∀ d ∈ ds, Defined defs d) (ha : ∀ x ∈ Trigger.startsOf event payload ds e, Abstains x) :
    Keeps defs brings (Trigger.afterAll event payload ds e) := by
  induction ds generalizing e with
  | nil => exact h
  | cons d ds ih =>
    obtain ⟨hfirst, hrest⟩ := List.forall_mem_cons.mp ha
    obtain ⟨hdefined, hds⟩ := List.forall_mem_cons.mp hd
    obtain ⟨hnamed, hnames⟩ := List.forall_mem_cons.mp hname
    obtain ⟨xs, hxs⟩ := h
    exact ih (keeps_of_start hxs (follows_afresh hdefined hnamed rfl) hfirst) hnames hds hrest

/-! ### Calls -/

lemma keeps_bind {α β : Type} {y : EngineM α} {g : α → EngineM β}
    (h : Ledger defs brings xs e.store) (hy : e.store.Reads (y.perform e).2.store)
    (hg : ∀ a k, y.perform e = (.ok a, k) → Ledger defs brings xs k.store →
      Keeps defs brings ((g a).perform k).2) :
    Keeps defs brings ((y >>= g).perform e).2 := by
  have hread : Ledger defs brings xs (y.perform e).2.store := ledger_of_reads h hy
  rw [perform_bind]
  rcases hp : y.perform e with ⟨f | a, k⟩
  · rw [hp] at hread
    exact ⟨xs, hread⟩
  · rw [hp] at hread
    exact hg a k hp hread

lemma keeps_fire {entityId : Value} {entityType : String} (h : Ledger defs brings xs e.store)
    (ha : ∀ x ∈ Trigger.starts event entityType entityId payload e, Abstains x) :
    Keeps defs brings ((Trigger.fire event entityType entityId payload).perform e).2 := by
  have hread : e.store.Reads _ := passes_of_does
    (fun K hK _ => Trigger.does_seek hK (Or.inl rfl) event entityType entityId payload) e
  rw [Trigger.perform_fire]
  refine keeps_bind h hread fun found k hk hkept => ?_
  rw [Trigger.starts_eq hk] at ha
  -- every definition that is found is in a row of the table, and the event names it
  have hfound := Trigger.starts_of_seek hk
  rw [h.definitions] at hfound
  have hdefined : ∀ d ∈ found.2, Defined defs d := by
    intro d hd
    obtain ⟨row, hrow, hstart⟩ := hfound d hd
    exact ⟨row, hrow, hstart.valid⟩
  have hnames : ∀ d ∈ found.2, ∃ name, name ≠ "" ∧ event = .text name := by
    intro d hd
    obtain ⟨row, -, hstart⟩ := hfound d hd
    exact Trigger.event_of_starts hstart
  unfold Keeps
  rw [Trigger.store_runAll]
  exact keeps_of_startsOf ⟨xs, hkept⟩ hnames hdefined ha

lemma keeps_startManual (h : Ledger defs brings xs e.store)
    (ha : ∀ x ∈ (Call.startManual workflow payload).starts e, Abstains x) :
    Keeps defs brings ((startManual workflow payload).perform e).2 := by
  have hread : e.store.Reads _ :=
    passes_of_does (fun K hK _ => does_definition hK (Or.inl rfl) workflow) e
  refine keeps_bind h hread fun d k hk hkept => ?_
  obtain ⟨hdefined, -⟩ := defined_of_definition hk
  rw [h.definitions] at hdefined
  let x : Start := ⟨d, .text "manual", payload, .int 0, k⟩
  have hx : x ∈ (Call.startManual workflow payload).starts e := by
    simp [Call.starts, hk, x]
  have hfollows : Follows defs brings xs x :=
    follows_afresh hdefined ⟨"manual", by decide, rfl⟩ rfl
  exact keeps_of_start (x := x) hkept hfollows (ha x hx)

lemma keeps_retry (hu : Distinct defs) (h : Ledger defs brings xs e.store)
    (ha : ∀ x ∈ (Call.retry id).starts e, Abstains x) :
    Keeps defs brings ((retry id).perform e).2 := by
  rw [retry_eq]
  refine keeps_bind h (keeps_retried (frame_passes _) id e) fun found k hk hkept => ?_
  obtain ⟨d, event, payload, next⟩ := found
  let x : Start := ⟨d, event, payload, next, k⟩
  have hx : x ∈ (Call.retry id).starts e := by
    simp [Call.starts, hk, x]
  have hfollows : Follows defs brings xs x := (follows_of_retried h hu hk).1
  exact keeps_of_start (x := x) hkept hfollows (ha x hx)

lemma find?_cancelPatch_of_notMem {key : Key} (hk : key ∉ written) (t : Calendar.Instant) :
    (cancelPatch t).find? key = none := by
  simp only [written, List.mem_cons, List.not_mem_nil, or_false, not_or] at hk
  obtain ⟨-, -, hstatus, hcompleted, -, -⟩ := hk
  exact find?_cancelPatch hstatus hcompleted t

lemma keeps_cancel (h : Ledger defs brings xs e.store) (id : Value) :
    Keeps defs brings ((cancel id).perform e).2 := by
  obtain ⟨s, hread, hs | ⟨t, hs⟩⟩ := cancel_cases id e
  · exact ⟨xs, hs ▸ ledger_of_reads h hread⟩
  · refine ⟨xs, ?_⟩
    rw [hs]
    exact ledger_of_update (ledger_of_reads h hread) (plain_cancelPatch t)
      (fun key hkey => find?_cancelPatch_of_notMem hkey t) _

lemma keeps_of_does {α : Type} {Q : α → Prop} {y : EngineM α} (h : Ledger defs brings xs e.store)
    (hy : ∀ K, Lockstep (fun op table => op = .select ∨ Aside table) K → PostsMatch K →
      Does K Q y) :
    Keeps defs brings (y.perform e).2 := by
  obtain ⟨ss, hss⟩ := passes_of_does hy e
  exact ⟨xs, ledger_of_passes h hss⟩

end Execution

namespace Call

open Execution

/-- The call hands no definition to the engine: what it runs is found in the store. -/
def FromStore : Call → Prop
  | run _ _ _ _ => False
  | fire _ _ _ _ | startManual _ _ | retry _ | cancel _ | list _ _ | statistics _
  | handle _ _ _ _ | pause _ => True

instance : DecidablePred FromStore
  | run _ _ _ _ => .isFalse id
  | fire _ _ _ _ | startManual _ _ | retry _ | cancel _ | list _ _ | statistics _
  | handle _ _ _ _ | pause _ => .isTrue trivial

variable {defs : List Row} {brings : Value → Value} {c : Call} {e : Engine}

/-- **A call keeps a ledger** if what it runs is found in the store, and its nodes do not write to
the tables of the ledger. -/
theorem keeps_after (hc : c.FromStore) (hu : Distinct defs) (h : Keeps defs brings e)
    (ha : ∀ x ∈ c.starts e, Abstains x) : Keeps defs brings (c.after e) := by
  obtain ⟨xs, h⟩ := h
  cases c with
  | run d event payload retryCount => exact hc.elim
  | fire event entityType entityId payload => exact keeps_fire h ha
  | startManual workflow payload => exact keeps_startManual h ha
  | retry execution => exact keeps_retry hu h ha
  | cancel execution => exact keeps_cancel h execution
  | list workflow limit =>
    exact keeps_of_does h fun K hK _ => does_list hK (Or.inl rfl) workflow limit
  | statistics workflow =>
    exact keeps_of_does h fun K hK _ => does_statistics hK (Or.inl rfl) workflow
  | handle event entityType entityId data =>
    have hasks : ∀ a ∈ Rule.asks, a.1 = .select ∨ Aside a.2 := by decide
    exact keeps_of_does h fun K hK hm => Rule.does_handle hK hm hasks event entityType entityId data
  | pause ms => exact ⟨xs, h⟩

end Call

/-! ### Sessions -/

namespace Session

open Execution

variable {defs : List Row} {brings : Value → Value} {xs : List Start} {calls : List Call}
  {e k : Engine} {id : Value} {f : Failure}

lemma keeps_after (hc : ∀ c ∈ calls, c.FromStore) (hu : Distinct defs) (h : Keeps defs brings e)
    (ha : ∀ x ∈ starts calls e, Abstains x) : Keeps defs brings (after calls e) := by
  induction calls generalizing e with
  | nil => exact h
  | cons c cs ih =>
    obtain ⟨hcall, hcalls⟩ := List.forall_mem_cons.mp hc
    obtain ⟨hruns, hrest⟩ := List.forall_mem_append.mp ha
    exact ih hcalls (Call.keeps_after hcall hu h hruns) hrest

/-- A retry is refused: there is no such execution or no valid definition of its workflow, or the
definition does not allow one more. -/
def Refuses : Failure → Prop
  | .executionNotFound _ | .definition _ | .retryLimit _ _ => True
  | .storage _ | .delivery _ | .notification _ | .crash _ => False

/-- What a call to retry an execution leaves, whatever comes of it. If it is refused, or makes no
record, every table is as it was. Otherwise one row is added to the executions: the record of a run
that tells of the same attempt as the execution, with one retry more. -/
structure RetryLeaves (id : Value) (e : Engine) : Prop where
  refused : ∀ f, ((retry id).perform e).1 = .error f → Refuses f →
    e.store.SameRows ((retry id).perform e).2.store
  unmade : (∀ x ∈ (Call.retry id).starts e, ¬x.Inserts) →
    e.store.SameRows ((retry id).perform e).2.store
  made : ∀ x ∈ (Call.retry id).starts e, x.Inserts →
    ∃ earlier ∈ e.store.rows executionsTable, ∃ row, ∃ c : ℕ,
      (earlier.get "id").agrees id = true ∧ Attempt c earlier row ∧
      row.find? "retry_count" = some (.int (c + 1)) ∧ x.Recorded row ∧
      ((retry id).perform e).2.store.rows executionsTable =
        e.store.rows executionsTable ++ [row]

lemma retryLeaves_of_unfound (hr : (retried id).perform e = (.error f, k)) : RetryLeaves id e := by
  have hread : e.store.Reads ((retried id).perform e).2.store :=
    keeps_retried (frame_passes _) id e
  have hstarts : (Call.retry id).starts e = [] := by
    simp [Call.starts, hr]
  have hleft : ((retry id).perform e).2 = k := by
    rw [retry_eq, perform_bind_of_error hr]
  have hsame : e.store.SameRows ((retry id).perform e).2.store := by
    rw [hr] at hread
    rw [hleft]
    exact Store.rows_of_reads hread
  refine ⟨fun _ _ _ => hsame, fun _ => hsame, ?_⟩
  rw [hstarts]
  simp

/-- The record of a retry tells of the same attempt as that of the run before, with one more. -/
lemma attempt_of_recorded {x y : Start} {earlier row : Row} (h : Ledger defs brings xs e.store)
    (hx : x.engine.store.brings = brings) (hy : y ∈ xs) (hxr : x.Recorded row)
    (hyr : y.Recorded earlier) (hr : Retries brings y x) :
    ∃ c : ℕ, Attempt c earlier row ∧ row.find? "retry_count" = some (.int (c + 1)) := by
  obtain ⟨c, hyc, hxc⟩ := hr.count
  obtain ⟨hyb, -⟩ := h.engines y hy
  have hsucc : x.retryCount = .int ((c + 1 : ℕ) : ℤ) := hxc
  refine ⟨c, attempt_of_retries h.restores hx hyb hxr hyr hr hsucc, ?_⟩
  rw [hxr.retryCount, hxc]
  exact congrArg some (Store.brings_of_isJson rfl)

lemma retryLeaves_of_found {x : Start} (hu : Distinct defs) (h : Ledger defs brings xs e.store)
    (hr : (retried id).perform e =
      (.ok (x.definition, x.event, x.payload, x.retryCount), x.engine))
    (ha : Abstains x) : RetryLeaves id e := by
  have hread : e.store.Reads ((retried id).perform e).2.store :=
    keeps_retried (frame_passes _) id e
  rw [hr] at hread
  have hsame : e.store.SameRows x.engine.store := Store.rows_of_reads hread
  have hkept : Ledger defs brings xs x.engine.store := ledger_of_reads h hread
  have hstarts : (Call.retry id).starts e = [x] := by
    simp [Call.starts, hr]
  have hleft : (retry id).perform e = x.outcome := by
    rw [retry_eq, perform_bind_of_ok hr]
    rfl
  obtain ⟨hfollows, y, hy, earlier, hearlier, hid, hrecord, hretries⟩ := follows_of_retried h hu hr
  obtain ⟨hmade, hunmade⟩ := made_of_start hkept hfollows ha
  refine ⟨fun f hf hrefused => ?_, fun hnone => ?_, ?_⟩
  · -- what escapes from a run is no refusal
    rw [hleft] at hf
    obtain ⟨c, rfl⟩ := crash_of_once (Prod.ext hf rfl)
    exact hrefused.elim
  · rw [hstarts, List.forall_mem_singleton] at hnone
    rw [hleft]
    exact fun table => ((hunmade hnone).2 table).trans (hsame table)
  · rw [hstarts, List.forall_mem_singleton, hleft]
    intro hi
    obtain ⟨-, row, hrow, hrows⟩ := hmade hi
    obtain ⟨c, hattempt, hcount⟩ :=
      attempt_of_recorded h hkept.restores hy hrow hrecord hretries
    rw [hsame executionsTable] at hrows
    exact ⟨earlier, hearlier, row, c, hid, hattempt, hcount, hrow, hrows⟩

lemma retryLeaves_of_keeps (hu : Distinct defs) (h : Keeps defs brings e)
    (ha : ∀ x ∈ (Call.retry id).starts e, Abstains x) : RetryLeaves id e := by
  obtain ⟨xs, h⟩ := h
  rcases hr : (retried id).perform e with ⟨f | ⟨d, event, payload, next⟩, k⟩
  · exact retryLeaves_of_unfound hr
  · have hx : (⟨d, event, payload, next, k⟩ : Start) ∈ (Call.retry id).starts e := by
      simp [Call.starts, hr]
    exact retryLeaves_of_found hu h hr (ha _ hx)

/-- **Where executions come from.** A session starts without executions, around definitions with
ids of their own; what it runs is found in the store, and no node writes executions or definitions.
Then the definitions stay, and each execution is accounted for by the definitions and the rows
before it: it counts no more retries than its definition allows, and if it counts some, an earlier
row tells of the same attempt with one less. Every retry leaves the execution that it retries as it
was, and adds its own record or nothing. -/
theorem rows_of_retries (hempty : e.store.rows executionsTable = [])
    (hu : Distinct (e.store.rows definitionsTable)) (hc : ∀ c ∈ calls, c.FromStore)
    (ha : ∀ x ∈ starts calls e, Abstains x) :
    (after calls e).store.rows definitionsTable = e.store.rows definitionsTable ∧
      (∀ before row later, (after calls e).store.rows executionsTable = before ++ row :: later →
        Accounted (e.store.rows definitionsTable) before row) ∧
      ∀ before id later, calls = before ++ .retry id :: later →
        RetryLeaves id (after before e) := by
  have hfirst : Keeps (e.store.rows definitionsTable) e.store.brings e :=
    ⟨[], ledger_of_empty hempty⟩
  obtain ⟨xs, hxs⟩ := keeps_after hc hu hfirst ha
  refine ⟨hxs.definitions, fun before row later => accounted_of_ledger hxs, ?_⟩
  rintro before id later rfl
  rw [starts_append] at ha
  obtain ⟨hbefore, hafter⟩ := List.forall_mem_append.mp ha
  have hcalls : ∀ c ∈ before, c.FromStore := fun c hmem => hc c (List.mem_append_left _ hmem)
  have hkept := keeps_after hcalls hu hfirst hbefore
  exact retryLeaves_of_keeps hu hkept (List.forall_mem_append.mp hafter).1

/-! ### Retries, computed -/

/-- The store holds a workflow without nodes, which fails, and may be retried once. -/
def limited : Engine :=
  Trigger.defining
    [(Trigger.activeRow "w" (Trigger.boundTo "won") .null).insert "max_retries" (.int 1)]

/-- The second retry is refused for the limit, and the third one for the id. -/
def retries : List Call := [
  .fire (.text "won") "deal" (.text "D1") .null, .startManual (.text "w") .null,
  .cancel (.text "id-2"), .retry (.text "id-1"), .retry (.text "id-3"), .retry (.text "nobody")]

def traceOf? (x : Start) : Option Trace :=
  trace? 9 x.definition x.event x.payload x.retryCount x.engine

theorem rows_of_retries_limited :
    ((after retries limited).store.rows executionsTable).map (·.get "retry_count") =
        [.int 0, .int 0, .int 1] ∧
      (∀ before row later, (after retries limited).store.rows executionsTable =
        before ++ row :: later → Accounted (limited.store.rows definitionsTable) before row) ∧
      RetryLeaves (.text "id-1") (after (retries.take 3) limited) ∧
      ((retry (.text "id-3")).perform (after (retries.take 4) limited)).1 =
        .error (.retryLimit (.text "id-3") 1) ∧
      (after (retries.take 4) limited).store.SameRows (after (retries.take 5) limited).store := by
  have hruns : ∀ x ∈ starts retries limited, Abstains x := by
    have htraces : ∀ x ∈ starts retries limited, ∃ t ∈ traceOf? x,
        t.Avoids executionsTable ∧ t.Avoids definitionsTable := by
      decide +kernel
    intro x hx t ht
    obtain ⟨t', ht', havoids⟩ := htraces x hx
    rw [ran_unique ht (ran_of_trace? ht')]
    exact havoids
  have hempty : limited.store.rows executionsTable = [] := by decide +kernel
  have hu : Distinct (limited.store.rows definitionsTable) := by decide +kernel
  have hc : ∀ c ∈ retries, c.FromStore := by decide +kernel
  obtain ⟨-, haccounted, hretry⟩ := rows_of_retries hempty hu hc hruns
  have hlimit : ((retry (.text "id-3")).perform (after (retries.take 4) limited)).1 =
      .error (.retryLimit (.text "id-3") 1) := by
    decide +kernel
  have hnext : after (retries.take 5) limited =
      ((retry (.text "id-3")).perform (after (retries.take 4) limited)).2 := by
    have hcalls : retries.take 5 = retries.take 4 ++ [.retry (.text "id-3")] := rfl
    rw [hcalls, after_append]
    rfl
  refine ⟨by decide +kernel, haccounted, ?_, hlimit, ?_⟩
  · exact hretry (retries.take 3) (.text "id-1") (retries.drop 4) rfl
  · rw [hnext]
    exact (hretry (retries.take 4) (.text "id-3") (retries.drop 5) rfl).refused _ hlimit trivial

end Session

end CrmAutomation

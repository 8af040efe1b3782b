import CrmAutomation.Proofs.Execution.Session
import CrmAutomation.Proofs.Run.Stages

/-!
Runs that are cancelled while they are in progress.

Callers may come in between any two stages of a run. One who cancels it finds its record in
progress, and the record says from then on that the run is cancelled; the run goes on all the same.
What it writes of its progress leaves the state alone. Its outcome is written over the state,
whatever that is, so a run that was cancelled is completed or failed in the end, unless it does not
come to its end or the store refuses that one write.
-/

namespace CrmAutomation

open EngineM Record Execution

namespace Run

/-! ### Turns -/

/-- Whose turn it is: the run's, or that of a caller who cancels it. -/
inductive Turn where
  | goesOn
  /-- The caller may be a run itself. -/
  | cancelled (caller : Option RunIdentity)

/-- A caller cancels a run. -/
def cancelFor (caller : Option RunIdentity) (id : String) (e : Engine) :
    Except Failure Bool × Engine :=
  let (r, after) := (cancel (.text id)).perform { e with run := caller }
  (r, { after with run := e.run })

def Turn.take (d : Definition) (id : String) : Turn → Stage × Engine → Stage × Engine
  | goesOn, x => Stage.next d x
  | cancelled caller, (p, e) => (p, (cancelFor caller id e).2)

/-- Where the run stands after turns. -/
def play (d : Definition) (id : String) (turns : List Turn) (x : Stage × Engine) :
    Stage × Engine :=
  turns.foldl (fun x turn => turn.take d id x) x

/-- The store takes the outcome for the record of the run. -/
def accepts (r : Run) (status : RunStatus) (error : Option Value) (e : Engine) : Bool :=
  (e.store.update executionsTable (r.outcomePatch status error e.clock)
    (ownRecord r.id)).1.toBool

/-- The outcome that the store takes if the run goes on; only the last stage writes one. -/
def Stage.accepted? : Stage × Engine → Option RunStatus
  | (.closing error r, e) =>
    if r.accepts (outcomeOf error r) error e then some (outcomeOf error r) else none
  | (.walking _ _ _, _) | (.noting _ _ _ _ _, _) | (.ended _, _) => none

/-- The outcome that the store takes in the course of turns. -/
def outcome? (d : Definition) (id : String) : List Turn → Stage × Engine → Option RunStatus
  | [], _ => none
  | .goesOn :: turns, x => (outcome? d id turns (Stage.next d x)).or (Stage.accepted? x)
  | .cancelled caller :: turns, x =>
    outcome? d id turns ((Turn.cancelled caller).take d id x)

/-! ### Records in a state -/

/-- There is a record with the id, and every row with the id is its record and in the state. -/
structure Declares (id : String) (status : RunStatus) (s : Store) : Prop where
  present : ∃ row ∈ s.rows executionsTable, row.get "id" = .text id
  rows : InState id status s

variable {d : Definition} {id : String} {status status' : RunStatus} {s k : Store}
  {patch : Fields} {fs : List Filter} {n : ℕ} {e e' : Engine} {p q : Stage} {t : Trace}
  {caller : Option RunIdentity} {x : Stage × Engine}

lemma value_injective (h : status.value = status'.value) : status = status' := by
  revert h
  cases status <;> cases status' <;> decide

lemma declares_of_rows (hrows : k.rows executionsTable = s.rows executionsTable)
    (h : Declares id status s) : Declares id status k := by
  refine ⟨?_, inState_of_rows hrows h.rows⟩
  rw [hrows]
  exact h.present

lemma present_of_update (h : Declares id status s)
    (hu : s.update executionsTable patch fs = (.ok n, k)) (hp : patch.Plain)
    (hid : patch.find? "id" = none) :
    ∃ row ∈ k.rows executionsTable, row.get "id" = .text id := by
  obtain ⟨row, hrow, hown⟩ := h.present
  obtain ⟨hr, -⟩ := h.rows row hrow hown
  have hmem : (if matchesAll fs row = true then s.overwrite row patch else row) ∈
      k.rows executionsTable := by
    rw [Store.rows_update hu executionsTable, if_pos rfl]
    exact List.mem_map_of_mem hrow
  refine ⟨_, hmem, ?_⟩
  split
  · have hr' := records_overwrite hr hp hid s
    rw [Fields.get, hr'.id]
    rfl
  · exact hown

lemma declares_recordProgress {r : Run} (h : Declares r.id status e.store) :
    Declares r.id status ((recordProgress r).perform e).2.store := by
  rw [recordProgress_eq, store_write]
  have hp := plain_progressPatch r
  have hstate := inState_of_write h.rows hp rfl rfl
  rcases hu : e.store.update executionsTable r.progressPatch (ownRecord r.id) with ⟨f | n, k⟩
  · exact declares_of_rows (Store.rows_update_error hu executionsTable) h
  · rw [hu] at hstate
    exact ⟨present_of_update h hu hp rfl, hstate⟩

lemma declares_finalize {r : Run} {error : Option Value} (h : Declares r.id status e.store) :
    Declares r.id (if r.accepts status' error e then status' else status)
      ((finalize r status' error).perform e).2.store := by
  rw [store_finalize]
  have hp := plain_outcomePatch r status' error e.clock
  have hid : (r.outcomePatch status' error e.clock).find? "id" = none :=
    find?_outcomePatch r status' error e.clock (by decide)
  rcases hu : e.store.update executionsTable (r.outcomePatch status' error e.clock)
    (ownRecord r.id) with ⟨f | n, k⟩
  · have hrefused : r.accepts status' error e = false := by
      unfold accepts
      rw [hu]
      rfl
    rw [hrefused]
    exact declares_of_rows (Store.rows_update_error hu executionsTable) h
  · have haccepted : r.accepts status' error e = true := by
      unfold accepts
      rw [hu]
      rfl
    rw [haccepted, if_pos rfl]
    refine ⟨present_of_update h hu hp hid, ?_⟩
    refine inState_of_update h.rows hu hp hid (fun row hm => matchesAll_id.mp hm) ?_
    intro row hrow hown
    obtain ⟨hr, -⟩ := h.rows row hrow hown
    rw [if_pos (matches_own hr)]
    exact Store.find?_overwrite_text hr.plain hp (find?_outcomePatch _ _ _ _ (by decide))

/-! ### What a caller does -/

lemma status_of_declares {row : Row} (h : Declares id status s)
    (hrow : row ∈ s.rows executionsTable) (hown : row.get "id" = .text id) :
    row.get "status" = status.value := by
  rw [Fields.get, (h.rows row hrow hown).2]
  rfl

lemma own_of_running {row : Row} (hm : matchesAll (runningFilters (.text id)) row = true) :
    row.get "id" = .text id :=
  Value.agrees_text.mp (matchesAll_running.mp hm).1

lemma cancelled_of_found (h : Declares id status s) {t : Calendar.Instant}
    (hu : marking (.text id) t s = (.ok n, k)) (hn : n ≠ 0) :
    status = .running ∧ Declares id .cancelled k := by
  have hp := plain_cancelPatch t
  obtain ⟨found, hmem, hown, hrunning⟩ := (marking_finds hu).mp hn
  have hstatus : status = .running :=
    value_injective
      ((status_of_declares h hmem (Value.agrees_text.mp hown)).symm.trans hrunning)
  refine ⟨hstatus, present_of_update h hu hp rfl, ?_⟩
  refine inState_of_update h.rows hu hp rfl (fun row hm => own_of_running hm) ?_
  intro row hrow hown
  obtain ⟨hr, -⟩ := h.rows row hrow hown
  have hstate : row.get "status" = RunStatus.running.value := by
    rw [status_of_declares h hrow hown, hstatus]
  have hmatches : matchesAll (runningFilters (.text id)) row = true :=
    matchesAll_running.mpr ⟨Value.agrees_text.mpr hown, hstate⟩
  rw [if_pos hmatches]
  exact Store.find?_overwrite_text hr.plain hp rfl

lemma declares_cancelFor (h : Declares id status e.store) (caller : Option RunIdentity) :
    ((cancelFor caller id e).1 = .ok true →
      status = .running ∧ Declares id .cancelled (cancelFor caller id e).2.store) ∧
      ((cancelFor caller id e).1 ≠ .ok true →
        Declares id status (cancelFor caller id e).2.store) := by
  have hresult : (cancelFor caller id e).1 =
      ((cancel (.text id)).perform { e with run := caller }).1 := rfl
  have hstore : (cancelFor caller id e).2.store =
      ((cancel (.text id)).perform { e with run := caller }).2.store := rfl
  rw [hresult, hstore]
  have hends := cancel_ends (.text id) { e with run := caller }
  generalize ((cancel (.text id)).perform { e with run := caller }).1 = r,
    ((cancel (.text id)).perform { e with run := caller }).2.store = s' at hends ⊢
  refine ⟨fun hyes => ?_, fun hno => declares_of_rows (hends.sameRows hno executionsTable) h⟩
  have hlooked := sameRows_lookup (.text id) e.store executionsTable
  cases hends with
  | unread | unfound | stateless | finished | unmarked => cases hyes
  | marked hl hf hm =>
    rw [hl] at hlooked
    exact cancelled_of_found (declares_of_rows hlooked h) hm (bne_iff_ne.mp (Except.ok.inj hyes))

/-! ### What a run does -/

/-- The stage is one of the run with the id, and only nodes of the flow are queued. -/
def Stage.OfRun (id : String) (flow : Flow) : Stage → Prop
  | walking _ queue r => r.id = id ∧ ∀ n ∈ queue, n ∈ flow.nodes
  | noting _ queue _ _ r => r.id = id ∧ ∀ n ∈ queue, n ∈ flow.nodes
  | closing _ r => r.id = id
  | ended _ => True

lemma ofRun_first {r : Run} (h : r.id = id) : (Stage.first d r).OfRun id d.flow := by
  unfold Stage.first
  split
  · exact h
  · exact ⟨h, starts_subset d.flow⟩

lemma successors_of_proceed {node : Node} {result : NodeResult} {next : List Node}
    (h : (proceed d node result).perform e = (.ok (.ok next), e')) :
    next = d.flow.successors node.id result.next := by
  unfold proceed at h
  dsimp only at h
  split at h
  · cases h
    rfl
  · split at h
    · cases h
    · cases h
      rfl

lemma ofRun_step (hp : p.OfRun id d.flow) (h : (p.step d).perform e = (.ok q, e')) :
    q.OfRun id d.flow := by
  rcases p with ⟨seen, _ | ⟨n, queue⟩, r⟩ | ⟨seen, queue, n, result, r⟩ | ⟨error, r⟩ | outcome
  · cases h
    exact hp.1
  · obtain ⟨hid, hqueue⟩ := hp
    have hrest : ∀ m ∈ queue, m ∈ d.flow.nodes := (List.forall_mem_cons.mp hqueue).2
    rw [Stage.step] at h
    split at h
    · cases h
      exact ⟨hid, hrest⟩
    · rw [perform_bind_of_ok (perform_now _)] at h
      obtain ⟨result, k, -, h⟩ := perform_bind_ok.mp h
      rw [perform_bind_of_ok (perform_now _)] at h
      cases h
      exact ⟨(id_push r _).trans hid, hrest⟩
  · obtain ⟨hid, hqueue⟩ := hp
    rw [Stage.step] at h
    obtain ⟨⟨⟩, k, -, h⟩ := perform_bind_ok.mp h
    obtain ⟨error | next, k', hnext, h⟩ := perform_bind_ok.mp h
    · cases h
      exact hid
    · cases h
      refine ⟨hid, ?_⟩
      intro m hm
      rcases List.mem_append.mp hm with hm | hm
      · exact hqueue m hm
      · have hsuccessors := successors_of_proceed hnext
        rw [hsuccessors] at hm
        exact (Flow.mem_nodesWithIds.mp (List.mem_of_mem_filter hm)).1
  · rw [Stage.step] at h
    obtain ⟨⟨⟩, k, -, h⟩ := perform_bind_ok.mp h
    cases h
    trivial
  · cases h
    trivial

lemma ofRun_next (hp : p.OfRun id d.flow) (e : Engine) :
    (Stage.next d (p, e)).1.OfRun id d.flow := by
  rcases h : (p.step d).perform e with ⟨f | q, e'⟩
  · rw [next_of_error h]
    trivial
  · rw [next_of_ok h]
    exact ofRun_step hp h

lemma store_next (d : Definition) (p : Stage) (e : Engine) :
    (Stage.next d (p, e)).2.store = ((p.step d).perform e).2.store := by
  rcases h : (p.step d).perform e with ⟨f | q, e'⟩
  · rw [next_of_error h]
  · rw [next_of_ok h]

/-- No node of the flow writes to the table of executions. -/
def Spared (flow : Flow) : Prop :=
  ∀ n ∈ flow.nodes, ∀ scope, n.Avoids scope executionsTable

lemma accepted?_closing (error : Option Value) (r : Run) (e : Engine) :
    Stage.accepted? (.closing error r, e) =
      if r.accepts (outcomeOf error r) error e then some (outcomeOf error r) else none := rfl

/-- **A stage leaves the state of the record**, whatever it is, unless it is the last one: then the
store takes the outcome in its place, or refuses it. -/
lemma declares_next (hf : Spared d.flow) (hp : p.OfRun id d.flow) (h : Declares id status e.store) :
    Declares id ((Stage.accepted? (p, e)).getD status) (Stage.next d (p, e)).2.store := by
  rw [store_next]
  rcases p with ⟨seen, _ | ⟨n, queue⟩, r⟩ | ⟨seen, queue, n, result, r⟩ | ⟨error, r⟩ | outcome
  · exact h
  · obtain ⟨-, hqueue⟩ := hp
    have hnode : n.Avoids r.scope executionsTable := hf n (hqueue n List.mem_cons_self) r.scope
    have hrows := Node.keeps_execute (frame_rows executionsTable) n d.flow r.scope hnode e
    rw [Stage.step]
    split
    · exact h
    · rw [perform_bind_of_ok (perform_now _), store_bind_of_quiet]
      · exact declares_of_rows hrows h
      · exact fun result => quiet_bind (fun _ => rfl) fun completedAt => quiet_pure _
  · obtain ⟨rfl, -⟩ := hp
    rw [Stage.step, store_bind_of_quiet]
    · exact declares_recordProgress h
    · refine fun _ => quiet_bind (quiet_proceed d n result) fun next => ?_
      rcases next with error | next
      · exact quiet_pure _
      · exact quiet_pure _
  · have hid : r.id = id := hp
    subst hid
    have hwritten : Declares r.id
        (if r.accepts (outcomeOf error r) error e then outcomeOf error r else status)
        ((finalize r (outcomeOf error r) error).perform e).2.store := declares_finalize h
    rw [Stage.step, store_bind_of_quiet fun _ => quiet_pure _]
    rw [accepted?_closing, apply_ite (Option.getD · status)]
    exact hwritten
  · exact h

/-! ### All turns -/

lemma outcomeOf_cases (error : Option Value) (r : Run) :
    outcomeOf error r = .completed ∨ outcomeOf error r = .failed := by
  unfold outcomeOf resultOf
  dsimp only
  split
  · exact Or.inr rfl
  · exact Or.inl rfl

lemma accepted?_cases (h : Stage.accepted? x = some status) :
    status = .completed ∨ status = .failed := by
  unfold Stage.accepted? at h
  split at h
  · split at h
    · cases h
      exact outcomeOf_cases _ _
    · cases h
  all_goals cases h

lemma outcome?_cases {turns : List Turn} (h : outcome? d id turns x = some status) :
    status = .completed ∨ status = .failed := by
  induction turns generalizing x with
  | nil => cases h
  | cons turn turns ih =>
    cases turn with
    | goesOn =>
      rcases Option.or_eq_some_iff.mp h with hlater | ⟨-, hnow⟩
      · exact ih hlater
      · exact accepted?_cases hnow
    | cancelled caller => exact ih h

lemma declares_play (hf : Spared d.flow) (turns : List Turn) (hp : x.1.OfRun id d.flow)
    (h : Declares id status x.2.store) :
    ∃ status', Declares id status' (play d id turns x).2.store ∧
      (play d id turns x).1.OfRun id d.flow := by
  induction turns generalizing x status with
  | nil => exact ⟨status, h, hp⟩
  | cons turn turns ih =>
    obtain ⟨p, e⟩ := x
    cases turn with
    | goesOn => exact ih (ofRun_next hp e) (declares_next hf hp h)
    | cancelled caller =>
      obtain ⟨hyes, hno⟩ := declares_cancelFor h caller
      by_cases hc : (cancelFor caller id e).1 = .ok true
      · exact ih hp (hyes hc).2
      · exact ih hp (hno hc)

/-- Once a record is in a state that runs do not leave by being cancelled, only an outcome that the
store takes replaces it. -/
lemma declares_of_settled (hf : Spared d.flow) (turns : List Turn) (hp : x.1.OfRun id d.flow)
    (h : Declares id status x.2.store) (hstatus : status ≠ .running) :
    Declares id ((outcome? d id turns x).getD status) (play d id turns x).2.store := by
  induction turns generalizing x status with
  | nil => exact h
  | cons turn turns ih =>
    obtain ⟨p, e⟩ := x
    cases turn with
    | goesOn =>
      have hnext : (Stage.accepted? (p, e)).getD status ≠ .running := by
        rcases ha : Stage.accepted? (p, e) with _ | outcome
        · exact hstatus
        · rcases accepted?_cases ha with rfl | rfl
          · rintro ⟨⟩
          · rintro ⟨⟩
      have hrest := ih (ofRun_next hp e) (declares_next hf hp h) hnext
      have hor : (outcome? d id (.goesOn :: turns) (p, e)).getD status =
          (outcome? d id turns (Stage.next d (p, e))).getD
            ((Stage.accepted? (p, e)).getD status) := by
        show ((outcome? d id turns (Stage.next d (p, e))).or _).getD status = _
        cases outcome? d id turns (Stage.next d (p, e)) <;> rfl
      rw [hor]
      exact hrest
    | cancelled caller =>
      obtain ⟨hyes, hno⟩ := declares_cancelFor h caller
      have hc : (cancelFor caller id e).1 ≠ .ok true := fun hc => hstatus (hyes hc).1
      exact ih hp (hno hc) hstatus

lemma declares_begun {x : Start} (h : x.Ran t) (hf : x.Fresh) :
    Declares x.id .running t.begun.store := by
  refine ⟨?_, running_of_made h hf⟩
  obtain ⟨row, hrows, hrow⟩ := record_of_launch h.launched
  rw [Start.id_of_ran h] at hrow
  have hmem : row ∈ t.made.store.rows executionsTable := by
    rw [hrows]
    simp
  refine ⟨row, hmem, ?_⟩
  rw [Fields.get, hrow.id]
  rfl

/-- **What becomes of a cancelled run.** Whatever the state of a record, progress leaves it and an
outcome replaces it if the store takes it. So when a run is cancelled at any point between two of
its operations, its record was in progress and says from then on that it is cancelled, through all
turns in which the store takes no outcome of the run; once it takes one, the record says that the
run is completed or failed. -/
theorem status_of_cancelled {x : Start} (ht : x.Ran t) (hfresh : x.Fresh)
    (hspared : Spared x.definition.flow) (before : List Turn) (caller : Option RunIdentity)
    (hc : (cancelFor caller x.id (play x.definition x.id before
      (Stage.first x.definition t.first, t.begun)).2).1 = .ok true) :
    let found := play x.definition x.id before (Stage.first x.definition t.first, t.begun)
    let left := (Turn.cancelled caller).take x.definition x.id found
    Declares x.id .running found.2.store ∧ Declares x.id .cancelled left.2.store ∧
      (∀ turns, Declares x.id ((outcome? x.definition x.id turns left).getD .cancelled)
        (play x.definition x.id turns left).2.store) ∧
      (∀ turns outcome, outcome? x.definition x.id turns left = some outcome →
        outcome = .completed ∨ outcome = .failed) ∧
      ∀ (r : Run) (status : RunStatus) (e : Engine), Declares r.id status e.store →
        Declares r.id status ((recordProgress r).perform e).2.store ∧
        ∀ outcome error, Declares r.id (if r.accepts outcome error e then outcome else status)
          ((finalize r outcome error).perform e).2.store := by
  intro found left
  have hfirst : (Stage.first x.definition t.first).OfRun x.id x.definition.flow :=
    ofRun_first (Start.id_of_ran ht)
  have hbegun : Declares x.id .running t.begun.store := declares_begun ht hfresh
  obtain ⟨status, hfound, hstage⟩ :=
    declares_play (x := (Stage.first x.definition t.first, t.begun)) hspared before hfirst hbegun
  obtain ⟨rfl, hleft⟩ := (declares_cancelFor hfound caller).1 hc
  refine ⟨hfound, hleft, ?_, fun turns outcome h => outcome?_cases h, ?_⟩
  · exact fun turns => declares_of_settled hspared turns hstage hleft (by decide)
  · exact fun r status e h => ⟨declares_recordProgress h, fun outcome error => declares_finalize h⟩

/-! ### A cancelled run, computed -/

def manual : Start := ⟨Session.single, .text "manual", .null, .int 0, {}⟩

def manualTrace : Trace :=
  (trace? 9 manual.definition manual.event manual.payload manual.retryCount manual.engine).get
    (by decide +kernel)

lemma spared_single : Spared Session.single.flow := by
  intro n hn scope
  rw [List.mem_singleton.mp hn]
  exact fun a ha => by cases ha

/-- The run when its node is done, and its progress is to be written. -/
def manualDone : Stage × Engine :=
  play manual.definition manual.id [.goesOn]
    (Stage.first manual.definition manualTrace.first, manualTrace.begun)

/-- The run when a caller has cancelled it there. -/
def manualCancelled : Stage × Engine :=
  (Turn.cancelled none).take manual.definition manual.id manualDone

theorem status_of_cancelled_manual :
    (cancelFor none manual.id manualDone.2).1 = .ok true ∧
      Declares manual.id .running manualDone.2.store ∧
      Declares manual.id .cancelled manualCancelled.2.store ∧
      Declares manual.id .cancelled
        (play manual.definition manual.id [.goesOn, .goesOn] manualCancelled).2.store ∧
      Declares manual.id .completed
        (play manual.definition manual.id [.goesOn, .goesOn, .goesOn] manualCancelled).2.store := by
  have ht : manual.Ran manualTrace := ran_of_trace? (Option.some_get _).symm
  have hc : (cancelFor none manual.id manualDone.2).1 = .ok true := by decide +kernel
  obtain ⟨hfound, hleft, hrest, -⟩ :=
    status_of_cancelled ht (by decide +kernel) spared_single [.goesOn] none hc
  have hturns : ∀ turns, Declares manual.id
      ((outcome? manual.definition manual.id turns manualCancelled).getD .cancelled)
      (play manual.definition manual.id turns manualCancelled).2.store := hrest
  have hnone : outcome? manual.definition manual.id [.goesOn, .goesOn] manualCancelled = none := by
    decide +kernel
  have hsome : outcome? manual.definition manual.id [.goesOn, .goesOn, .goesOn] manualCancelled =
      some .completed := by
    decide +kernel
  have hnoted := hturns [.goesOn, .goesOn]
  have hclosed := hturns [.goesOn, .goesOn, .goesOn]
  rw [hnone] at hnoted
  rw [hsome] at hclosed
  exact ⟨hc, hfound, hleft, hnoted, hclosed⟩

end Run

end CrmAutomation

import CrmAutomation.Proofs.Node.Timing
import CrmAutomation.Proofs.Run.Posting
import CrmAutomation.Proofs.Run.Record
import Mathlib.Algebra.Order.BigOperators.Group.List
import Mathlib.Algebra.Ring.Int.Defs

/-!
When the steps of a run begin and end.

Time passes in a run only while a delay waits. So each step starts when the one before it is
completed, the run takes as long as its steps do together, and these take as long as the delays
among them say that they waited. The record of the run says so, too.
-/

namespace CrmAutomation

open EngineM Record Calendar

/-- `Timeline start steps finish`: each step starts when the one before it is completed, the first
at `start`. The last is completed at `finish`, which is `start` if there is none. -/
inductive Timeline : Instant → List Step → Instant → Prop
  | nil {start} : Timeline start [] start
  | cons {s steps finish} (rest : Timeline s.completedAt steps finish) :
      Timeline s.startedAt (s :: steps) finish

lemma sum_durations {start finish : Instant} {steps : List Step}
    (h : Timeline start steps finish) : (steps.map Step.durationMs).sum = finish - start := by
  induction h with
  | nil => simp
  | @cons s _ _ _ ih =>
    rw [List.map_cons, List.sum_cons, ih, Step.durationMs]
    omega

/-- The item says when the step started and was completed, how long that took, and what the step
put out if it waited. -/
structure Step.Times (s : Step) (item : Fields) : Prop where
  started : item.find? "started_at" = some (.text s.startedAt.isoText)
  completed : item.find? "completed_at" = some (.text s.completedAt.isoText)
  duration : item.find? "duration_ms" = some (.int s.durationMs)
  waited : ∀ delay requested, s.result.output = .object (Node.waited delay requested) →
    item.find? "output" = some (.object (Node.waited delay requested))

lemma Step.times_keep (s : Step) (k : Store) : s.Times (k.keep s.fields) := by
  have hfind : ∀ {key : Key} {v : Value}, key ≠ "error" → Fields.find? [
      ("node_id", .text s.nodeId), ("node_type", .text s.nodeType), ("status", s.status.value),
      ("started_at", .text s.startedAt.isoText), ("completed_at", .text s.completedAt.isoText),
      ("duration_ms", .int s.durationMs), ("output", s.result.output)] key = some v → v.IsJson →
      (k.keep s.fields).find? key = some v := by
    intro key v hk hv hj
    rw [Store.find?_keep s.plain_fields, s.find?_fields hk, hv, Option.map_some,
      Store.brings_of_isJson hj]
  refine ⟨?_, ?_, ?_, fun delay requested hout => ?_⟩
  · exact hfind (by decide) rfl rfl
  · exact hfind (by decide) rfl rfl
  · exact hfind (by decide) rfl rfl
  · exact hfind (by decide) (congrArg some hout) rfl

namespace Run

variable {d : Definition} {event payload retryCount : Value} {e e' : Engine} {n : Node}
  {r r' : Run} {v : Visit} {seen : List String} {queue : List Node} {vs : List Visit}
  {ending : Ending} {t : Trace} {id key text : String} {place : ℕ} {row : Row}
  {result : RunResult}

/-! ### The clock along a walk -/

lemma clock_left (hv : v.Happens d n r e) : (v.left d).clock = v.after.clock := by
  obtain ⟨journal, hw⟩ := write_leaves v.outcome.progressPatch v.outcome.id
    "Failed to record execution progress" v.after
  rw [← recordProgress_eq, hv.recorded] at hw
  have hsettled : v.settled.clock = v.after.clock := by
    rw [show v.settled = _ from hw]
  rw [← hsettled]
  rcases left_cases d v with h | ⟨level, line, h⟩
  · rw [h]
  · rw [h]
    rfl

lemma timeline_of_walks (hw : Walks d seen queue r e vs ending r' e')
    (hy : ∀ n f, ending ≠ .raised n f) :
    Timeline e.clock (vs.map Visit.step) e'.clock := by
  induction hw with
  | done => exact .nil
  | pass _ _ ih => exact ih hy
  | @visit _ _ _ _ _ v _ _ _ _ _ hv _ _ ih =>
    have hrest := ih hy
    rw [clock_left hv] at hrest
    rw [← hv.before]
    exact .cons (s := v.step) hrest
  | @stop _ _ _ _ _ v _ _ hv =>
    rw [clock_left hv, ← hv.before]
    exact .cons (s := v.step) .nil
  | raise => exact absurd rfl (hy _ _)

lemma settings_of_walks (hw : Walks d seen queue r e vs ending r' e') :
    ∀ v ∈ vs, v.before.settings = e.settings := by
  induction hw with
  | done | raise => simp
  | pass _ _ ih => exact ih
  | visit _ hv _ _ ih =>
    rw [settings_left, keeps_of_happens frame_settings hv] at ih
    exact List.forall_mem_cons.mpr ⟨by rw [hv.before], ih⟩
  | stop _ hv => exact List.forall_mem_cons.mpr ⟨by rw [hv.before], by simp⟩

lemma startedAt_of_walks (hw : Walks d seen queue r e vs ending r' e') :
    r'.startedAt = r.startedAt := by
  induction hw with
  | done | raise => rfl
  | pass _ _ ih => exact ih
  | visit _ hv _ _ ih => rw [ih, ← hv.run]; rfl
  | stop _ hv => rw [← hv.run]; rfl

/-! ### What takes the time -/

/-- The node of the visit is a delay, and it waited. -/
def Visit.Waits (v : Visit) : Prop :=
  v.node.kind? = some .delay ∧ v.result.succeeded = true

instance (v : Visit) : Decidable v.Waits := inferInstanceAs (Decidable (_ ∧ _))

/-- The delays of a run that waited. -/
def Trace.delays (t : Trace) : List Visit := t.visits.filter (·.Waits)

lemma took_of_waits (hv : v.Happens d n r e) (hw : v.Waits) :
    ∃ requested most, e.settings.maxDelayMs = .ok most ∧ v.step.durationMs ≤ most ∧
      v.result.output = .object (Node.waited v.step.durationMs requested) := by
  obtain ⟨hk, hs⟩ := hw
  rw [hv.node] at hk
  obtain ⟨requested, most, hmost, hout, hclock⟩ := Node.took_of_delay hk hv.executed hs
  have hduration : v.step.durationMs = min requested most := by
    show v.after.clock - v.before.clock = _
    rw [hv.before, hclock, add_sub_cancel_left]
  rw [← hduration] at hout
  exact ⟨requested, most, hmost, by omega, hout⟩

lemma duration_of_not_waits (hv : v.Happens d n r e) (hno : ¬v.Waits) :
    v.step.durationMs = 0 := by
  unfold Visit.Waits at hno
  rw [hv.node] at hno
  have hclock := Node.clock_of_no_wait hno hv.executed
  show v.after.clock - v.before.clock = 0
  rw [hv.before, hclock, sub_self]

lemma sum_of_waits (h : ∀ v ∈ vs, ¬v.Waits → v.step.durationMs = 0) :
    (vs.map fun v => v.step.durationMs).sum =
      ((vs.filter (·.Waits)).map fun v => v.step.durationMs).sum := by
  induction vs with
  | nil => rfl
  | cons v vs ih =>
    obtain ⟨hv, hvs⟩ := List.forall_mem_cons.mp h
    by_cases hw : v.Waits
    · simp [hw, ih hvs]
    · simp [hw, hv hw, ih hvs]

/-! ### Runs -/

lemma clock_of_ran (ht : Ran d event payload retryCount e t) :
    t.begun.clock = e.clock ∧ t.begun.settings = e.settings ∧ t.last.startedAt = e.clock := by
  obtain ⟨given, row, s, -, -, hfirst, hmade⟩ := launch_made ht.launched
  unfold Trace.begun
  rw [startedAt_of_walks ht.walked, hfirst, hmade]
  exact ⟨rfl, rfl, rfl⟩

lemma timeline_of_ran (ht : Ran d event payload retryCount e t)
    (hy : ∀ n f, t.ending ≠ .raised n f) : Timeline e.clock t.steps t.walked.clock := by
  have h := timeline_of_walks ht.walked hy
  rwa [(clock_of_ran ht).1, ← steps_eq ht] at h

lemma took_of_mem (ht : Ran d event payload retryCount e t) (hv : v ∈ t.delays) :
    ∃ requested most, e.settings.maxDelayMs = .ok most ∧ v.step.durationMs ≤ most ∧
      v.result.output = .object (Node.waited v.step.durationMs requested) := by
  obtain ⟨hv, hw⟩ := List.mem_filter.mp hv
  have htook := took_of_waits (happens_of_mem ht.walked v hv) (of_decide_eq_true hw)
  rwa [settings_of_walks ht.walked v hv, (clock_of_ran ht).2.1] at htook

lemma duration_of_notMem (ht : Ran d event payload retryCount e t) (hv : v ∈ t.visits)
    (hno : v ∉ t.delays) : v.step.durationMs = 0 :=
  duration_of_not_waits (happens_of_mem ht.walked v hv) fun hw =>
    hno (List.mem_filter.mpr ⟨hv, decide_eq_true hw⟩)

lemma sum_of_delays (ht : Ran d event payload retryCount e t) :
    (t.steps.map Step.durationMs).sum = (t.delays.map fun v => v.step.durationMs).sum := by
  rw [steps_eq ht, List.map_map]
  exact sum_of_waits fun v hv hno => duration_of_notMem ht hv fun hw =>
    hno (of_decide_eq_true (List.mem_filter.mp hw).2)

/-! ### The record -/

/-- The record says when the run started and was completed and how long its steps took, and for each
step when it started and was completed and how long it took. -/
structure Timed (start finish : Instant) (steps : List Step) (row : Row) : Prop where
  started : row.find? "started_at" = some (.text start.isoText)
  completed : row.find? "completed_at" = some (.text finish.isoText)
  duration : row.find? "duration_ms" = some (.int (steps.map Step.durationMs).sum)
  steps : ∃ items : List Fields,
    row.find? "steps_executed" = some (.list (items.map .object)) ∧
      List.Forall₂ Step.Times steps items

lemma says_of_walks (hk : ∀ r : Run, r.progressPatch.find? key = none)
    (hw : Walks d seen queue r e vs ending r' e') (hy : ∀ n f, ending ≠ .raised n f)
    (hsp : ∀ v ∈ vs, v.after.store.rows executionsTable = v.before.store.rows executionsTable)
    (h : Says r.id place key text e.store) : Says r.id place key text e'.store := by
  induction hw with
  | done => exact h
  | pass _ _ ih => exact ih hy hsp h
  | visit _ hv _ _ ih =>
    rw [List.forall_mem_cons] at hsp
    have hnext := says_of_happens (hk _) hv hsp.1 h
    rw [← id_outcome hv] at hnext ⊢
    exact ih hy hsp.2 hnext
  | stop _ hv => exact says_of_happens (hk _) hv (hsp _ List.mem_cons_self) h
  | raise => exact absurd rfl (hy _ _)

lemma started_of_ran (ht : Ran d event payload retryCount e t)
    (hy : ∀ n f, t.ending ≠ .raised n f) (hsp : t.Spares) :
    ∃ row, (t.walked.store.rows executionsTable)[(e.store.rows executionsTable).length]? =
        some row ∧ Records t.first.id row ∧
      row.find? "status" = some RunStatus.running.value ∧
      row.find? "started_at" = some (.text e.clock.isoText) := by
  obtain ⟨given, row, -, hrows, hrecord, hfind⟩ := row_of_launch ht.launched
  have hbegun : t.begun.store = t.made.store := rfl
  have hsays : ∀ key text : String, key ≠ "id" → key ≠ "created_at" →
      (∀ r : Run, r.progressPatch.find? key = none) →
      (startRow d event given retryCount e.clock).find? key = some (.text text) →
      Says t.first.id (e.store.rows executionsTable).length key text t.walked.store := by
    intro key text hid hc hk hv
    refine says_of_walks hk ht.walked hy hsp ⟨row, ?_, hrecord, ?_⟩
    · rw [hbegun, hrows, List.getElem?_concat_length]
    · rw [hfind _ (by simpa using hid) (by simpa using hc), hv]
      exact congrArg some (Store.brings_of_isJson (Value.isJson_text _))
  obtain ⟨row, hrow, hr, hstatus⟩ :=
    hsays "status" _ (by decide) (by decide) (fun _ => rfl) rfl
  obtain ⟨row', hrow', -, hstarted⟩ :=
    hsays "started_at" _ (by decide) (by decide) (fun _ => rfl) rfl
  cases hrow.symm.trans hrow'
  exact ⟨row, hrow, hr, hstatus, hstarted⟩

lemma timed_of_outcome (ht : Ran d event payload retryCount e t)
    (hy : ∀ n f, t.ending ≠ .raised n f) (hr : row.Plain)
    (hstatus : row.find? "status" = some RunStatus.running.value)
    (hstarted : row.find? "started_at" = some (.text e.clock.isoText)) (s : Store) :
    Timed e.clock t.walked.clock t.steps
      (s.overwrite row (t.last.outcomePatch (t.status d) (t.error d) t.walked.clock)) := by
  have hother := fun {k : Key} =>
    find?_outcomePatch t.last (t.status d) (t.error d) t.walked.clock (k := k)
  have hfind := find?_overwrite_outcome d t hr hstatus t.walked.clock s
  have hsum : t.walked.clock - t.last.startedAt = (t.steps.map Step.durationMs).sum := by
    rw [(clock_of_ran ht).2.2, sum_durations (timeline_of_ran ht hy)]
  refine ⟨?_, ?_, ?_, t.steps.map fun step => s.keep step.fields, ?_, ?_⟩
  · rw [hfind, hother (by decide)]
    show (row.find? "started_at").map s.brings = _
    rw [hstarted]
    exact congrArg some (Store.brings_of_isJson (Value.isJson_text _))
  · rw [hfind, hother (by decide)]
    exact congrArg some (Store.brings_of_isJson (Value.isJson_text _))
  · rw [hfind, hother (by decide), ← hsum]
    exact congrArg some (Store.brings_of_isJson rfl)
  · rw [hfind, hother (by decide), List.map_map]
    exact congrArg some (brings_stepsValue s t.steps)
  · rw [List.forall₂_map_right_iff, List.forall₂_same]
    exact fun step _ => step.times_keep s

/-- **The times of a run** that returns, if its nodes spare the table of executions and the store
takes its outcome. Each step starts when the one before it is completed, the first when the run
starts, and the run is completed when the last step is, or when it starts if it has no steps. How
long the run took is how long its steps took together. That is what its delays report to have
waited, each no longer than the settings allow: all other steps took no time, be they of other kinds
or delays that failed. -/
theorem times_of_once (h : (once d event payload retryCount).perform e = (.ok result, e'))
    (ht : Ran d event payload retryCount e t) (hc : t.Closes d) (hsp : t.Spares) :
    ∃ record finish,
      (e'.store.rows executionsTable)[(e.store.rows executionsTable).length]? = some record ∧
      Records result.execution record ∧ Timed e.clock finish t.steps record ∧
      Timeline e.clock t.steps finish ∧ t.steps = t.visits.map Visit.step ∧
      (t.steps.map Step.durationMs).sum = (t.delays.map fun v => v.result.delayMs).sum ∧
      (∀ most, e.settings.maxDelayMs = .ok most →
        (t.delays.map fun v => v.result.delayMs).sum ≤ most * t.delays.length) ∧
      (∀ v ∈ t.delays, ∃ requested most, e.settings.maxDelayMs = .ok most ∧
        v.step.durationMs ≤ most ∧
        v.result.output = .object (Node.waited v.step.durationMs requested)) ∧
      ∀ v ∈ t.visits, v ∉ t.delays → v.step.durationMs = 0 := by
  obtain ⟨closed, hr, rfl, rfl⟩ := returned_of_once ht h
  obtain ⟨row, hrow, hrecord, hstatus, hstarted⟩ := started_of_ran ht hr.yields hsp
  have hid : t.last.id = t.first.id := id_of_walks ht.walked
  have hreported : ∀ v ∈ t.delays, v.result.delayMs = v.step.durationMs := by
    intro v hv
    obtain ⟨requested, -, -, -, hout⟩ := took_of_mem ht hv
    exact Node.delayMs_of_waited hout
  obtain ⟨s, hs⟩ := hc
  have hclosed := store_of_takes hr hs
  rw [hid] at hs
  show ∃ record finish, (closed.store.rows executionsTable)[_]? = _ ∧ _
  rw [hclosed]
  have hpatch := plain_outcomePatch t.last (t.status d) (t.error d) t.walked.clock
  have hno := find?_outcomePatch t.last (t.status d) (t.error d) t.walked.clock
    (show ("id" : Key) ≠ "error_message" by decide)
  refine ⟨_, t.walked.clock, getElem?_of_takes hs hrow hrecord,
    records_overwrite hrecord hpatch hno _,
    timed_of_outcome ht hr.yields hrecord.plain hstatus hstarted _,
    timeline_of_ran ht hr.yields, steps_eq ht, ?_, fun most hmost => ?_, fun v => took_of_mem ht,
    fun v => duration_of_notMem ht⟩
  · rw [sum_of_delays ht, List.map_congr_left hreported]
  · have hle : ∀ ms ∈ t.delays.map fun v => v.result.delayMs, ms ≤ most := by
      intro ms hms
      obtain ⟨v, hv, rfl⟩ := List.mem_map.mp hms
      obtain ⟨-, most', hmost', hbound, -⟩ := took_of_mem ht hv
      cases hmost.symm.trans hmost'
      rw [hreported v hv]
      exact hbound
    have hsum := List.sum_le_card_nsmul _ _ hle
    rwa [List.length_map, Int.nsmul_eq_mul, mul_comm] at hsum

/-- A delay that is cut short, one that fails, one that is not, and a node that is no delay. -/
def resting : Definition where
  id := "resting"
  errorHandling := .proceed
  flow := {
    nodes := [("a", Value.int 7200), ("b", .int (10 ^ 400)), ("c", .text "3")].map (fun (id, ms) =>
      { id, type := some "delay"
        data := [("delay_value", ms), ("delay_unit", .text "seconds")] }) ++
      [{ id := "d", type := some "loop" }]
    edges := [{ source := "a", target := "b" }, { source := "b", target := "c" },
      { source := "c", target := "d" }] }

def restingTrace : Trace :=
  (trace? 9 resting .null (.object []) (.int 0) usedEngine).get (by decide +kernel)

theorem times_of_once_resting :
    ∃ result e' record finish,
      (once resting .null (.object []) (.int 0)).perform usedEngine = (.ok result, e') ∧
      (e'.store.rows executionsTable)[1]? = some record ∧
      Timed usedEngine.clock finish restingTrace.steps record ∧
      Timeline usedEngine.clock restingTrace.steps finish ∧
      restingTrace.steps.map Step.durationMs = [10000, 0, 3000, 0] ∧
      (restingTrace.delays.map fun v => v.result.delayMs).sum ≤
        10000 * restingTrace.delays.length := by
  have ht : Ran resting .null (.object []) (.int 0) usedEngine restingTrace :=
    ran_of_trace? (Option.some_get _).symm
  have hend : restingTrace.ending = .finished := by decide +kernel
  have hfinal : ((finalize restingTrace.last (restingTrace.status resting)
      (restingTrace.error resting)).perform restingTrace.walked).1 = .ok () := by decide +kernel
  have hr := once_of_returned ht ⟨by simp [hend], perform_of_fst hfinal⟩
  have hmost : usedEngine.settings.maxDelayMs = .ok 10000 := by decide +kernel
  obtain ⟨record, finish, hrow, -, htimed, hline, -, -, hle, -, -⟩ :=
    times_of_once hr ht ((closes_iff rfl).mpr (by decide +kernel))
      (spares_of_asks ht (by decide +kernel))
  exact ⟨_, _, record, finish, hr, hrow, htimed, hline, by decide +kernel,
    hle 10000 hmost⟩

end Run

end CrmAutomation

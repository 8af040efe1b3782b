import CrmAutomation.Proofs.Node.Single
import CrmAutomation.Proofs.Run.Effect
import Mathlib.Logic.Function.Iterate

/-!
A run, operation by operation.

Between two operations of the store a run stands at a stage: a node is next, or the progress of one
is to be written, or the outcome is. Going on to the next stage takes at most one operation, so the
stages are where other callers of the engine may come in between. Left alone, a run goes through its
stages to what it comes to.
-/

namespace CrmAutomation

open EngineM Record Calendar

namespace Run

/-- Where a run that has its record stands. -/
inductive Stage where
  /-- The nodes in the queue are next, but for those seen. -/
  | walking (seen : List String) (queue : List Node) (r : Run)
  /-- A node is done, and its progress is to be written. -/
  | noting (seen : List String) (queue : List Node) (node : Node) (result : NodeResult) (r : Run)
  /-- The walk is over, and the outcome is to be written. -/
  | closing (error : Option Value) (r : Run)
  | ended (outcome : Except Failure RunResult)

/-- The outcome of a run that is written at its end. -/
def outcomeOf (error : Option Value) (r : Run) : RunStatus :=
  (resultOf r.id error).status.getD .completed

namespace Stage

/-- Goes on to the next stage. -/
def step (d : Definition) : Stage → EngineM Stage
  | walking _ [] r => pure (.closing none r)
  | walking seen (n :: queue) r =>
    if n.id ∈ seen then pure (.walking seen queue r)
    else do
      let startedAt ← now
      let result ← n.execute d.flow r.scope
      let completedAt ← now
      pure (.noting (n.id :: seen) queue n result
        (r.push { nodeId := n.id, nodeType := n.typeName, startedAt, completedAt, result }))
  | noting seen queue n result r => do
    recordProgress r
    match ← proceed d n result with
    | .error v => pure (.closing (some v) r)
    | .ok next => pure (.walking seen (queue ++ next.filter fun m => m.id ∉ seen) r)
  | closing error r => do
    finalize r (outcomeOf error r) error
    pure (.ended (.ok (resultOf r.id error)))
  | ended outcome => pure (.ended outcome)

/-- The next stage, and the engine there. What fails outside of a node's result ends the run. -/
def next (d : Definition) (x : Stage × Engine) : Stage × Engine :=
  match (x.1.step d).perform x.2 with
  | (.ok stage, e) => (stage, e)
  | (.error f, e) => (.ended (.error f), e)

/-- The first stage of a run that has its record. -/
def first (d : Definition) (r : Run) : Stage :=
  if d.flow.starts.isEmpty then .closing (some emptyFlowError) r else .walking [] d.flow.starts r

end Stage

variable {d : Definition} {event payload retryCount : Value} {e e' k : Engine} {n : Node}
  {r r' : Run} {v : Visit} {f : Failure} {seen : List String} {queue : List Node}
  {vs : List Visit} {ending : Ending} {t : Trace} {p q : Stage}

lemma next_of_ok (h : (p.step d).perform e = (.ok q, e')) :
    Stage.next d (p, e) = (q, e') := by
  simp only [Stage.next, h]

lemma next_of_error (h : (p.step d).perform e = (.error f, e')) :
    Stage.next d (p, e) = (.ended (.error f), e') := by
  simp only [Stage.next, h]

/-! ### One operation at a time -/

lemma single_write (patch : Fields) (id event : String) : Single (write patch id event) := by
  intro e
  rw [store_write]
  exact Or.inr (.update _ _ _ _ trivial)

lemma quiet_proceed (d : Definition) (n : Node) (result : NodeResult) :
    Quiet (proceed d n result) := by
  unfold proceed
  dsimp only
  split
  · exact quiet_pure _
  · split <;> exact fun _ => rfl

/-- **Going on to the next stage takes at most one operation of the store.** -/
theorem single_step (d : Definition) (p : Stage) : Single (p.step d) := by
  rcases p with ⟨seen, _ | ⟨n, queue⟩, r⟩ | ⟨seen, queue, n, result, r⟩ | ⟨error, r⟩ | outcome
  · exact (quiet_pure _).single
  · rw [Stage.step]
    split
    · exact (quiet_pure _).single
    · refine single_bind_left (fun _ => rfl) fun startedAt => ?_
      refine single_bind_right (Node.single_execute n d.flow r.scope) fun result => ?_
      exact quiet_bind (fun _ => rfl) fun completedAt => quiet_pure _
  · refine single_bind_right (single_write _ _ _) fun _ => ?_
    refine quiet_bind (quiet_proceed d n result) fun next => ?_
    rcases next with error | next
    · exact quiet_pure _
    · exact quiet_pure _
  · refine single_bind_right ?_ fun _ => quiet_pure _
    refine single_bind_left (fun _ => rfl) fun t => ?_
    exact single_bind_right (single_write _ _ _) fun _ => fun _ => rfl
  · exact (quiet_pure _).single

/-! ### A run that is left alone -/

/-- So many stages on. -/
def Stage.advance (d : Definition) (steps : ℕ) (x : Stage × Engine) : Stage × Engine :=
  (Stage.next d)^[steps] x

/-- The stage at which a walk ends. -/
def Ending.stage (r : Run) : Ending → Stage
  | finished => .closing none r
  | stopped error => .closing (some error) r
  | raised _ f => .ended (.error f)

lemma next_of_happens (h : n.id ∉ seen) (hv : v.Happens d n r e) :
    Stage.next d (.walking seen (n :: queue) r, e) =
      (.noting (n.id :: seen) queue n v.result v.outcome, v.after) := by
  refine next_of_ok ?_
  obtain ⟨rfl, rfl, rfl, hx, -⟩ := hv
  rw [Stage.step, if_neg h, perform_bind_of_ok (perform_now _), perform_bind_of_ok hx]
  exact perform_bind_of_ok (perform_now _)

lemma advance_of_walks (hw : Walks d seen queue r e vs ending r' e') :
    ∃ steps, Stage.advance d steps (.walking seen queue r, e) = (ending.stage r', e') := by
  induction hw with
  | done => exact ⟨1, rfl⟩
  | @pass seen n queue r e _ _ _ _ h _ ih =>
    obtain ⟨steps, hs⟩ := ih
    have hpass : Stage.next d (.walking seen (n :: queue) r, e) = (.walking seen queue r, e) := by
      refine next_of_ok ?_
      rw [Stage.step, if_pos h]
      rfl
    refine ⟨steps + 1, ?_⟩
    rw [Stage.advance, Function.iterate_succ_apply, hpass]
    exact hs
  | @visit seen n queue r e v _ _ _ _ h hv hg _ ih =>
    obtain ⟨steps, hs⟩ := ih
    have hnoted : Stage.next d (.noting (n.id :: seen) queue n v.result v.outcome, v.after) =
        (.walking (n.id :: seen) (queue ++ v.queued d (n.id :: seen)) v.outcome, v.left d) := by
      have hp := proceed_of_goesOn hg
      rw [hv.node] at hp
      refine next_of_ok ?_
      rw [Stage.step, perform_bind_of_ok hv.recorded, perform_bind_of_ok hp]
      rfl
    refine ⟨steps + 2, ?_⟩
    rw [Stage.advance, Function.iterate_succ_apply, next_of_happens h hv,
      Function.iterate_succ_apply, hnoted]
    exact hs
  | @stop seen n queue r e v f h hv hf hp =>
    have hnoted : Stage.next d (.noting (n.id :: seen) queue n v.result v.outcome, v.after) =
        (.closing (some (stopError f)) v.outcome, v.left d) := by
      have hp := proceed_of_stop hf hp
      rw [hv.node] at hp
      refine next_of_ok ?_
      rw [Stage.step, perform_bind_of_ok hv.recorded, perform_bind_of_ok hp]
      rfl
    refine ⟨2, ?_⟩
    rw [Stage.advance, Function.iterate_succ_apply, next_of_happens h hv,
      Function.iterate_succ_apply, hnoted]
    rfl
  | @raise seen n queue r e f e' h hx =>
    unfold execute at hx
    rw [perform_bind_of_ok (perform_now _)] at hx
    rcases perform_bind_error.mp hx with hx | ⟨result, after, hok, hx⟩
    · refine ⟨1, next_of_error ?_⟩
      rw [Stage.step, if_neg h, perform_bind_of_ok (perform_now _), perform_bind_of_error hx]
    · -- the node is done, and then its progress cannot be written
      let r' : Run := r.push ⟨n.id, n.typeName, e.clock, after.clock, result⟩
      have hnoting : Stage.next d (.walking seen (n :: queue) r, e) =
          (.noting (n.id :: seen) queue n result r', after) := by
        refine next_of_ok ?_
        rw [Stage.step, if_neg h, perform_bind_of_ok (perform_now _), perform_bind_of_ok hok]
        exact perform_bind_of_ok (perform_now _)
      rw [perform_bind_of_ok (perform_now _)] at hx
      have hrecord : (recordProgress r').perform after = (.error f, e') := by
        rcases perform_bind_error.mp hx with hx | ⟨⟨⟩, k, -, hx⟩
        · exact hx
        · cases hx
      refine ⟨2, ?_⟩
      rw [Stage.advance, Function.iterate_succ_apply, hnoting, Function.iterate_one]
      refine next_of_error ?_
      rw [Stage.step, perform_bind_of_error hrecord]

lemma advance_trans {x y z : Stage × Engine} {i j : ℕ} (h : Stage.advance d i x = y)
    (h' : Stage.advance d j y = z) : Stage.advance d (j + i) x = z := by
  rw [Stage.advance, Function.iterate_add_apply]
  unfold Stage.advance at h h'
  rw [h, h']

lemma advance_to_end (ht : Ran d event payload retryCount e t) :
    ∃ steps, Stage.advance d steps (Stage.first d t.first, t.begun) =
      (match t.ending with
        | .raised _ f => .ended (.error f)
        | .finished | .stopped _ => .closing (t.error d) t.last, t.walked) := by
  have hw := ht.walked
  by_cases hs : d.flow.starts.isEmpty = true
  · rw [List.isEmpty_iff.mp hs] at hw
    refine ⟨0, ?_⟩
    rw [Stage.first, if_pos hs, Trace.error, if_pos hs]
    generalize t.begun = b at hw ⊢
    obtain ⟨first, made, vs, ending, last, walked⟩ := t
    cases hw
    rfl
  · obtain ⟨steps, h⟩ := advance_of_walks hw
    refine ⟨steps, ?_⟩
    rw [Stage.first, if_neg hs, h, Trace.error, if_neg hs]
    rcases t.ending with _ | error | ⟨n, f⟩
    · rfl
    · rfl
    · rfl

lemma next_of_closing (ht : Ran d event payload retryCount e t)
    (hy : ∀ n f, t.ending ≠ .raised n f) :
    ∃ k, Stage.next d (.closing (t.error d) t.last, t.walked) = (.ended (t.outcome d).1, k) ∧
      (t.outcome d).2 = { k with run := t.made.run } := by
  have hid : t.last.id = t.first.id := id_of_walks ht.walked
  have hstatus : outcomeOf (t.error d) t.last = t.status d := by
    rw [outcomeOf, hid]
    rfl
  have hresult : resultOf t.last.id (t.error d) = t.result d := by
    rw [hid]
    rfl
  rw [outcome_of_yields hy]
  rcases hx : (finalize t.last (t.status d) (t.error d)).perform t.walked with ⟨f | ⟨⟩, closed⟩
  · refine ⟨closed, next_of_error ?_, rfl⟩
    rw [Stage.step, hstatus, perform_bind_of_error hx]
  · refine ⟨closed, next_of_ok ?_, rfl⟩
    rw [Stage.step, hstatus, perform_bind_of_ok hx, hresult]
    rfl

/-- **A run that is left alone** goes through its stages to what it comes to. -/
theorem advance_of_ran (ht : Ran d event payload retryCount e t) :
    ∃ steps k, Stage.advance d steps (Stage.first d t.first, t.begun) =
        (.ended ((once d event payload retryCount).perform e).1, k) ∧
      ((once d event payload retryCount).perform e).2 = { k with run := t.made.run } := by
  obtain ⟨steps, hs⟩ := advance_to_end ht
  rw [once_of_ran ht]
  by_cases hr : ∃ n f, t.ending = .raised n f
  · obtain ⟨n, f, hr⟩ := hr
    rw [hr] at hs
    rw [Trace.outcome, hr]
    exact ⟨steps, t.walked, hs, rfl⟩
  · have hy : ∀ n f, t.ending ≠ .raised n f := fun n f h => hr ⟨n, f, h⟩
    have hend : Stage.advance d steps (Stage.first d t.first, t.begun) =
        (.closing (t.error d) t.last, t.walked) := by
      rw [hs]
      split
      · rename_i n f he
        exact absurd he (hy n f)
      · rfl
      · rfl
    obtain ⟨k, hk, hrun⟩ := next_of_closing ht hy
    exact ⟨1 + steps, k, advance_trans hend hk, hrun⟩

end Run

end CrmAutomation

import CrmAutomation.Proofs.Run.Trace
import Mathlib.Order.Bounds.Basic

/-!
Which nodes a run executes.

The walk keeps a queue, and the set of ids seen is all that stops it at a cycle. Whatever leaves the
queue lies in every set that holds the starts and is closed under following the executed nodes; and
what is queued comes to be seen before a walk finishes.
-/

namespace CrmAutomation

namespace Run

variable {d : Definition} {event payload retryCount : Value} {e e' : Engine} {r r' : Run}
  {seen : List String} {queue : List Node} {vs : List Visit} {ending : Ending} {S : Set String}

/-! ### The ids of a walk -/

lemma unseen_of_walks (hw : Walks d seen queue r e vs ending r' e') :
    ∀ v ∈ vs, v.node.id ∉ seen := by
  induction hw with
  | done | raise => simp
  | pass _ _ ih => exact ih
  | visit h hv _ _ ih =>
    rw [List.forall_mem_cons]
    refine ⟨by rw [hv.node]; exact h, fun w hw hs => ih w hw (List.mem_cons_of_mem _ hs)⟩
  | stop h hv => simpa [hv.node] using h

lemma nodup_of_walks (hw : Walks d seen queue r e vs ending r' e') :
    (vs.map (·.node.id)).Nodup := by
  induction hw with
  | done | raise => simp
  | pass _ _ ih => exact ih
  | visit _ hv _ rest ih =>
    rw [List.map_cons, List.nodup_cons]
    refine ⟨fun hm => ?_, ih⟩
    obtain ⟨w, hw, hid⟩ := List.mem_map.mp hm
    refine unseen_of_walks rest w hw ?_
    rw [hid, hv.node]
    exact List.mem_cons_self
  | stop => simp

lemma mem_nodes_of_walks (hw : Walks d seen queue r e vs ending r' e')
    (hq : ∀ m ∈ queue, m ∈ d.flow.nodes) : ∀ v ∈ vs, v.node ∈ d.flow.nodes := by
  induction hw with
  | done | raise => simp
  | pass _ _ ih => exact ih fun m hm => hq m (List.mem_cons_of_mem _ hm)
  | visit _ hv _ _ ih =>
    rw [List.forall_mem_cons]
    exact ⟨by rw [hv.node]; exact hq _ List.mem_cons_self, ih (queue_subset hq _ _)⟩
  | stop _ hv => simpa [hv.node] using hq _ List.mem_cons_self

/-! ### Reachability -/

lemma subset_of_walks (hw : Walks d seen queue r e vs ending r' e')
    (hq : ∀ m ∈ queue, m.id ∈ S)
    (hc : ∀ v ∈ vs, v.node.id ∈ S → ∀ m ∈ v.next d, m.id ∈ S) : ∀ v ∈ vs, v.node.id ∈ S := by
  induction hw with
  | done | raise => simp
  | pass _ _ ih => exact ih (fun m hm => hq m (List.mem_cons_of_mem _ hm)) hc
  | @visit _ n queue _ _ v _ _ _ _ _ hv _ _ ih =>
    rw [List.forall_mem_cons] at hc ⊢
    have hn : v.node.id ∈ S := by rw [hv.node]; exact hq n List.mem_cons_self
    refine ⟨hn, ih (fun m hm => ?_) hc.2⟩
    rcases List.mem_append.mp hm with hm | hm
    · exact hq m (List.mem_cons_of_mem _ hm)
    · exact hc.1 hn m (List.mem_filter.mp hm).1
  | stop _ hv => simpa [hv.node] using hq _ List.mem_cons_self

lemma closed_of_walks (hw : Walks d seen queue r e vs ending r' e') (hf : ending = .finished) :
    (∀ m ∈ queue, m.id ∈ seen ∨ m.id ∈ vs.map (·.node.id)) ∧
      ∀ v ∈ vs, ∀ m ∈ v.next d, m.id ∈ seen ∨ m.id ∈ vs.map (·.node.id) := by
  induction hw with
  | done => simp
  | pass h _ ih =>
    obtain ⟨hq, hn⟩ := ih hf
    exact ⟨List.forall_mem_cons.mpr ⟨Or.inl h, hq⟩, hn⟩
  | @visit seen n queue _ _ v vs _ _ _ h hv _ _ ih =>
    obtain ⟨hq, hn⟩ := ih hf
    have hid : n.id = v.node.id := by rw [hv.node]
    -- the id of the visited node has moved from the seen ids to the visits
    have hmove : ∀ id, id ∈ n.id :: seen ∨ id ∈ vs.map (·.node.id) →
        id ∈ seen ∨ id ∈ (v :: vs).map (·.node.id) := by
      intro id hm
      rw [List.map_cons, List.mem_cons, ← hid]
      rw [List.mem_cons] at hm
      tauto
    refine ⟨List.forall_mem_cons.mpr ⟨hmove _ (Or.inl List.mem_cons_self), fun m hm => ?_⟩,
      List.forall_mem_cons.mpr ⟨fun m hm => ?_, fun w hw m hm => hmove _ (hn w hw m hm)⟩⟩
    · exact hmove _ (hq m (List.mem_append_left _ hm))
    · by_cases hs : m.id ∈ n.id :: seen
      · exact hmove _ (Or.inl hs)
      · have hm' : m ∈ v.queued d (n.id :: seen) :=
          List.mem_filter.mpr ⟨hm, decide_eq_true hs⟩
        exact hmove _ (hq m (List.mem_append_right _ hm'))
  | stop | raise => cases hf

/-! ### The executed nodes -/

/-- A set of ids that holds the starts of a flow and, with every executed node in it, the ids of the
nodes that follow that node by its own result. -/
structure FollowClosed (f : Flow) (steps : List Step) (S : Set String) : Prop where
  starts : ∀ n ∈ f.starts, n.id ∈ S
  follows : ∀ s ∈ steps, s.nodeId ∈ S → ∀ n ∈ f.successors s.nodeId s.result.next, n.id ∈ S

def Trace.executed (t : Trace) : List String := t.steps.map (·.nodeId)

variable {t : Trace} {result : RunResult}

lemma executed_eq (h : Ran d event payload retryCount e t) :
    t.executed = t.visits.map (·.node.id) := by
  unfold Trace.executed
  rw [steps_eq h, List.map_map]
  rfl

/-- What a finished walk executed is the least set that is closed. -/
lemma isLeast_executed (h : Ran d event payload retryCount e t) (hf : t.ending = .finished) :
    IsLeast {S | FollowClosed d.flow t.steps S} {id | id ∈ t.executed} := by
  have hmem : ∀ v ∈ t.visits, v.step ∈ t.steps := by
    intro v hv
    rw [steps_eq h]
    exact List.mem_map_of_mem hv
  constructor
  -- the executed ids are closed
  · obtain ⟨hq, hn⟩ := closed_of_walks h.walked hf
    rw [executed_eq h]
    refine ⟨fun n hn' => (hq n hn').resolve_left (by simp), fun s hs _ n hn' => ?_⟩
    rw [steps_eq h] at hs
    obtain ⟨v, hv, rfl⟩ := List.mem_map.mp hs
    exact (hn v hv n hn').resolve_left (by simp)
  -- and lie in every closed set
  · intro S hS id hid
    rw [Set.mem_ofPred_eq, executed_eq h] at hid
    obtain ⟨v, hv, rfl⟩ := List.mem_map.mp hid
    refine subset_of_walks h.walked hS.starts (fun w hw hw' => ?_) v hv
    exact hS.follows w.step (hmem w hw) hw'

/-- **A run executes what it can reach, once each**: the walk of a run that makes its record and
returns comes to an end, no id is executed twice, all are ids of the flow, and unless a fault stops
the run they are the least set that holds the starts and is closed under following what was
executed. -/
theorem executed_reach
    (h : ((once d event payload retryCount).perform e).1 = .ok result)
    (hc : result.execution ≠ "") :
    ∃ t, Ran d event payload retryCount e t ∧
      ((walk d).run t.first).perform t.begun = (t.ending.outcome t.last, t.walked) ∧
      t.executed.Nodup ∧ (∀ id ∈ t.executed, id ∈ d.flow.nodes.map (·.id)) ∧
      (¬t.Stopped → IsLeast {S | FollowClosed d.flow t.steps S} {id | id ∈ t.executed}) := by
  -- without a record there is no execution id
  rcases once_ok_iff.mp (Prod.ext h rfl) with ⟨f, k, -, rfl, -⟩ | ⟨t, k, ht, hr, -, -⟩
  · exact absurd rfl hc
  · refine ⟨t, ht, walk_of_ran ht, ?_, fun id hid => ?_, fun hs => isLeast_executed ht ?_⟩
    · rw [executed_eq ht]
      exact nodup_of_walks ht.walked
    · rw [executed_eq ht] at hid
      obtain ⟨v, hv, rfl⟩ := List.mem_map.mp hid
      exact List.mem_map_of_mem (mem_nodes_of_walks ht.walked (starts_subset d.flow) v hv)
    · rcases hend : t.ending with _ | error | ⟨n, f⟩
      · rfl
      · exact absurd ⟨error, hend⟩ hs
      · exact absurd hend (hr.yields n f)

/-- Two nodes in a circle; one of them shares its id, leads to itself, and leads nowhere. -/
def circular : Definition where
  id := "circular"
  flow := {
    nodes := [{ id := "a", type := some "trigger" }, { id := "b" }, { id := "b" }, { id := "c" }]
    edges := [
      { source := "a", target := "b" }, { source := "b", target := "a" },
      { source := "b", target := "b" }, { source := "b", target := "nowhere" }] }

def circularTrace : Trace :=
  (trace? 9 circular .null (.object []) (.int 0) {}).get (by decide +kernel)

lemma once_circular :
    ((once circular .null (.object []) (.int 0)).perform {}).1 =
      .ok { success := true, execution := "id-1", status := some .completed } := by
  have ht : Ran circular .null (.object []) (.int 0) {} circularTrace :=
    ran_of_trace? (Option.some_get _).symm
  have hend : circularTrace.ending = .finished := by decide +kernel
  rw [once_of_returned ht ⟨by simp [hend], Prod.ext (by decide +kernel) rfl⟩]
  decide +kernel

theorem executed_reach_circular :
    ∃ t, Ran circular .null (.object []) (.int 0) {} t ∧
      ((walk circular).run t.first).perform t.begun = (t.ending.outcome t.last, t.walked) ∧
      t.executed.Nodup ∧ (∀ id ∈ t.executed, id ∈ circular.flow.nodes.map (·.id)) ∧
      (¬t.Stopped →
        IsLeast {S | FollowClosed circular.flow t.steps S} {id | id ∈ t.executed}) :=
  executed_reach once_circular (by decide)

end Run

end CrmAutomation

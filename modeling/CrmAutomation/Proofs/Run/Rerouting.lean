import CrmAutomation.Proofs.Run.Choice
import CrmAutomation.Proofs.Run.Effect

/-!
Runs of one definition through two flows.

Put into another flow, a node leaves the same engine and the same step in the log; only what it
chooses may be another list of ids. So two flows that start alike make the same run, as long as they
lead to the same nodes after every visit.
-/

namespace CrmAutomation

open EngineM Record

/-- The definition with another flow. -/
def Definition.through (d : Definition) (g : Flow) : Definition := { d with flow := g }

/-- The step as the log has it, without the choice of the node. -/
def Step.entry (s : Step) : Step := { s with result := s.result.choosing none }

lemma Step.fields_entry (s : Step) : s.entry.fields = s.fields := by
  unfold Step.fields Step.entry Step.status NodeResult.output
  simp only [NodeResult.succeeded_choosing, NodeResult.output?_choosing,
    NodeResult.fault?_choosing]
  rfl

/-- The steps so far, as the log has them. -/
def Run.entries (r : Run) : List Step := r.steps.map Step.entry

lemma stepsValue_entries (r : Run) : stepsValue r.entries = stepsValue r.steps := by
  unfold stepsValue Run.entries
  rw [List.map_map]
  simp only [Function.comp_def, Step.fields_entry]

namespace Run

/-- Two runs are the same but for what their nodes chose. -/
structure Alike (r k : Run) : Prop where
  workflow : r.workflow = k.workflow
  startedAt : r.startedAt = k.startedAt
  scope : r.scope = k.scope
  entries : r.entries = k.entries

variable {d : Definition} {event payload retryCount : Value} {f g : Flow} {n : Node}
  {r r' k k' : Run} {e e' : Engine} {v w : Visit} {seen : List String} {queue : List Node}
  {vs : List Visit} {ending : Ending} {t : Trace}

namespace Alike

lemma refl (r : Run) : r.Alike r := ⟨rfl, rfl, rfl, rfl⟩

lemma id (h : r.Alike k) : r.id = k.id := congrArg Scope.execution h.scope

lemma stepsValue (h : r.Alike k) : stepsValue r.steps = stepsValue k.steps := by
  rw [← stepsValue_entries, ← stepsValue_entries, h.entries]

lemma currentNode (h : r.Alike k) : r.currentNode = k.currentNode := by
  have hlast : ∀ s : Run, s.currentNode = s.entries.getLast?.map (·.nodeId) := by
    intro s
    unfold Run.currentNode Run.entries
    rw [List.getLast?_map, Option.map_map]
    rfl
  rw [hlast, hlast, h.entries]

lemma recordProgress (h : r.Alike k) : recordProgress r = recordProgress k := by
  unfold Run.recordProgress progressPatch
  rw [h.stepsValue, h.currentNode, h.id]

lemma finalize (h : r.Alike k) (status : RunStatus) (error : Option Value) :
    finalize r status error = finalize k status error := by
  unfold Run.finalize outcomePatch
  rw [h.stepsValue, h.startedAt, h.id]

lemma push (h : r.Alike k) {s s' : Step} (hs : s.entry = s'.entry) :
    (r.push s).Alike (k.push s') := by
  have hentries : ∀ (r : Run) (s : Step), (r.push s).entries = r.entries ++ [s.entry] := by
    intro r s
    unfold Run.entries Run.push
    simp
  have hsettle : ∀ (s : Step) (scope : Scope), s.result.settle scope = s.entry.result.settle scope :=
    fun s scope => (NodeResult.settle_choosing none s.result scope).symm
  refine ⟨h.workflow, h.startedAt, ?_, by rw [hentries, hentries, h.entries, hs]⟩
  show s.result.settle r.scope = s'.result.settle k.scope
  rw [hsettle s, hsettle s', hs, h.scope]

end Alike

/-! ### Visits -/

/-- The visit as it is made in another flow, by a run with other choices behind it. -/
def Visit.reroute (g : Flow) (k : Run) (v : Visit) : Visit :=
  { v with run := k, result := v.result.choosing (v.node.choice g v.run.scope) }

/-- After the visit the flow leads to the nodes that come next. -/
def Visit.LeadsAlike (d : Definition) (g : Flow) (v : Visit) : Prop :=
  g.successors v.node.id (v.node.choice g v.run.scope) = v.next d

lemma entry_reroute (g : Flow) (k : Run) (v : Visit) :
    (v.reroute g k).step.entry = v.step.entry := by
  unfold Visit.step Visit.reroute Step.entry
  simp only [NodeResult.choosing_choosing]

lemma outcome_reroute (h : v.run.Alike k) (g : Flow) :
    v.outcome.Alike (v.reroute g k).outcome := h.push (entry_reroute g k v).symm

lemma choice_of_happens (hv : v.Happens d n r e) : v.result.next = n.choice d.flow r.scope :=
  (Node.execute_choice hv.executed d.flow).1

lemma meet_of_happens (hv : v.Happens d n r e) : meet d n r e = .ok v := by
  rcases hm : meet d n r e with ⟨x, e'⟩ | w
  · exact absurd (raises_of_meet hm) (not_raises_of_happens hv _)
  · rw [happens_unique hv (happens_of_meet hm)]

lemma meet_of_raises {x : Failure} (hx : (execute d n r).perform e = (.error x, e')) :
    meet d n r e = .error (x, e') := by
  rcases hm : meet d n r e with ⟨y, k⟩ | w
  · have h := (raises_of_meet hm).symm.trans hx
    cases h
    rfl
  · exact absurd hx (not_raises_of_happens (happens_of_meet hm) _)

lemma meet_through (h : r.Alike k) (g : Flow) :
    meet (d.through g) n k e = (meet d n r e).map (Visit.reroute g k) := by
  unfold meet
  rw [← h.scope]
  rcases hx : (n.execute d.flow r.scope).perform e with ⟨x | result, after⟩
  · rw [show (d.through g).flow = g from rfl, Node.execute_error hx g]
    rfl
  · rw [show (d.through g).flow = g from rfl, (Node.execute_choice hx g).2]
    dsimp only
    let v : Visit := ⟨n, r, e, result, after, after⟩
    have hrec : recordProgress (v.reroute g k).outcome = recordProgress v.outcome :=
      (outcome_reroute (v := v) h g).recordProgress.symm
    rw [show recordProgress (Visit.outcome ⟨n, k, e, result.choosing (n.choice g r.scope), after,
      after⟩) = recordProgress v.outcome from hrec]
    rcases (recordProgress v.outcome).perform after with ⟨x | ⟨⟩, settled⟩
    · rfl
    · rfl

lemma happens_reroute (hv : v.Happens d n r e) (h : r.Alike k) (g : Flow) :
    (v.reroute g k).Happens (d.through g) n k e := by
  refine happens_of_meet ?_
  rw [meet_through h, meet_of_happens hv]
  rfl

lemma raises_through {x : Failure} (hx : (execute d n r).perform e = (.error x, e'))
    (h : r.Alike k) (g : Flow) : (execute (d.through g) n k).perform e = (.error x, e') := by
  refine raises_of_meet ?_
  rw [meet_through h, meet_of_raises hx]
  rfl

lemma left_reroute (d : Definition) (g : Flow) (k : Run) (v : Visit) :
    (v.reroute g k).left (d.through g) = v.left d := by
  have hfault : (v.reroute g k).result.fault? = v.result.fault? :=
    NodeResult.fault?_choosing _ _
  have hpolicy : (d.through g).errorHandling = d.errorHandling := rfl
  unfold Visit.left proceed
  dsimp only
  rw [hfault, hpolicy]
  rcases v.result.fault? with _ | f
  · rfl
  · dsimp only
    split
    · rfl
    · rfl

lemma queued_reroute (hv : v.Happens d n r e) (h : r.Alike k) (hl : v.LeadsAlike d g)
    (seen : List String) : (v.reroute g k).queued (d.through g) seen = v.queued d seen := by
  have hchoice : (v.reroute g k).result.next = v.node.choice g v.run.scope := by
    rw [choice_of_happens (happens_reroute hv h g), ← h.scope, ← hv.run, ← hv.node]
    rfl
  have hnext : (v.reroute g k).next (d.through g) = v.next d := by
    unfold Visit.next
    rw [hchoice]
    exact hl
  unfold Visit.queued
  rw [hnext]

/-! ### Walks -/

/-- **The simulation**: a flow that leads alike after every visit makes the same walk. -/
lemma walks_through (hw : Walks d seen queue r e vs ending r' e') (h : r.Alike k)
    (hl : ∀ v ∈ vs, v.LeadsAlike d g) :
    ∃ ws k', Walks (d.through g) seen queue k e ws ending k' e' ∧ r'.Alike k' := by
  -- along the walk: the same ids are seen, the same nodes wait, and the engine is the same
  induction hw generalizing k with
  | done => exact ⟨[], k, .done, h⟩
  | pass hn _ ih =>
    obtain ⟨ws, k', hws, h'⟩ := ih h hl
    exact ⟨ws, k', .pass hn hws, h'⟩
  | @visit seen n queue r e v _ _ _ _ hn hv hg _ ih =>
    rw [List.forall_mem_cons] at hl
    have halike : v.run.Alike k := by
      rw [hv.run]
      exact h
    obtain ⟨ws, k', hws, h'⟩ := ih (outcome_reroute halike g) hl.2
    rw [← left_reroute d g k v, ← queued_reroute hv h hl.1] at hws
    refine ⟨v.reroute g k :: ws, k', .visit hn (happens_reroute hv h g) (fun hp => ?_) hws, h'⟩
    exact (NodeResult.fault?_choosing _ _).trans (hg hp)
  | @stop _ n _ r e v f hn hv hf hp =>
    have halike : v.run.Alike k := by
      rw [hv.run]
      exact h
    have hf' : (v.reroute g k).result.fault? = some f :=
      (NodeResult.fault?_choosing _ _).trans hf
    rw [← left_reroute d g k v]
    exact ⟨_, _, .stop hn (happens_reroute hv h g) hf' hp, outcome_reroute halike g⟩
  | raise hn hx => exact ⟨[], k, .raise hn (raises_through hx h g), h⟩

/-! ### Runs -/

/-- The steps of the run, as the log has them. -/
def Trace.entries (t : Trace) : List Step := t.last.entries

/-- Two traces are the same but for what nodes chose. -/
structure Trace.Alike (t t' : Trace) : Prop where
  first : t.first = t'.first
  made : t.made = t'.made
  ending : t.ending = t'.ending
  last : t.last.Alike t'.last
  walked : t.walked = t'.walked

lemma Trace.Alike.entries {t' : Trace} (h : t.Alike t') : t.entries = t'.entries := h.last.entries

lemma ran_through (ht : Ran d event payload retryCount e t) (hs : g.starts = d.flow.starts)
    (hl : ∀ v ∈ t.visits, v.LeadsAlike d g) :
    ∃ t', Ran (d.through g) event payload retryCount e t' ∧ t.Alike t' := by
  obtain ⟨ws, k', hw, h⟩ := walks_through ht.walked (.refl t.first) hl
  rw [← hs] at hw
  exact ⟨⟨t.first, t.made, ws, t.ending, k', t.walked⟩, ⟨ht.launched, hw⟩, rfl, rfl, rfl, h, rfl⟩

lemma outcome_through {t' : Trace} (h : t.Alike t') (hs : g.starts = d.flow.starts) :
    t'.outcome (d.through g) = t.outcome d := by
  have herror : t'.error (d.through g) = t.error d := by
    unfold Trace.error
    rw [← h.ending, show (d.through g).flow.starts = d.flow.starts from hs]
  have hresult : t'.result (d.through g) = t.result d := by
    unfold Trace.result
    rw [herror, h.first]
  have hstatus : t'.status (d.through g) = t.status d := by
    unfold Trace.status
    rw [hresult]
  unfold Trace.outcome
  rw [herror, hresult, hstatus, ← h.ending, ← h.last.finalize, ← h.walked, ← h.made]

/-- **One run through two flows**: they start alike and lead to the same nodes after every visit, so
the run comes to the same, leaves the same engine, and logs the same steps. -/
theorem once_through (hs : g.starts = d.flow.starts)
    (hl : ∀ t, Ran d event payload retryCount e t → ∀ v ∈ t.visits, v.LeadsAlike d g) :
    (once (d.through g) event payload retryCount).perform e =
        (once d event payload retryCount).perform e ∧
      ∀ t, Ran d event payload retryCount e t →
        ∃ t', Ran (d.through g) event payload retryCount e t' ∧ t.entries = t'.entries := by
  refine ⟨?_, fun t ht => ?_⟩
  · have hlaunch : (launch (d.through g) event payload retryCount).perform e =
        (launch d event payload retryCount).perform e := rfl
    rcases hx : (launch d event payload retryCount).perform e with ⟨f | f | r, k⟩
    · rw [once_error_iff.mpr (Or.inl hx), once_error_iff.mpr (Or.inl (hlaunch.trans hx))]
    · rw [once_of_refused hx, once_of_refused (hlaunch.trans hx)]
    · obtain ⟨t, ht, -, -⟩ := exists_ran hx
      obtain ⟨t', ht', h⟩ := ran_through ht hs (hl t ht)
      rw [once_of_ran ht, once_of_ran ht', outcome_through h hs]
  · obtain ⟨t', ht', h⟩ := ran_through ht hs (hl t ht)
    exact ⟨t', ht', h.entries⟩

end Run

end CrmAutomation

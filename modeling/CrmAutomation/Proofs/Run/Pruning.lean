import CrmAutomation.Proofs.Run.Rerouting

/-!
Runs of a flow without its dangling edges.

An edge dangles if it leads to no node of the flow. A walk that follows all edges of a node passes
over those that dangle. A branch takes the first edge from its port, be it dangling or not: one that
dangles shadows the edges from the same port behind it.
-/

namespace CrmAutomation

open Node

namespace Flow

/-- The edge leads to a node of the flow. -/
def Lands (f : Flow) (edge : Edge) : Prop := ∃ n ∈ f.nodes, n.id = edge.target

instance (f : Flow) : DecidablePred f.Lands := fun edge =>
  inferInstanceAs (Decidable (∃ n ∈ f.nodes, n.id = edge.target))

/-- The flow without the edges that dangle. -/
def pruned (f : Flow) : Flow := { f with edges := f.edges.filter f.Lands }

/-- Behind the first edge from a port, which dangles, stands one that does not: the first such edge
leads to a node with an id that a branch may choose. -/
def Shadowed (f : Flow) (id port : String) : Prop :=
  (∃ ghost ∈ f.targetAt? id port, ∀ n ∈ f.nodes, n.id ≠ ghost) ∧
    ∃ target ∈ f.pruned.targetAt? id port, target ≠ ""

instance (f : Flow) (id port : String) : Decidable (f.Shadowed id port) :=
  inferInstanceAs (Decidable (_ ∧ _))

variable {f : Flow} {id port target : String} {holds : Bool}

lemma outgoing_pruned (f : Flow) (id : String) :
    f.pruned.outgoing id = (f.outgoing id).filter f.Lands := by
  unfold outgoing pruned
  rw [List.filter_filter, List.filter_filter]
  simp only [Bool.and_comm]

lemma nodesWithIds_pruned (f : Flow) (ids : List String) :
    f.pruned.nodesWithIds ids = f.nodesWithIds ids := rfl

lemma successors_pruned (f : Flow) (id : String) :
    f.pruned.successors id none = f.successors id none := by
  refine List.filter_congr fun n hn => ?_
  have hlands : ∀ edge ∈ f.outgoing id, edge.target = n.id → f.Lands edge :=
    fun edge _ h => ⟨n, hn, h.symm⟩
  rw [Bool.eq_iff_iff, List.contains_iff_mem, List.contains_iff_mem]
  simp only [Option.getD_none, List.mem_map, outgoing_pruned, List.mem_filter, decide_eq_true_iff]
  constructor
  · rintro ⟨edge, ⟨hedge, -⟩, htarget⟩
    exact ⟨edge, hedge, htarget⟩
  · rintro ⟨edge, hedge, htarget⟩
    exact ⟨edge, ⟨hedge, hlands edge hedge htarget⟩, htarget⟩

/-! ### Branches -/

lemma exists_of_targetAt?_pruned (h : f.pruned.targetAt? id port = some target) :
    ∃ n ∈ f.nodes, n.id = target := by
  obtain ⟨edge, hedge, -, rfl⟩ := exists_of_targetAt? h
  rw [outgoing_pruned, List.mem_filter] at hedge
  exact of_decide_eq_true hedge.2

lemma targetAt?_pruned_of_none (h : f.targetAt? id port = none) :
    f.pruned.targetAt? id port = none := by
  rcases hp : f.pruned.targetAt? id port with _ | target
  · rfl
  · obtain ⟨edge, hedge, hport, -⟩ := exists_of_targetAt? hp
    rw [outgoing_pruned, List.mem_filter] at hedge
    have hno := List.find?_eq_none.mp (Option.map_eq_none_iff.mp h) edge hedge.1
    simp [hport] at hno

lemma targetAt?_pruned_of_lands (h : f.targetAt? id port = some target)
    (hn : ∃ n ∈ f.nodes, n.id = target) : f.pruned.targetAt? id port = some target := by
  obtain ⟨before, edge, after, hedges, hbefore, hport, rfl⟩ := targetAt?_eq_some_iff.mp h
  refine targetAt?_eq_some_iff.mpr
    ⟨before.filter f.Lands, edge, after.filter f.Lands, ?_, fun other hother => ?_, hport, rfl⟩
  · rw [outgoing_pruned, hedges, List.filter_append, List.filter_cons_of_pos]
    exact decide_eq_true hn
  · exact hbefore other (List.mem_filter.mp hother).1

lemma nodesWithIds_branch_eq_nil :
    f.nodesWithIds (branch f id holds) = [] ↔
      ∀ target, f.targetAt? id (portFor holds) = some target → target ≠ "" →
        ∀ n ∈ f.nodes, n.id ≠ target := by
  rw [nodesWithIds, List.filter_eq_nil_iff]
  unfold branch
  rcases f.targetAt? id (portFor holds) with _ | target
  · simp
  · by_cases hempty : target = ""
    · simp [hempty]
    · simp [hempty]

lemma successors_of_shadowed (h : f.Shadowed id (portFor holds)) :
    f.successors id (some (branch f id holds)) = [] := by
  obtain ⟨⟨ghost, hghost, hno⟩, -⟩ := h
  refine nodesWithIds_branch_eq_nil.mpr fun target htarget _ => ?_
  obtain rfl := Option.some.inj (hghost.symm.trans htarget)
  exact hno

/-- **A branch without the dangling edges** leads to the same nodes exactly if no live edge from its
port is shadowed. -/
lemma successors_branch_pruned_iff :
    f.pruned.successors id (some (branch f.pruned id holds)) =
        f.successors id (some (branch f id holds)) ↔ ¬f.Shadowed id (portFor holds) := by
  unfold successors
  rw [Option.getD_some, Option.getD_some]
  rcases hf : f.targetAt? id (portFor holds) with _ | ghost
  · have hp := targetAt?_pruned_of_none hf
    refine iff_of_true ?_ fun ⟨⟨ghost, hghost, _⟩, _⟩ => ?_
    · unfold branch
      rw [hf, hp, nodesWithIds_pruned]
    · rw [hf] at hghost
      cases hghost
  by_cases hlands : ∃ n ∈ f.nodes, n.id = ghost
  · have hp := targetAt?_pruned_of_lands hf hlands
    refine iff_of_true ?_ fun ⟨⟨ghost', hghost, hno⟩, _⟩ => ?_
    · unfold branch
      rw [hf, hp, nodesWithIds_pruned]
    · obtain ⟨n, hn, hid⟩ := hlands
      rw [hf, Option.mem_some_iff] at hghost
      exact hno n hn (hid.trans hghost)
  -- the first edge dangles, so the branch of the whole flow leads nowhere
  have hno : ∀ n ∈ f.nodes, n.id ≠ ghost := fun n hn hid => hlands ⟨n, hn, hid⟩
  have hnil : f.nodesWithIds (branch f id holds) = [] := by
    refine nodesWithIds_branch_eq_nil.mpr fun target htarget _ => ?_
    rw [hf, Option.some.injEq] at htarget
    exact htarget ▸ hno
  rw [hnil, nodesWithIds_branch_eq_nil]
  constructor
  · rintro h ⟨-, target, htarget, hne⟩
    obtain ⟨n, hn, hid⟩ := exists_of_targetAt?_pruned htarget
    exact h target htarget hne n hn hid
  · intro h target htarget hne
    exact absurd ⟨⟨ghost, hf, hno⟩, target, htarget, hne⟩ h

end Flow

namespace Run

variable {d : Definition} {n : Node} {r : Run} {e : Engine} {v : Visit}

/-- The node has decided for a branch in which a dangling edge shadows a live one. -/
def Visit.Shadowed (f : Flow) (v : Visit) : Prop :=
  ∃ holds ∈ v.node.verdict? v.run.scope, f.Shadowed v.node.id (portFor holds)

instance (f : Flow) (v : Visit) : Decidable (v.Shadowed f) :=
  inferInstanceAs (Decidable (∃ holds ∈ v.node.verdict? v.run.scope, _))

lemma leadsAlike_pruned_iff (hv : v.Happens d n r e) :
    (v.LeadsAlike d d.flow.pruned ↔ ¬v.Shadowed d.flow) ∧
      (v.Shadowed d.flow → v.next d = []) := by
  have hchoice : v.result.next = v.node.choice d.flow v.run.scope := by
    rw [hv.node, hv.run]
    exact choice_of_happens hv
  unfold Visit.LeadsAlike Visit.next Visit.Shadowed
  rw [hchoice]
  unfold Node.choice
  rcases v.node.verdict? v.run.scope with _ | holds
  · refine ⟨iff_of_true (Flow.successors_pruned d.flow v.node.id) ?_, ?_⟩
    · rintro ⟨_, h, -⟩
      cases h
    · rintro ⟨_, h, -⟩
      cases h
  · simp only [Option.mem_some_iff, exists_eq_left', Option.map_some]
    exact ⟨Flow.successors_branch_pruned_iff, Flow.successors_of_shadowed⟩

/-- **A flow without its dangling edges**: after a visit it leads to the same nodes, unless the node
decided for a branch in which a dangling edge shadows a live one; the run follows such a branch
nowhere, and the pruned flow leads somewhere. If there is no such visit, then from every engine the
run comes to the same, leaves the same engine, and logs the same steps. -/
theorem once_pruned (d : Definition) (event payload retryCount : Value) (e : Engine) :
    (∀ t, Ran d event payload retryCount e t → ∀ v ∈ t.visits,
      (v.LeadsAlike d d.flow.pruned ↔ ¬v.Shadowed d.flow) ∧
        (v.Shadowed d.flow → v.next d = [])) ∧
    ((∀ t, Ran d event payload retryCount e t → ∀ v ∈ t.visits, ¬v.Shadowed d.flow) →
      (once (d.through d.flow.pruned) event payload retryCount).perform e =
          (once d event payload retryCount).perform e ∧
        ∀ t, Ran d event payload retryCount e t →
          ∃ t', Ran (d.through d.flow.pruned) event payload retryCount e t' ∧
            t.entries = t'.entries) := by
  have hvisits : ∀ t, Ran d event payload retryCount e t → ∀ v ∈ t.visits,
      (v.LeadsAlike d d.flow.pruned ↔ ¬v.Shadowed d.flow) ∧
        (v.Shadowed d.flow → v.next d = []) := fun t ht v hv =>
    leadsAlike_pruned_iff (happens_of_mem ht.walked v hv)
  refine ⟨hvisits, fun hno => once_through rfl fun t ht v hv => ?_⟩
  exact (hvisits t ht v hv).1.mpr (hno t ht v hv)

/-- A condition that tests for emptiness, with two edges from one port of which one dangles. -/
def dangling (first second : String) : Definition where
  id := "dangling"
  flow := {
    nodes := [
      { id := "a", type := some "condition",
        data := [("field", .text "x"), ("operator", .text "is_empty")] },
      { id := "b" }]
    edges := [
      { source := "a", target := first, port := some truePort },
      { source := "a", target := second, port := some truePort }] }

def danglingTrace (first second : String) : Option Trace :=
  trace? 9 (dangling first second) .null (.object []) (.int 0) {}

/-- Without the dangling edge the run is the same if that edge stands behind the live one. If it
stands before it, the run goes nowhere from the condition, and the pruned flow leads elsewhere. -/
theorem once_pruned_dangling :
    (once ((dangling "b" "ghost").through (dangling "b" "ghost").flow.pruned) .null (.object [])
        (.int 0)).perform {} =
      (once (dangling "b" "ghost") .null (.object []) (.int 0)).perform {} ∧
    ∃ t, Ran (dangling "ghost" "b") .null (.object []) (.int 0) {} t ∧ ∃ v ∈ t.visits,
      ¬v.LeadsAlike (dangling "ghost" "b") (dangling "ghost" "b").flow.pruned ∧
        v.next (dangling "ghost" "b") = [] := by
  constructor
  · let t := (danglingTrace "b" "ghost").get (by decide +kernel)
    have ht : Ran (dangling "b" "ghost") .null (.object []) (.int 0) {} t :=
      ran_of_trace? (Option.some_get _).symm
    have hno : ∀ v ∈ t.visits, ¬v.Shadowed (dangling "b" "ghost").flow := by decide +kernel
    obtain ⟨-, hsame⟩ := once_pruned (dangling "b" "ghost") .null (.object []) (.int 0) {}
    refine (hsame fun t' ht' => ?_).1
    rw [ran_unique ht' ht]
    exact hno
  · let t := (danglingTrace "ghost" "b").get (by decide +kernel)
    let v := t.visits.head (by decide +kernel)
    have ht : Ran (dangling "ghost" "b") .null (.object []) (.int 0) {} t :=
      ran_of_trace? (Option.some_get _).symm
    have hv : v ∈ t.visits := List.head_mem _
    have hs : v.Shadowed (dangling "ghost" "b").flow := by decide +kernel
    obtain ⟨hvisits, -⟩ := once_pruned (dangling "ghost" "b") .null (.object []) (.int 0) {}
    obtain ⟨hleads, hnext⟩ := hvisits t ht v hv
    exact ⟨t, ht, v, hv, fun h => hleads.mp h hs, hnext hs⟩

end Run

end CrmAutomation

import CrmAutomation.Proofs.Run.Reach
import CrmAutomation.Proofs.Run.Rerouting

/-!
Runs of a flow that was enlarged beside what a run comes to.

The order and the number of its edges say nothing about a flow in which a branch has one target. Nor
do nodes that nothing leads to, and edges that leave none of its nodes: a run never comes to them.
-/

namespace CrmAutomation

open Node

namespace Flow

/-- The flow has become another: behind its nodes stand new ones, which are no triggers, have ids of
their own, and are the target of no edge; its edges are all there, in any order and any number, and
what edges there are besides leave none of its nodes. -/
structure EnlargedTo (f g : Flow) : Prop where
  nodes : ∃ added, g.nodes = f.nodes ++ added ∧ ∀ n ∈ added,
    n.isTrigger = false ∧ (∀ m ∈ f.nodes, m.id ≠ n.id) ∧ ∀ edge ∈ f.edges, edge.target ≠ n.id
  kept : ∀ edge ∈ f.edges, edge ∈ g.edges
  edges : ∀ edge ∈ g.edges, edge ∈ f.edges ∨ ∀ m ∈ f.nodes, m.id ≠ edge.source

/-- The edges that leave a node from one port of a condition all have one target. -/
def Unforked (f : Flow) : Prop :=
  ∀ n ∈ f.nodes, ∀ holds, ∀ edge ∈ f.outgoing n.id, ∀ other ∈ f.outgoing n.id,
    edge.port = some (portFor holds) → other.port = some (portFor holds) →
      edge.target = other.target

variable {f g : Flow} {n : Node} {id port : String} {ids ids' : List String} {edge : Edge}
  {holds : Bool}

lemma targetAt?_eq_some (hedge : edge ∈ f.outgoing id) (hport : edge.port = some port)
    (hone : ∀ other ∈ f.outgoing id, other.port = some port → other.target = edge.target) :
    f.targetAt? id port = some edge.target := by
  unfold targetAt?
  rcases hfind : (f.outgoing id).find? (·.port == some port) with _ | other
  · have hno := List.find?_eq_none.mp hfind edge hedge
    simp [hport] at hno
  · have hother : other.port = some port := by simpa using List.find?_some hfind
    have htarget := hone other (List.mem_of_find?_eq_some hfind) hother
    rw [hfind, Option.map_some, htarget]

namespace EnlargedTo

variable (h : f.EnlargedTo g)
include h

lemma mem_outgoing_iff (hn : n ∈ f.nodes) :
    edge ∈ g.outgoing n.id ↔ edge ∈ f.outgoing n.id := by
  rw [mem_outgoing, mem_outgoing]
  constructor
  · rintro ⟨hedge, hsource⟩
    rcases h.edges edge hedge with hold | hnew
    · exact ⟨hold, hsource⟩
    · exact absurd hsource.symm (hnew n hn)
  · rintro ⟨hedge, hsource⟩
    exact ⟨h.kept edge hedge, hsource⟩

lemma starts (hne : f.nodes ≠ []) : g.starts = f.starts := by
  obtain ⟨added, hnodes, hadded⟩ := h.nodes
  have htriggers : g.nodes.filter (·.isTrigger) = f.nodes.filter (·.isTrigger) := by
    have hnone : added.filter (·.isTrigger) = [] :=
      List.filter_eq_nil_iff.mpr fun n hn => by simp [(hadded n hn).1]
    rw [hnodes, List.filter_append, hnone, List.append_nil]
  have hfirst : g.nodes.take 1 = f.nodes.take 1 := by
    have hlength : 1 ≤ f.nodes.length := List.length_pos_iff.mpr hne
    rw [hnodes, List.take_append_of_le_length hlength]
  unfold Flow.starts
  rw [htriggers, hfirst]

lemma nodesWithIds (hids : ∀ id, id ∈ ids' ↔ id ∈ ids)
    (hold : ∀ id ∈ ids, ∃ edge ∈ f.edges, edge.target = id) :
    g.nodesWithIds ids' = f.nodesWithIds ids := by
  obtain ⟨added, hnodes, hadded⟩ := h.nodes
  have hnone : added.filter (fun n => ids'.contains n.id) = [] := by
    refine List.filter_eq_nil_iff.mpr fun n hn hmem => ?_
    obtain ⟨edge, hedge, htarget⟩ := hold n.id ((hids _).mp (by simpa using hmem))
    exact (hadded n hn).2.2 edge hedge htarget
  have hsame : f.nodes.filter (fun n => ids'.contains n.id) =
      f.nodes.filter fun n => ids.contains n.id := by
    refine List.filter_congr fun n _ => ?_
    rw [Bool.eq_iff_iff, List.contains_iff_mem, List.contains_iff_mem, hids]
  unfold Flow.nodesWithIds
  rw [hnodes, List.filter_append, hnone, List.append_nil, hsame]

lemma successors_none (hn : n ∈ f.nodes) : g.successors n.id none = f.successors n.id none := by
  refine h.nodesWithIds (fun id => ?_) fun id hid => ?_
  · simp only [Option.getD_none, List.mem_map, h.mem_outgoing_iff hn]
  · obtain ⟨edge, hedge, rfl⟩ := List.mem_map.mp hid
    exact ⟨edge, (mem_outgoing.mp hedge).1, rfl⟩

lemma targetAt? (hu : f.Unforked) (hn : n ∈ f.nodes) (holds : Bool) :
    g.targetAt? n.id (portFor holds) = f.targetAt? n.id (portFor holds) := by
  rcases hf : f.targetAt? n.id (portFor holds) with _ | target
  · rcases hg : g.targetAt? n.id (portFor holds) with _ | target
    · rfl
    · obtain ⟨edge, hedge, hport, -⟩ := exists_of_targetAt? hg
      have hedge' := (h.mem_outgoing_iff hn).mp hedge
      have hfound := targetAt?_eq_some hedge' hport fun other hother hp =>
        hu n hn holds other hother edge hedge' hp hport
      rw [hf] at hfound
      cases hfound
  · obtain ⟨edge, hedge, hport, rfl⟩ := exists_of_targetAt? hf
    refine targetAt?_eq_some ((h.mem_outgoing_iff hn).mpr hedge) hport fun other hother hp => ?_
    exact hu n hn holds other ((h.mem_outgoing_iff hn).mp hother) edge hedge hp hport

lemma branch (hu : f.Unforked) (hn : n ∈ f.nodes) (holds : Bool) :
    branch g n.id holds = branch f n.id holds := by
  unfold Node.branch
  rw [h.targetAt? hu hn]

lemma successors_branch (hu : f.Unforked) (hn : n ∈ f.nodes) (holds : Bool) :
    g.successors n.id (some (Node.branch g n.id holds)) =
      f.successors n.id (some (Node.branch f n.id holds)) := by
  rw [h.branch hu hn]
  refine h.nodesWithIds (fun id => Iff.rfl) fun id hid => ?_
  rw [Option.getD_some] at hid
  unfold Node.branch at hid
  rcases hf : f.targetAt? n.id (portFor holds) with _ | target
  · simp [hf] at hid
  · obtain ⟨edge, hedge, -, rfl⟩ := exists_of_targetAt? hf
    have hid : id = edge.target := by
      rw [hf] at hid
      dsimp only at hid
      split at hid
      · cases hid
      · exact List.mem_singleton.mp hid
    exact ⟨edge, (mem_outgoing.mp hedge).1, hid.symm⟩

end EnlargedTo

end Flow

namespace Run

variable {d : Definition} {g : Flow} {e : Engine}

/-- **What a run does not come to** does not matter to it: a flow that is not empty and has one
target for each branch may get its edges in another order and repeated, further nodes that are no
triggers and that none of its edges leads to, and further edges that leave none of its nodes. From
every engine, the run comes to the same, leaves the same engine, and logs the same steps. -/
theorem once_enlarged (h : d.flow.EnlargedTo g) (hne : d.flow.nodes ≠ []) (hu : d.flow.Unforked)
    (event payload retryCount : Value) (e : Engine) :
    (once (d.through g) event payload retryCount).perform e =
        (once d event payload retryCount).perform e ∧
      ∀ t, Ran d event payload retryCount e t →
        ∃ t', Ran (d.through g) event payload retryCount e t' ∧ t.entries = t'.entries := by
  refine once_through (h.starts hne) fun t ht v hv => ?_
  have hn : v.node ∈ d.flow.nodes := mem_nodes_of_walks ht.walked (starts_subset d.flow) v hv
  have hchoice : v.result.next = v.node.choice d.flow v.run.scope :=
    choice_of_happens (happens_of_mem ht.walked v hv)
  unfold Visit.LeadsAlike Visit.next
  rw [hchoice]
  unfold Node.choice
  rcases v.node.verdict? v.run.scope with _ | holds
  · exact h.successors_none hn
  · exact h.successors_branch hu hn holds

/-- The flow of a condition with both branches, with the edges turned round and repeated, a further
node that leads into it, and an edge from nowhere. -/
def overgrown : Flow where
  nodes := (forked (.text "is_empty")).flow.nodes ++ [{ id := "x" }]
  edges := (forked (.text "is_empty")).flow.edges.reverse ++
    [{ source := "x", target := "c", port := some truePort },
      { source := "nowhere", target := "c" }] ++
    (forked (.text "is_empty")).flow.edges

/-- The condition leads to its one branch in both flows, and the further node is not executed. -/
theorem once_enlarged_overgrown :
    (once ((forked (.text "is_empty")).through overgrown) .null (.object []) (.int 0)).perform {} =
        (once (forked (.text "is_empty")) .null (.object []) (.int 0)).perform {} ∧
      ∃ t, Ran ((forked (.text "is_empty")).through overgrown) .null (.object []) (.int 0) {} t ∧
        t.entries.map (·.nodeId) = ["a", "b"] := by
  have hgrown : (forked (.text "is_empty")).flow.EnlargedTo overgrown := {
    nodes := ⟨[{ id := "x" }], rfl, by decide +kernel⟩
    kept := by decide +kernel
    edges := by decide +kernel }
  have hone : (forked (.text "is_empty")).flow.Unforked := by
    unfold Flow.Unforked
    decide +kernel
  obtain ⟨hsame, hentries⟩ := once_enlarged hgrown (by decide) hone .null (.object []) (.int 0) {}
  obtain ⟨t, ht, hlog⟩ := hentries emptyTested (ran_of_trace? (Option.some_get _).symm)
  refine ⟨hsame, t, ht, ?_⟩
  rw [← hlog]
  decide +kernel

end Run

end CrmAutomation

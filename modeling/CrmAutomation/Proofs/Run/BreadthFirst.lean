import CrmAutomation.Proofs.Run.Reach

/-!
The order in which a walk executes nodes.

The walk marks an id when its node leaves the queue, and may queue a node many times before. A
search that marks an id when its node enters the queue never queues an id twice. Both execute the
same nodes in the same order: what waits in the search is what waits in the walk, each id once and
at its first place.
-/

namespace CrmAutomation

namespace Flow

/-- A node that was executed, and what came of it. -/
abbrev Execution := Node × NodeResult

/-- What comes of executing a node after others. -/
abbrev Assignment := List Execution → Node → NodeResult

/-- The nodes whose ids are not marked, each marking its own id. -/
def firsts (marked : List String) : List Node → List Node
  | [] => []
  | n :: ns => if n.id ∈ marked then firsts marked ns else n :: firsts (n.id :: marked) ns

def ids (ns : List Node) : List String := ns.map (·.id)

@[simp] lemma ids_cons (n : Node) (ns : List Node) : ids (n :: ns) = n.id :: ids ns := rfl

lemma ids_append (ns ms : List Node) : ids (ns ++ ms) = ids ns ++ ids ms := List.map_append

section Firsts

variable {marked marked' : List String} {n : Node} {ns : List Node} {id : String}

lemma mem_ids_of_marked (h : n.id ∈ marked) :
    id ∈ ids (n :: ns) ++ marked ↔ id ∈ ids ns ++ marked := by
  simp only [ids_cons, List.cons_append, List.mem_cons, List.mem_append]
  constructor
  · rintro (rfl | h')
    · exact Or.inr h
    · exact h'
  · exact Or.inr

lemma firsts_of_mem (h : n.id ∈ marked) : firsts marked (n :: ns) = firsts marked ns := by
  rw [firsts, if_pos h]

lemma firsts_of_notMem (h : n.id ∉ marked) :
    firsts marked (n :: ns) = n :: firsts (n.id :: marked) ns := by
  rw [firsts, if_neg h]

lemma firsts_congr (h : ∀ id, id ∈ marked ↔ id ∈ marked') (ns : List Node) :
    firsts marked ns = firsts marked' ns := by
  induction ns generalizing marked marked' with
  | nil => rfl
  | cons n ns ih =>
    by_cases hn : n.id ∈ marked
    · rw [firsts_of_mem hn, firsts_of_mem ((h _).mp hn), ih h]
    · have hcons : ∀ id, id ∈ n.id :: marked ↔ id ∈ n.id :: marked' := by
        intro id
        rw [List.mem_cons, List.mem_cons, h]
      rw [firsts_of_notMem hn, firsts_of_notMem fun hn' => hn ((h _).mpr hn'), ih hcons]

lemma firsts_append (marked : List String) (ns ms : List Node) :
    firsts marked (ns ++ ms) = firsts marked ns ++ firsts (ids ns ++ marked) ms := by
  induction ns generalizing marked with
  | nil => rfl
  | cons n ns ih =>
    rw [List.cons_append]
    by_cases hn : n.id ∈ marked
    · rw [firsts_of_mem hn, firsts_of_mem hn, ih]
      exact congrArg _ (firsts_congr (fun _ => (mem_ids_of_marked hn).symm) ms)
    · rw [firsts_of_notMem hn, firsts_of_notMem hn, ih, List.cons_append]
      refine congrArg _ (congrArg _ (firsts_congr (fun id => ?_) ms))
      simp only [ids_cons, List.mem_append, List.cons_append, List.mem_cons]
      tauto

lemma firsts_filter (h : ∀ id ∈ marked', id ∈ marked) (ns : List Node) :
    firsts marked (ns.filter fun n => n.id ∉ marked') = firsts marked ns := by
  induction ns generalizing marked with
  | nil => rfl
  | cons n ns ih =>
    by_cases hn' : n.id ∈ marked'
    · rw [List.filter_cons_of_neg (by simpa using hn'), firsts_of_mem (h _ hn'), ih h]
    · rw [List.filter_cons_of_pos (by simpa using hn')]
      by_cases hn : n.id ∈ marked
      · rw [firsts_of_mem hn, firsts_of_mem hn, ih h]
      · rw [firsts_of_notMem hn, firsts_of_notMem hn,
          ih fun id hid => List.mem_cons_of_mem _ (h id hid)]

lemma firsts_sublist (marked : List String) (ns : List Node) : (firsts marked ns).Sublist ns := by
  induction ns generalizing marked with
  | nil => exact List.Sublist.slnil
  | cons n ns ih =>
    by_cases hn : n.id ∈ marked
    · rw [firsts_of_mem hn]
      exact (ih marked).cons n
    · rw [firsts_of_notMem hn]
      exact (ih _).cons_cons n

lemma notMem_of_mem_firsts (h : n ∈ firsts marked ns) : n.id ∉ marked := by
  induction ns generalizing marked with
  | nil => cases h
  | cons m ns ih =>
    by_cases hm : m.id ∈ marked
    · rw [firsts_of_mem hm] at h
      exact ih h
    · rw [firsts_of_notMem hm] at h
      rcases List.mem_cons.mp h with rfl | h
      · exact hm
      · exact fun hn => ih h (List.mem_cons_of_mem _ hn)

lemma mem_ids_firsts : id ∈ ids (firsts marked ns) ++ marked ↔ id ∈ ids ns ++ marked := by
  induction ns generalizing marked with
  | nil => rfl
  | cons n ns ih =>
    by_cases hn : n.id ∈ marked
    · rw [firsts_of_mem hn, ih, mem_ids_of_marked hn]
    · have h : id ∈ ids (firsts (n.id :: marked) ns) ++ n.id :: marked ↔
          id ∈ ids ns ++ n.id :: marked := ih
      rw [firsts_of_notMem hn]
      simp only [List.mem_append, ids_cons, List.cons_append, List.mem_cons] at h ⊢
      tauto

lemma mem_ids_filter :
    id ∈ ids (ns.filter fun n => n.id ∉ marked) ++ marked ↔ id ∈ ids ns ++ marked := by
  rw [List.mem_append, List.mem_append]
  refine or_congr_left' fun hid => ?_
  simp only [ids, List.mem_map, List.mem_filter, decide_eq_true_eq]
  constructor
  · rintro ⟨n, ⟨hn, -⟩, rfl⟩
    exact ⟨n, hn, rfl⟩
  · rintro ⟨n, hn, rfl⟩
    exact ⟨n, ⟨hn, hid⟩, rfl⟩

end Firsts

/-- The nodes of the flow that are not marked. -/
def unmarked (f : Flow) (marked : List String) : List Node := f.nodes.filter (·.id ∉ marked)

lemma length_unmarked_firsts {f : Flow} {ns : List Node} (h : ns.Sublist f.nodes)
    (marked : List String) :
    (f.unmarked (ids (firsts marked ns) ++ marked)).length + (firsts marked ns).length ≤
      (f.unmarked marked).length := by
  have hold : (firsts marked ns).filter (·.id ∉ marked) = firsts marked ns :=
    List.filter_eq_self.mpr fun n hn => decide_eq_true (notMem_of_mem_firsts hn)
  have hnew : (firsts marked ns).filter (·.id ∈ ids (firsts marked ns)) = firsts marked ns :=
    List.filter_eq_self.mpr fun n hn => decide_eq_true (List.mem_map_of_mem hn)
  have hsub : (firsts marked ns).Sublist
      ((f.unmarked marked).filter (·.id ∈ ids (firsts marked ns))) := by
    have hs := (((firsts_sublist marked ns).trans h).filter (·.id ∉ marked)).filter
      (·.id ∈ ids (firsts marked ns))
    rw [hold, hnew] at hs
    exact hs
  have hrest : f.unmarked (ids (firsts marked ns) ++ marked) =
      (f.unmarked marked).filter (·.id ∉ ids (firsts marked ns)) := by
    unfold unmarked
    rw [List.filter_filter]
    refine List.filter_congr fun n _ => ?_
    rw [Bool.eq_iff_iff]
    simp
  have hsplit := List.length_eq_length_filter_add (l := f.unmarked marked)
    (fun n => decide (n.id ∈ ids (firsts marked ns)))
  have hle := hsub.length_le
  simp only [← decide_not] at hsplit
  rw [hrest]
  omega

/-- The search goes on with the marked ids, what was executed, and what waits. An id is marked when
its node is put in the queue. -/
def search (f : Flow) (a : Assignment) (marked : List String) (done : List Execution) :
    List Node → List Execution
  | [] => done
  | n :: queue =>
    let result := a done n
    let next := firsts marked (f.successors n.id result.next)
    search f a (ids next ++ marked) (done ++ [(n, result)]) (queue ++ next)
termination_by queue => (f.unmarked marked).length + queue.length
decreasing_by
  have hsub : (f.successors n.id (a done n).next).Sublist f.nodes := List.filter_sublist
  have h := length_unmarked_firsts hsub marked
  simp only [List.length_append, List.length_cons]
  omega

/-- **Breadth-first search** from the starts of the flow. -/
def breadthFirst (f : Flow) (a : Assignment) : List Execution :=
  search f a (ids (firsts [] f.starts)) [] (firsts [] f.starts)

/-! ### The walk under an assignment -/

/-- A visit that takes its result from an assignment, and keeps it. -/
def assigned (f : Flow) (a : Assignment) (n : Node) :
    StateM (List Execution) (Except Value (List Node)) :=
  fun done => (.ok (f.successors n.id (a done n).next), done ++ [(n, a done n)])

/-- What the walk executes if nodes yield what an assignment says. -/
def executions (f : Flow) (a : Assignment) : List Execution :=
  ((walk (f.assigned a) f.nodes f.starts).run []).run.2

end Flow

namespace Run

open CrmAutomation.Flow hiding walk

variable {d : Definition} {event payload retryCount : Value} {e e' : Engine} {r r' : Run}
  {seen marked : List String} {n : Node} {queue : List Node} {vs : List Visit} {ending : Ending}
  {a : Assignment} {done : List Execution} {t : Trace}

lemma walk_assigned (h : n.id ∉ seen) (hn : n ∈ d.flow.nodes) (done : List Execution) :
    (Flow.walk (d.flow.assigned a) (unseen d seen) (n :: queue)).run done =
      (Flow.walk (d.flow.assigned a) (unseen d (n.id :: seen)) (queue ++
        (d.flow.successors n.id (a done n).next).filter fun m => m.id ∉ n.id :: seen)).run
          (done ++ [(n, a done n)]) := by
  have hnext : (d.flow.successors n.id (a done n).next).filter
      (fun m => awaits (unseen d (n.id :: seen)) m.id) =
        (d.flow.successors n.id (a done n).next).filter fun m => m.id ∉ n.id :: seen :=
    List.filter_congr fun m hm => awaits_unseen (mem_nodesWithIds.mp hm).1 _
  rw [walk_unseen _ h hn, StateT.run_bind, ← hnext]
  rfl

/-- What the search does when the walk comes to a node that is not seen yet: it executes the node,
and then waits for what the walk waits for. -/
lemma search_firsts (h : n.id ∉ seen)
    (hm : ∀ id, id ∈ marked ↔ id ∈ ids (n :: queue) ++ seen) (next : List Node) :
    firsts seen (n :: queue) = n :: firsts (n.id :: seen) queue ∧
      firsts (n.id :: seen) (queue ++ next.filter fun m => m.id ∉ n.id :: seen) =
        firsts (n.id :: seen) queue ++ firsts marked next ∧
      ∀ id, id ∈ ids (firsts marked next) ++ marked ↔
        id ∈ ids (queue ++ next.filter fun m => m.id ∉ n.id :: seen) ++ (n.id :: seen) := by
  refine ⟨firsts_of_notMem h, ?_, fun id => ?_⟩
  · have hsub : ∀ id ∈ n.id :: seen, id ∈ ids queue ++ (n.id :: seen) := fun id hid =>
      List.mem_append_right _ hid
    rw [firsts_append, firsts_filter hsub]
    refine congrArg _ (firsts_congr (fun id => ?_) next)
    rw [hm]
    simp only [ids_cons, List.cons_append, List.mem_cons, List.mem_append]
    tauto
  · have hf : id ∈ ids (next.filter fun m => m.id ∉ n.id :: seen) ++ n.id :: seen ↔
        id ∈ ids next ++ n.id :: seen := mem_ids_filter
    rw [mem_ids_firsts, List.mem_append, hm, ids_append, List.append_assoc, List.mem_append,
      List.mem_append (s := ids queue), hf]
    simp only [ids_cons, List.mem_cons, List.mem_append]
    tauto

/-- **The simulation**: the search waits for what the walk waits for, each id once. -/
lemma walk_eq_search (d : Definition) (a : Assignment) : ∀ (seen marked : List String)
    (done : List Execution) (queue : List Node), (∀ m ∈ queue, m ∈ d.flow.nodes) →
      (∀ id, id ∈ marked ↔ id ∈ ids queue ++ seen) →
      ((Flow.walk (d.flow.assigned a) (unseen d seen) queue).run done).run.2 =
        search d.flow a marked done (firsts seen queue)
  | _, _, _, [], _, _ => by
    rw [Flow.walk, firsts, search]
    rfl
  | seen, marked, done, n :: queue, hq, hm => by
    by_cases h : n.id ∈ seen
    -- a node that the walk drops here, the search did not put in its queue again
    · rw [walk_pass _ h (hq n List.mem_cons_self), firsts_of_mem h]
      exact walk_eq_search d a seen marked done queue
        (fun m hm => hq m (List.mem_cons_of_mem _ hm)) fun id =>
          (hm id).trans (mem_ids_of_marked h)
    · have hlt := length_unseen_lt h (hq n List.mem_cons_self)
      obtain ⟨hfirst, hrest, hmarked⟩ :=
        search_firsts h hm (d.flow.successors n.id (a done n).next)
      rw [walk_assigned h (hq n List.mem_cons_self), hfirst, search, ← hrest]
      refine walk_eq_search d a (n.id :: seen) _ _ _ (fun m hm => ?_) hmarked
      rcases List.mem_append.mp hm with hm | hm
      · exact hq m (List.mem_cons_of_mem _ hm)
      · exact (mem_nodesWithIds.mp (List.mem_filter.mp hm).1).1
termination_by seen _ _ queue => ((unseen d seen).length, queue.length)
decreasing_by
  · exact Prod.Lex.right _ (by simp)
  · exact Prod.Lex.left _ _ hlt

/-! ### The walk of a run -/

def Visit.execution (v : Visit) : Execution := (v.node, v.result)

/-- What a run executed, in order. -/
def Trace.executions (t : Trace) : List Execution := t.visits.map Visit.execution

/-- The assignment of a run: the node executed next yields what it yielded in the run. -/
def Trace.assignment (t : Trace) : Assignment := fun done _ =>
  match t.visits[done.length]? with
  | some v => v.result
  | none => .done []

lemma search_of_walks (hw : Walks d seen queue r e vs ending r' e') (hf : ending = .finished)
    (hm : ∀ id, id ∈ marked ↔ id ∈ ids queue ++ seen)
    (ha : ∀ i v, vs[i]? = some v →
      a (done ++ (vs.take i).map Visit.execution) v.node = v.result) :
    search d.flow a marked done (firsts seen queue) = done ++ vs.map Visit.execution := by
  -- along the walk: what is marked is what was seen or waits
  induction hw generalizing marked done with
  | done =>
    rw [firsts, search, List.map_nil, List.append_nil]
  | pass h _ ih =>
    rw [firsts_of_mem h]
    exact ih hf (fun id => (hm id).trans (mem_ids_of_marked h)) ha
  | @visit seen n queue _ _ v vs _ _ _ h hv _ _ ih =>
    have hres : a done n = v.result := by
      have h0 := ha 0 v rfl
      rw [List.take_zero, List.map_nil, List.append_nil, hv.node] at h0
      exact h0
    have hnext : d.flow.successors n.id (a done n).next = v.next d := by
      rw [hres, ← hv.node]
      rfl
    have hexec : (n, a done n) = v.execution := by
      rw [hres, ← hv.node]
      rfl
    obtain ⟨hfirst, hrest, hmarked⟩ := search_firsts h hm (v.next d)
    rw [hfirst, search, hnext, hexec, ← hrest]
    have hrestOf : ∀ i w, vs[i]? = some w →
        a ((done ++ [v.execution]) ++ (vs.take i).map Visit.execution) w.node = w.result := by
      intro i w hw
      have hs := ha (i + 1) w hw
      rw [List.take_succ_cons, List.map_cons] at hs
      rw [List.append_assoc]
      exact hs
    have hi := ih hf hmarked hrestOf
    rw [List.append_assoc] at hi
    exact hi
  | stop | raise => cases hf

lemma executions_of_ran (ht : Ran d event payload retryCount e t) (hf : t.ending = .finished) :
    t.executions = d.flow.breadthFirst t.assignment := by
  have hm : ∀ id, id ∈ ids (firsts [] d.flow.starts) ↔ id ∈ ids d.flow.starts ++ [] := by
    intro id
    rw [← mem_ids_firsts, List.append_nil]
  have ha : ∀ i v, t.visits[i]? = some v →
      t.assignment ([] ++ (t.visits.take i).map Visit.execution) v.node = v.result := by
    intro i v hv
    have hlen : ((t.visits.take i).map Visit.execution).length = i := by
      rw [List.length_map, List.length_take]
      have := (List.getElem?_eq_some_iff.mp hv).1
      omega
    unfold Trace.assignment
    rw [List.nil_append, hlen, hv]
  exact (search_of_walks ht.walked hf hm ha).symm

/-- **Marking late or early**: a walk, which marks an id when its node leaves the queue, executes
the nodes of a breadth-first search, which marks an id when its node enters the queue, in the order
of the search and with the same results. So it is for every assignment of results to executions,
and for every run whose walk finishes. -/
theorem walk_breadthFirst :
    (∀ (f : Flow) (a : Assignment), f.executions a = f.breadthFirst a) ∧
      ∀ d event payload retryCount e t, Ran d event payload retryCount e t →
        t.ending = .finished → t.executions = d.flow.breadthFirst t.assignment := by
  refine ⟨fun f a => ?_, fun d event payload retryCount e t ht hf => executions_of_ran ht hf⟩
  let d : Definition := { id := "", flow := f }
  have hm : ∀ id, id ∈ ids (firsts [] f.starts) ↔ id ∈ ids f.starts ++ [] := by
    intro id
    rw [← mem_ids_firsts, List.append_nil]
  have h := walk_eq_search d a [] _ [] d.flow.starts (starts_subset d.flow) hm
  rw [unseen_nil] at h
  exact h

theorem walk_breadthFirst_circular :
    circularTrace.ending = .finished ∧
      circularTrace.executions = circular.flow.breadthFirst circularTrace.assignment := by
  have ht : Ran circular .null (.object []) (.int 0) {} circularTrace :=
    ran_of_trace? (Option.some_get _).symm
  have hf : circularTrace.ending = .finished := by decide +kernel
  exact ⟨hf, walk_breadthFirst.2 _ _ _ _ _ _ ht hf⟩

end Run

end CrmAutomation

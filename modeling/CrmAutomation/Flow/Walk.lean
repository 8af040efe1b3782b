import CrmAutomation.Flow.Graph

/-!
The breadth-first walk over a flow.

The queue may hold a node many times; it is visited only the first time, when it leaves the queue,
and nodes already visited are not queued again. The walk keeps the nodes that are still unvisited,
and every visit makes them fewer.
-/

namespace CrmAutomation.Flow

/-- The nodes left after all with an id are visited. -/
def without (unvisited : List Node) (id : String) : List Node := unvisited.filter (·.id != id)

/-- Some node with the id is unvisited. -/
def awaits (unvisited : List Node) (id : String) : Bool := unvisited.any (·.id == id)

theorem length_without_lt {unvisited : List Node} {id : String} (h : awaits unvisited id = true) :
    (without unvisited id).length < unvisited.length := by
  obtain ⟨n, hn, hid⟩ := List.any_eq_true.1 h
  refine List.length_filter_lt_length_iff_exists.2 ⟨n, hn, ?_⟩
  simpa using hid

/-- Visits the queued nodes in turn. A visit yields the node's successors, or an error that ends
the walk. -/
def walk {m : Type → Type} [Monad m] {ε : Type} (visit : Node → m (Except ε (List Node)))
    (unvisited : List Node) : List Node → m (Option ε)
  | [] => pure none
  | n :: queue =>
    if awaits unvisited n.id then do
      match ← visit n with
      | .error e => pure (some e)
      | .ok next =>
        walk visit (without unvisited n.id)
          (queue ++ next.filter fun s => awaits (without unvisited n.id) s.id)
    else walk visit unvisited queue
termination_by queue => (unvisited.length, queue.length)
decreasing_by
  · exact Prod.Lex.left _ _ (length_without_lt ‹_›)
  · exact Prod.Lex.right _ (by simp)

end CrmAutomation.Flow

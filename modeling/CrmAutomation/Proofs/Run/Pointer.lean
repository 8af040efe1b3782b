import CrmAutomation.Proofs.Run.Moment
import CrmAutomation.Proofs.Run.Reach

/-!
The node that the record of a run points to.

The progress of a run writes the steps and the node executed last, but its outcome writes only the
steps. So the record points to the last of the steps that it lists until the outcome is taken; after
that it does only if the progress of the last node was taken before.
-/

namespace CrmAutomation

open EngineM Record

namespace Run

variable {d : Definition} {event payload retryCount : Value} {e : Engine} {v : Visit}
  {vs : List Visit} {t : Trace} {id : String} {row : Row} {h : Held} {m : Moment}
  {path : Visit → List Store}

/-- The id of the node that a listed step tells of. -/
def listedNode : Value → Value
  | .object fs => Fields.get fs "node_id"
  | _ => .null

/-- The record points to the node of the last step that it lists, and to nothing exactly if it lists
none. -/
def Points (row : Row) : Prop :=
  ∃ items current, row.find? "steps_executed" = some (.list items) ∧
    row.find? "current_step_id" = some current ∧
    (∀ item, items.getLast? = some item → current = listedNode item) ∧
    (current = .null ↔ items = [])

/-- The node of the last of the steps is the one executed last. -/
def Held.Aligned (h : Held) : Prop := h.node = h.steps.getLast?.map (·.nodeId)

lemma listedNode_of_tells {s : Step} {item : Value} (ht : s.Tells item) :
    listedNode item = .text s.nodeId := by
  obtain ⟨fs, rfl, hid, -⟩ := ht
  rw [listedNode, Fields.get, hid]
  rfl

lemma getLast?_of_forall₂ {α β : Type} {R : α → β → Prop} {xs : List α} {ys : List β}
    (h : List.Forall₂ R xs ys) :
    (xs = [] ∧ ys = []) ∨ ∃ x y, xs.getLast? = some x ∧ ys.getLast? = some y ∧ R x y := by
  induction h with
  | nil => exact Or.inl ⟨rfl, rfl⟩
  | @cons x y xs ys hxy _ ih =>
    rcases ih with ⟨rfl, rfl⟩ | ⟨a, b, ha, hb, hab⟩
    · exact Or.inr ⟨x, y, rfl, rfl, hxy⟩
    · exact Or.inr ⟨a, b, by rw [List.getLast?_cons, ha]; rfl, by rw [List.getLast?_cons, hb]; rfl,
        hab⟩

lemma points_iff (hs : Shows id m row) : Points row ↔ m.held.Aligned := by
  obtain ⟨items, hitems, htells⟩ := listsSteps_brings m.store m.held.steps
  have hlisted : row.find? "steps_executed" = some (.list items) := by rw [hs.steps, hitems]
  have hunique : Points row ↔
      (∀ item, items.getLast? = some item → Value.ofText? m.held.node = listedNode item) ∧
        (Value.ofText? m.held.node = .null ↔ items = []) := by
    constructor
    · rintro ⟨items', current, hl, hc, hlast, hnull⟩
      rw [hlisted] at hl
      rw [hs.current] at hc
      cases hl
      cases hc
      exact ⟨hlast, hnull⟩
    · exact fun ⟨hlast, hnull⟩ => ⟨items, _, hlisted, hs.current, hlast, hnull⟩
  rw [hunique]
  unfold Held.Aligned
  rcases getLast?_of_forall₂ htells with ⟨hx, rfl⟩ | ⟨s, item, hx, hy, ht⟩
  · rw [hx]
    rcases m.held.node with _ | node
    · simp [Value.ofText?]
    · simp [Value.ofText?]
  · have hne : items ≠ [] := by
      rintro rfl
      cases hy
    rw [hx, hy]
    rcases m.held.node with _ | node
    · simp [Value.ofText?, hne]
    · simp [Value.ofText?, hne, listedNode_of_tells ht]

/-! ### What is held -/

lemma aligned_holds (hh : h.Aligned) (v : Visit) : (v.holds h).Aligned := by
  unfold Visit.holds
  split
  · rfl
  · exact hh

lemma aligned_of_moments (path : Visit → List Store) (vs : List Visit) (hh : h.Aligned) :
    (∀ m ∈ moments path h vs, m.held.Aligned) ∧ (heldAfter h vs).Aligned := by
  induction vs generalizing h with
  | nil => exact ⟨by simp [moments], hh⟩
  | cons v vs ih =>
    obtain ⟨hms, hend⟩ := ih (aligned_holds hh v)
    exact ⟨forall_moments_cons.mpr ⟨fun _ _ => hh, aligned_holds hh v, hms⟩, hend⟩

lemma currentNode_outcome (v : Visit) : v.outcome.currentNode = some v.node.id := by
  show (v.run.steps ++ [v.step]).getLast?.map (·.nodeId) = _
  rw [List.getLast?_concat]
  rfl

/-- The node that is held is one of those visited. -/
lemma node_heldAfter {node : String} (hn : (heldAfter h vs).node = some node) :
    h.node = some node ∨ node ∈ vs.map (·.node.id) := by
  induction vs generalizing h with
  | nil => exact Or.inl hn
  | cons v vs ih =>
    rw [List.map_cons, List.mem_cons]
    rcases ih hn with hv | hv
    · have hv : (v.holds h).node = some node := hv
      unfold Visit.holds at hv
      split at hv
      · dsimp only at hv
        rw [currentNode_outcome] at hv
        cases hv
        exact Or.inr (Or.inl rfl)
      · exact Or.inl hv
    · exact Or.inr (Or.inr hv)

/-- What is held when the walk is over is of its last node exactly if the progress of that was
taken: no other node has its id. -/
lemma node_heldAfter_iff (ht : Ran d event payload retryCount e t) :
    (heldAfter {} t.visits).node = t.steps.getLast?.map (·.nodeId) ↔
      ∀ v, t.visits.getLast? = some v → v.Recorded := by
  have hnodup := nodup_of_walks ht.walked
  rw [steps_eq ht, List.getLast?_map, Option.map_map]
  rcases List.eq_nil_or_concat t.visits with hvs | ⟨vs, v, hvs⟩
  · rw [hvs]
    simp [heldAfter]
  · rw [List.concat_eq_append] at hvs
    rw [hvs] at hnodup ⊢
    rw [List.getLast?_concat, heldAfter, List.foldl_append]
    show (v.holds (heldAfter {} vs)).node = some v.node.id ↔ _
    unfold Visit.holds
    split
    · rename_i hrec
      refine ⟨fun _ w hw => ?_, fun _ => currentNode_outcome v⟩
      cases hw
      exact hrec
    · rename_i hrec
      -- the node that is held then is of an earlier visit, and ids are visited once
      refine ⟨fun hn => ?_, fun hall => absurd (hall v rfl) hrec⟩
      rw [List.map_append, List.map_singleton] at hnodup
      rcases node_heldAfter hn with hnone | hmem
      · cases hnone
      · exact absurd (List.mem_singleton_self _)
          ((List.disjoint_of_nodup_append hnodup) hmem)

lemma aligned_closing_iff (ht : Ran d event payload retryCount e t) :
    (t.closing d).held.Aligned ↔
      (t.Closes d → ∀ v, t.visits.getLast? = some v → v.Recorded) := by
  unfold Trace.closing
  dsimp only
  split
  · rename_i hc
    rw [← node_heldAfter_iff ht]
    exact ⟨fun h _ => h, fun h => h hc⟩
  · rename_i hc
    have hstart : Held.Aligned {} := rfl
    have hend := (aligned_of_moments (fun _ => []) t.visits hstart).2
    exact ⟨fun _ h => absurd h hc, fun _ => hend⟩

/-- **The node that the record points to**, in a run whose nodes write to other tables: before the
attempt to write the outcome, the record points to the last of the steps that it lists, at every
moment and whichever updates failed. The record that the run leaves does so unless the store took
the outcome and refused the progress of the last node. -/
theorem pointer_at_moments (hs : e.store.Steady executionsTable)
    (ht : Ran d event payload retryCount e t)
    (hfresh : ∀ row ∈ e.store.rows executionsTable, row.get "id" ≠ .text t.first.id)
    (hp : t.Through path) :
    (∀ m ∈ t.during path, ∃ record,
      m.store.rows executionsTable = e.store.rows executionsTable ++ [record] ∧ Points record) ∧
      ((∀ n f, t.ending ≠ .raised n f) → ∃ record,
        ((once d event payload retryCount).perform e).2.store.rows executionsTable =
            e.store.rows executionsTable ++ [record] ∧
          (Points record ↔
            (t.Closes d → ∀ v, t.visits.getLast? = some v → v.Recorded))) := by
  obtain ⟨hduring, hclosing⟩ := kept_of_ran hs ht hfresh hp (d := d)
  constructor
  · intro m hm
    obtain ⟨record, hrows, hshows⟩ := hduring m hm
    refine ⟨record, hrows, (points_iff hshows).mpr ?_⟩
    have hstart : Held.Aligned {} := rfl
    have haligned : ∀ m ∈ t.during path, m.held.Aligned :=
      List.forall_mem_cons.mpr ⟨hstart, (aligned_of_moments path t.visits hstart).1⟩
    exact haligned m hm
  · intro hy
    obtain ⟨record, hrows, hshows⟩ := hclosing
    rw [closing_of_once hs ht hy]
    exact ⟨record, hrows, (points_iff hshows).trans (aligned_closing_iff ht)⟩

/-- The store takes the progress of the first node and refuses that of the second. The record lists
both in the end, and points to the first. -/
theorem pointer_at_moments_tasked :
    ∃ t, Ran tasked .null (.object []) (.int 0) (hinderedEngine 1) t ∧ ∃ record : Row,
      ((once tasked .null (.object []) (.int 0)).perform (hinderedEngine 1)).2.store.rows
        executionsTable = [record] ∧ ¬Points record := by
  let t := (hinderedTrace 1).get (by decide +kernel)
  have ht : Ran tasked .null (.object []) (.int 0) (hinderedEngine 1) t :=
    ran_of_trace? (Option.some_get _).symm
  have hend : t.ending = .finished := by decide +kernel
  obtain ⟨path, hp⟩ := exists_through ht (by decide +kernel)
  obtain ⟨record, hrows, hpoints⟩ := (pointer_at_moments (by unfold Store.Steady; decide +kernel) ht
    (by decide +kernel) hp).2 (by rw [hend]; exact fun _ _ h => by cases h)
  refine ⟨t, ht, record, hrows, fun h => ?_⟩
  have hlast : t.visits.getLast?.map (fun v => decide v.Recorded) = some false := by decide +kernel
  obtain ⟨v, hv, hrec⟩ := Option.map_eq_some_iff.mp hlast
  exact of_decide_eq_false hrec (hpoints.mp h (by decide +kernel) v hv)

end Run

end CrmAutomation

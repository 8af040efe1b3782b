import CrmAutomation.Proofs.Node.Outcome
import CrmAutomation.Proofs.Run.Trace
import CrmAutomation.Proofs.Run.Write
import Mathlib.Logic.Relation

/-!
What a run does to the store, whatever comes of it.

A run makes its record, writes the progress of its nodes to it, and may write its outcome at last.
In between its nodes do what they ask the store for. No other operation is done, be it that the run
returns, that a write fails, or that a node fails outside of its result.
-/

namespace CrmAutomation

open EngineM Record Relation

/-- What the node asks for in a scope writes to other tables only. -/
def Node.Avoids (node : Node) (scope : Scope) (table : String) : Prop :=
  ∀ a ∈ node.asks scope, a.1 = .select ∨ a.2 ≠ table

namespace Run

/-- What takes the store on while a run is in progress: an operation that writes to a table of a
class at most, or an attempt to write the progress. -/
inductive Works (writes : String → Prop) (id : String) : Store → Store → Prop
  | other {s k} (h : Store.Moves writes s k) : Works writes id s k
  | progress (s) (r : Run) (h : r.id = id) :
      Works writes id s (s.update executionsTable r.progressPatch (ownRecord id)).2

/-- The nodes that a walk came to, each with the scope that it found. -/
def encounters (vs : List Visit) (ending : Ending) (last : Run) : List (Node × Scope) :=
  vs.map (fun v => (v.node, v.run.scope)) ++ match ending with
    | .raised n _ => [(n, last.scope)]
    | .finished | .stopped _ => []

/-- The nodes write to tables of a class at most, each in the scope that it found. -/
def Within (writes : String → Prop) (ws : List (Node × Scope)) : Prop :=
  ∀ w ∈ ws, ∀ a ∈ w.1.asks w.2, a.1 = .select ∨ writes a.2

/-- No node that the run came to writes to the table. -/
def Trace.Avoids (t : Trace) (table : String) : Prop :=
  ∀ w ∈ encounters t.visits t.ending t.last, w.1.Avoids w.2 table

instance (t : Trace) (table : String) : Decidable (t.Avoids table) :=
  inferInstanceAs (Decidable (∀ w ∈ encounters t.visits t.ending t.last,
    ∀ a ∈ w.1.asks w.2, a.1 = .select ∨ a.2 ≠ table))

variable {d : Definition} {event payload retryCount : Value} {e e' : Engine} {n : Node}
  {r r' : Run} {v : Visit} {f : Failure} {seen : List String} {queue : List Node}
  {vs : List Visit} {ending : Ending} {t : Trace} {id : String} {s s' : Store} {ss : List Store}
  {writes : String → Prop}

lemma within_of_avoids {table : String} (h : t.Avoids table) :
    Within (· ≠ table) (encounters t.visits t.ending t.last) := h

lemma forall_encounters_cons {P : Node × Scope → Prop} :
    (∀ w ∈ encounters (v :: vs) ending r', P w) ↔
      P (v.node, v.run.scope) ∧ ∀ w ∈ encounters vs ending r', P w :=
  List.forall_mem_cons

lemma works_of_passes (h : Store.Passes writes s ss s') :
    ReflTransGen (Works writes id) s s' := by
  induction h with
  | still => exact .refl
  | move h _ ih => exact .head (.other h) ih

lemma works_of_execute (ha : ∀ a ∈ n.asks r.scope, a.1 = .select ∨ writes a.2) (e : Engine) :
    ReflTransGen (Works writes id) e.store ((n.execute d.flow r.scope).perform e).2.store := by
  obtain ⟨ss, h⟩ := Node.keeps_execute (frame_passes writes) n d.flow r.scope ha e
  exact works_of_passes h

lemma works_of_recordProgress (r : Run) (e : Engine) :
    Works writes r.id e.store ((recordProgress r).perform e).2.store := by
  rw [recordProgress_eq, store_write]
  exact .progress _ r rfl

lemma works_of_happens (hv : v.Happens d n r e)
    (ha : ∀ a ∈ n.asks r.scope, a.1 = .select ∨ writes a.2) :
    ReflTransGen (Works writes r.id) e.store (v.left d).store := by
  have hx : ReflTransGen (Works writes r.id) e.store
      ((n.execute d.flow r.scope).perform e).2.store := works_of_execute ha e
  have hr : Works writes v.outcome.id v.after.store
      ((recordProgress v.outcome).perform v.after).2.store := works_of_recordProgress _ _
  rw [hv.executed] at hx
  rw [hv.recorded, id_outcome hv] at hr
  rw [store_left]
  exact hx.tail hr

lemma works_of_raises (hx : (execute d n r).perform e = (.error f, e'))
    (ha : ∀ a ∈ n.asks r.scope, a.1 = .select ∨ writes a.2) :
    ReflTransGen (Works writes r.id) e.store e'.store := by
  have hw : ReflTransGen (Works writes r.id) e.store
      ((n.execute d.flow r.scope).perform e).2.store := works_of_execute ha e
  unfold execute at hx
  rw [perform_bind_of_ok (perform_now _)] at hx
  rcases perform_bind_error.mp hx with hx | ⟨result, after, hok, hx⟩
  · rw [hx] at hw
    exact hw
  · rw [hok] at hw
    rw [perform_bind_of_ok (perform_now _)] at hx
    dsimp only at hx
    rcases perform_bind_error.mp hx with hx | ⟨⟨⟩, k, -, hx⟩
    · have hr : Works writes _ after.store _ := works_of_recordProgress
        (r.push ⟨n.id, n.typeName, e.clock, after.clock, result⟩) after
      rw [hx, id_push] at hr
      exact hw.tail hr
    · cases hx

lemma works_of_walks (hw : Walks d seen queue r e vs ending r' e')
    (ha : Within writes (encounters vs ending r')) :
    ReflTransGen (Works writes r.id) e.store e'.store := by
  induction hw with
  | done => exact .refl
  | pass _ _ ih => exact ih ha
  | visit _ hv _ _ ih =>
    obtain ⟨hn, hrest⟩ := forall_encounters_cons.mp ha
    rw [hv.node, hv.run] at hn
    have hnext := ih hrest
    rw [id_outcome hv] at hnext
    exact (works_of_happens hv hn).trans hnext
  | stop _ hv =>
    obtain ⟨hn, -⟩ := forall_encounters_cons.mp ha
    rw [hv.node, hv.run] at hn
    exact works_of_happens hv hn
  | raise _ hx => exact works_of_raises hx (ha _ List.mem_cons_self)

lemma works_of_ran (ht : Ran d event payload retryCount e t)
    (ha : Within writes (encounters t.visits t.ending t.last)) :
    ReflTransGen (Works writes t.first.id) t.made.store t.walked.store := by
  have h : ReflTransGen (Works writes t.first.id) t.begun.store t.walked.store :=
    works_of_walks ht.walked ha
  exact h

/-! ### The whole run -/

/-- What comes of a run, and the engine after it, in terms of its trace. -/
def Trace.outcome (d : Definition) (t : Trace) : Except Failure RunResult × Engine :=
  match t.ending with
  | .raised _ f => (.error f, { t.walked with run := t.made.run })
  | .finished | .stopped _ =>
    match (finalize t.last (t.status d) (t.error d)).perform t.walked with
    | (.ok (), closed) => (.ok (t.result d), { closed with run := t.made.run })
    | (.error f, closed) => (.error f, { closed with run := t.made.run })

lemma outcome_of_yields (h : ∀ n f, t.ending ≠ .raised n f) :
    t.outcome d =
      match (finalize t.last (t.status d) (t.error d)).perform t.walked with
      | (.ok (), closed) => (.ok (t.result d), { closed with run := t.made.run })
      | (.error f, closed) => (.error f, { closed with run := t.made.run }) := by
  unfold Trace.outcome
  split
  · rename_i n f he
    exact absurd he (h n f)
  · rfl
  · rfl

lemma once_of_ran (ht : Ran d event payload retryCount e t) :
    (once d event payload retryCount).perform e = t.outcome d := by
  by_cases hr : ∃ n f, t.ending = .raised n f
  · obtain ⟨n, f, hr⟩ := hr
    rw [once_error_iff.mpr (Or.inr ⟨t, ht, Or.inl ⟨n, hr, rfl⟩⟩), Trace.outcome, hr]
  · have hy : ∀ n f, t.ending ≠ .raised n f := fun n f h => hr ⟨n, f, h⟩
    rw [outcome_of_yields hy]
    rcases hx : (finalize t.last (t.status d) (t.error d)).perform t.walked with ⟨f | ⟨⟩, closed⟩
    · exact once_error_iff.mpr (Or.inr ⟨t, ht, Or.inr ⟨closed, hy, hx, rfl⟩⟩)
    · exact once_of_returned ht ⟨hy, hx⟩

/-- The store when the outcome was written, or the attempt failed. -/
def Trace.closed (d : Definition) (t : Trace) : Store :=
  (t.walked.store.update executionsTable
    (t.last.outcomePatch (t.status d) (t.error d) t.walked.clock) (ownRecord t.first.id)).2

lemma store_of_finalize (ht : Ran d event payload retryCount e t) :
    ((finalize t.last (t.status d) (t.error d)).perform t.walked).2.store = t.closed d := by
  have hid : t.last.id = t.first.id := id_of_walks ht.walked
  rw [store_finalize, hid]
  rfl

lemma store_of_ran (ht : Ran d event payload retryCount e t) :
    ((once d event payload retryCount).perform e).2.store = t.walked.store ∨
      ((once d event payload retryCount).perform e).2.store = t.closed d := by
  rw [once_of_ran ht, ← store_of_finalize ht]
  unfold Trace.outcome
  split
  · exact Or.inl rfl
  all_goals
    right
    rcases (finalize t.last (t.status d) (t.error d)).perform t.walked with ⟨f | ⟨⟩, closed⟩
    · rfl
    · rfl

lemma store_of_unlaunched
    (h : ∀ t, ¬Ran d event payload retryCount e t) :
    ((once d event payload retryCount).perform e).2.store = e.store ∨
      ∃ given r, Payload.fields payload = .ok given ∧
        e.store.insert e.clock executionsTable (startRow d event given retryCount e.clock) =
          (.error r, ((once d event payload retryCount).perform e).2.store) := by
  rcases hp : Payload.fields payload with g | given
  · left
    rw [once_error_iff.mpr (Or.inl (launch_of_unreadable hp))]
  · right
    have hl : (launch d event payload retryCount).perform e = _ := launch_of_fields hp
    rcases hi : e.store.insert e.clock executionsTable (startRow d event given retryCount e.clock)
      with ⟨g | row, s⟩
    · rw [hi] at hl
      cases g with
      | fault g =>
        rw [once_of_refused hl]
        exact ⟨given, _, rfl, hi⟩
      | program text =>
        rw [once_error_iff.mpr (Or.inl hl)]
        exact ⟨given, _, rfl, hi⟩
      | hugeKey =>
        rw [once_error_iff.mpr (Or.inl hl)]
        exact ⟨given, _, rfl, hi⟩
    · rw [hi] at hl
      obtain ⟨t, ht, -, -⟩ := exists_ran hl
      exact absurd ht (h t)

/-! ### The operations of a run -/

lemma moves_of_works (hexec : writes executionsTable) (h : Works writes id s s') :
    Store.Moves writes s s' := by
  cases h with
  | other h => exact h
  | progress r h => exact .update _ _ _ _ hexec

lemma passes_of_path (hexec : writes executionsTable) (h : ReflTransGen (Works writes id) s s') :
    ∃ ss, Store.Passes writes s ss s' := by
  induction h with
  | refl => exact ⟨[], .still⟩
  | tail _ h ih =>
    obtain ⟨ss, hss⟩ := ih
    exact ⟨_, hss.append (.one (moves_of_works hexec h))⟩

lemma passes_of_ran (hexec : writes executionsTable) (ht : Ran d event payload retryCount e t)
    (ha : Within writes (encounters t.visits t.ending t.last)) :
    ∃ ss, Store.Passes writes t.made.store ss
      ((once d event payload retryCount).perform e).2.store := by
  obtain ⟨ss, hss⟩ := passes_of_path hexec (works_of_ran ht ha)
  rcases store_of_ran ht with hs | hs
  · rw [hs]
    exact ⟨ss, hss⟩
  · rw [hs]
    exact ⟨_, hss.append (.one (.update _ _ _ _ hexec))⟩

end Run

end CrmAutomation

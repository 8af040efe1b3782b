import CrmAutomation.Proofs.Run.BreadthFirst
import CrmAutomation.Proofs.Run.Moment
import CrmAutomation.Proofs.Store.Twins

/-!
Runs whose records cannot be updated.

A run never looks at its record, and goes on in the same way whether or not the store takes an
update of it. So two engines that differ only in the table of executions, and in which updates of it
fail, make the same run as long as no node of it asks for that table.
-/

namespace CrmAutomation

open EngineM Record

/-- Two engines that differ at most in the table of executions, in which updates of it fail, and in
what they logged. -/
structure Engine.Twins (e k : Engine) : Prop where
  settings : e.settings = k.settings
  clock : e.clock = k.clock
  mail : e.mail = k.mail
  looksUpSender : e.looksUpSender = k.looksUpSender
  run : e.run = k.run
  store : e.store.Twins executionsTable k.store
  steady : e.store.Steady executionsTable
  steady' : k.store.Steady executionsTable

variable {e k : Engine}

namespace Engine.Twins

lemma storing {s s' : Store} (h : e.Twins k) (hs : s.Twins executionsTable s')
    (hsteady : s.Steady executionsTable) (hsteady' : s'.Steady executionsTable) :
    Engine.Twins { e with store := s } { k with store := s' } :=
  ⟨h.settings, h.clock, h.mail, h.looksUpSender, h.run, hs, hsteady, hsteady'⟩

lemma journaling (h : e.Twins k) (i j : List JournalEntry) :
    Engine.Twins { e with journal := i } { k with journal := j } :=
  ⟨h.settings, h.clock, h.mail, h.looksUpSender, h.run, h.store, h.steady, h.steady'⟩

lemma running (h : e.Twins k) (run : Option RunIdentity) :
    Engine.Twins { e with run } { k with run } :=
  ⟨h.settings, h.clock, h.mail, h.looksUpSender, rfl, h.store, h.steady, h.steady'⟩

end Engine.Twins

lemma matches_of_meet {α : Type} {op : Store → Store.Outcome α}
    (hmeet : ∀ s s', Store.Twins executionsTable s s' → Store.Meet executionsTable (op s) (op s'))
    (hsteady : ∀ s, s.Steady executionsTable → (op s).2.Steady executionsTable) :
    Matches Engine.Twins op := by
  intro e k h
  obtain ⟨r, s, s', he, hk, hs⟩ := hmeet e.store k.store h.store
  have hse := hsteady e.store h.steady
  have hsk := hsteady k.store h.steady'
  rw [he] at hse
  rw [hk] at hsk
  exact ⟨r, s, s', he, hk, h.storing hs hse hsk⟩

lemma lockstep_twins :
    Lockstep (fun op table => op = .insert ∨ table ≠ executionsTable) Engine.Twins where
  settings h := h.settings
  looksUpSender h := h.looksUpSender
  clock h := h.clock
  notingAll _ h := h.journaling _ _
  wait ms h := ⟨h.settings, by rw [h.clock], h.mail, h.looksUpSender, h.run, h.store, h.steady,
    h.steady'⟩
  insert t table row _ := matches_of_meet (fun _ _ hs => Store.meet_insert hs)
    fun _ hs => Store.plans_insert (Store.lasting_steady _) hs
  update table fields fs ha := matches_of_meet
    (fun _ _ hs => Store.meet_update hs (ha.resolve_left (by simp)))
    fun _ hs => Store.plans_update (Store.lasting_steady _) hs
  select table q ha := matches_of_meet
    (fun _ _ hs => Store.meet_select hs (ha.resolve_left (by simp)) q)
    fun _ hs => Store.plans_select (Store.lasting_steady _) hs q

lemma postsMatch_twins : PostsMatch Engine.Twins := by
  intro e k p h
  have hm : k.mail.post p = e.mail.post p := by rw [h.mail]
  exact ⟨_, _, _, rfl, hm, h.settings, h.clock, rfl, h.looksUpSender, h.run, h.store, h.steady,
    h.steady'⟩

namespace Run

variable {d : Definition} {event payload retryCount : Value} {e' k' : Engine} {n : Node}
  {r r' : Run} {v w : Visit} {seen : List String} {queue : List Node} {vs ws : List Visit}
  {ending : Ending} {t t' : Trace}

/-! ### Writes of the run -/

/-- Twins go on as twins after a write, whether or not the store takes it. -/
lemma does_write (patch : Fields) (id event : String) :
    Does Engine.Twins (fun _ => True) (write patch id event) where
  meets {e k} h := by
    obtain ⟨e', he, hse⟩ := write_returns h.steady patch id event
    obtain ⟨k', hk, hsk⟩ := write_returns h.steady' patch id event
    refine ⟨.ok (), e', k', he, hk, ?_⟩
    obtain ⟨i, hi⟩ := write_leaves patch id event e
    obtain ⟨j, hj⟩ := write_leaves patch id event k
    rw [he] at hi
    rw [hk] at hj
    dsimp only at hi hj
    rw [hi] at hse ⊢
    rw [hj] at hsk ⊢
    exact (h.storing (Store.twins_update h.store patch (ownRecord id)) hse hsk).journaling i j
  yields _ := trivial
  fails {e f e'} h := by
    rw [perform_write] at h
    rcases hu : e.store.update executionsTable patch (ownRecord id) with ⟨r | n, s⟩
    · rw [hu] at h
      cases r with
      | fault g => cases h
      | program text | hugeKey =>
        cases h
        exact Value.isJson_text _
    · rw [hu] at h
      cases h

lemma does_finalize (r : Run) (status : RunStatus) (error : Option Value) :
    Does Engine.Twins (fun _ => True) (finalize r status error) :=
  does_bind (does_now lockstep_twins) fun _ _ =>
    does_bind (does_write _ _ _) fun _ _ => does_log lockstep_twins _ _

lemma does_launch (d : Definition) (event payload retryCount : Value) :
    Does Engine.Twins (fun _ => True) (launch d event payload retryCount) := by
  refine does_bind (does_now lockstep_twins) fun startedAt _ => ?_
  refine does_bind (does_ofExcept _ _) fun given _ => ?_
  refine does_onStorageFault ?_ fun f => does_pure trivial
  refine does_bind (does_insert lockstep_twins (Or.inl rfl) _) fun row _ => ?_
  exact does_bind (does_now lockstep_twins) fun t _ => does_pure trivial

lemma does_proceed (d : Definition) (n : Node) (result : NodeResult) :
    Does Engine.Twins (fun _ => True) (proceed d n result) := by
  unfold proceed
  dsimp only
  split
  · exact does_pure trivial
  · split
    · exact does_bind (does_log lockstep_twins _ _) fun _ _ => does_pure trivial
    · exact does_bind (does_log lockstep_twins _ _) fun _ _ => does_pure trivial

/-! ### Walks -/

/-- Two visits of a node with the same result, by engines that are twins throughout. -/
structure Visit.Twins (v w : Visit) : Prop where
  node : v.node = w.node
  run : v.run = w.run
  result : v.result = w.result
  before : v.before.Twins w.before
  after : v.after.Twins w.after
  settled : v.settled.Twins w.settled

namespace Visit.Twins

lemma step (h : v.Twins w) : v.step = w.step := by
  unfold Visit.step
  rw [h.node, h.result, h.before.clock, h.after.clock]

lemma outcome (h : v.Twins w) : v.outcome = w.outcome := by
  unfold Visit.outcome
  rw [h.run, h.step]

lemma queued (h : v.Twins w) (d : Definition) (seen : List String) :
    v.queued d seen = w.queued d seen := by
  unfold Visit.queued Visit.next
  rw [h.node, h.result]

lemma left (h : v.Twins w) (d : Definition) : (v.left d).Twins (w.left d) := by
  obtain ⟨x, e', k', he, hk, h'⟩ := (does_proceed d v.node v.result).meets h.settled
  unfold Visit.left
  rw [← h.node, ← h.result, he, hk]
  exact h'

end Visit.Twins

lemma happens_twins (hv : v.Happens d n r e) (h : e.Twins k)
    (ha : ∀ a ∈ n.asks r.scope, a.2 ≠ executionsTable) :
    ∃ w : Visit, w.Happens d n r k ∧ v.Twins w := by
  have hnode := Node.does_execute lockstep_twins n d.flow r.scope (fun _ _ => postsMatch_twins)
    fun a h => Or.inr (ha a h)
  obtain ⟨x, after, after', he, hk, hafter⟩ := hnode.meets h
  rw [hv.executed] at he
  cases he
  have hwrite : Does Engine.Twins (fun _ => True) (recordProgress v.outcome) := does_write _ _ _
  obtain ⟨y, settled, settled', he', hk', hsettled⟩ := hwrite.meets hafter
  rw [hv.recorded] at he'
  cases he'
  have htwins : v.Twins ⟨n, r, k, v.result, after', settled'⟩ :=
    ⟨hv.node, hv.run, rfl, by rw [hv.before]; exact h, hafter, hsettled⟩
  rw [htwins.outcome] at hk'
  exact ⟨_, ⟨rfl, rfl, rfl, hk, hk'⟩, htwins⟩

lemma raises_twins {f : Failure} (hx : (execute d n r).perform e = (.error f, e'))
    (h : e.Twins k) : ∃ k', (execute d n r).perform k = (.error f, k') ∧ e'.Twins k' := by
  obtain ⟨⟨g, hg⟩, rfl⟩ := unreadable_of_raises h.steady hx
  refine ⟨k, ?_, h⟩
  -- the node cannot be read, whatever the engine
  have hraise : ∀ e₀ : Engine, (execute d n r).perform e₀ =
      (.error (.crash (.malformed (.nodeForm g))), e₀) := by
    intro e₀
    unfold execute
    rw [perform_bind_of_ok (perform_now _)]
    exact perform_bind_of_error (Node.execute_error_iff.mpr ⟨g, hg, rfl, rfl⟩)
  rw [hraise] at hx ⊢
  cases hx
  rfl

/-- **The simulation**: twins walk in the same way, visit by visit. -/
lemma walks_twins (hw : Walks d seen queue r e vs ending r' e') (h : e.Twins k)
    (ha : ∀ v ∈ vs, ∀ a ∈ v.node.asks v.run.scope, a.2 ≠ executionsTable) :
    ∃ ws k', Walks d seen queue r k ws ending r' k' ∧ List.Forall₂ Visit.Twins vs ws ∧
      e'.Twins k' := by
  -- along the walk: the same ids are seen, the same nodes wait, and the engines are twins
  induction hw generalizing k with
  | done => exact ⟨[], k, .done, .nil, h⟩
  | pass hn _ ih =>
    obtain ⟨ws, k', hws, hvs, h'⟩ := ih h ha
    exact ⟨ws, k', .pass hn hws, hvs, h'⟩
  | @visit seen n queue _ _ v _ _ _ _ hn hv hg _ ih =>
    rw [List.forall_mem_cons] at ha
    have hav := ha.1
    rw [hv.node, hv.run] at hav
    obtain ⟨w, hw, hvw⟩ := happens_twins hv h hav
    obtain ⟨ws, k', hws, hvs, h'⟩ := ih (hvw.left d) ha.2
    rw [hvw.outcome, hvw.queued] at hws
    refine ⟨w :: ws, k', .visit hn hw (fun hp => ?_) hws, .cons hvw hvs, h'⟩
    rw [← hvw.result]
    exact hg hp
  | @stop _ _ _ _ _ v _ hn hv hf hp =>
    have hav := ha v List.mem_cons_self
    rw [hv.node, hv.run] at hav
    obtain ⟨w, hw, hvw⟩ := happens_twins hv h hav
    rw [hvw.result] at hf
    rw [hvw.outcome]
    exact ⟨[w], _, .stop hn hw hf hp, .cons hvw .nil, hvw.left d⟩
  | raise hn hx =>
    obtain ⟨k', hx', h'⟩ := raises_twins hx h
    exact ⟨[], k', .raise hn hx', .nil, h'⟩

/-! ### Runs -/

structure Trace.Twins (t t' : Trace) : Prop where
  first : t.first = t'.first
  visits : List.Forall₂ Visit.Twins t.visits t'.visits
  ending : t.ending = t'.ending
  last : t.last = t'.last
  walked : t.walked.Twins t'.walked
  run : t.made.run = t'.made.run

lemma ran_twins (ht : Ran d event payload retryCount e t) (h : e.Twins k)
    (ha : ∀ v ∈ t.visits, ∀ a ∈ v.node.asks v.run.scope, a.2 ≠ executionsTable) :
    ∃ t', Ran d event payload retryCount k t' ∧ t.Twins t' := by
  obtain ⟨x, made, made', he, hk, hmade⟩ := (does_launch d event payload retryCount).meets h
  rw [ht.launched] at he
  cases he
  have hbegun := lockstep_twins.notingAll [⟨.info, "Starting workflow execution"⟩]
    (hmade.running (some t.first.identity))
  obtain ⟨ws, k', hw, hvs, h'⟩ := walks_twins ht.walked hbegun ha
  exact ⟨⟨t.first, made', ws, t.ending, t.last, k'⟩, ⟨hk, hw⟩, rfl, hvs, rfl, rfl, h', hmade.run⟩

lemma once_twins (h : e.Twins k)
    (ha : ∀ t, Ran d event payload retryCount e t →
      ∀ v ∈ t.visits, ∀ a ∈ v.node.asks v.run.scope, a.2 ≠ executionsTable) :
    ∃ x e' k', (once d event payload retryCount).perform e = (x, e') ∧
      (once d event payload retryCount).perform k = (x, k') ∧ e'.Twins k' := by
  obtain ⟨x, made, made', he, hk, hmade⟩ := (does_launch d event payload retryCount).meets h
  rcases x with f | f | r
  · exact ⟨.error f, made, made', once_error_iff.mpr (Or.inl he), once_error_iff.mpr (Or.inl hk),
      hmade⟩
  · exact ⟨_, _, _, once_of_refused he, once_of_refused hk,
      lockstep_twins.notingAll [⟨.error, "Failed to create execution record"⟩] hmade⟩
  · obtain ⟨t, ht, rfl, rfl⟩ := exists_ran he
    obtain ⟨t', ht', htt⟩ := ran_twins ht h (ha t ht)
    by_cases hr : ∃ n f, t.ending = .raised n f
    · obtain ⟨n, f, hr⟩ := hr
      have hr' : t'.ending = .raised n f := htt.ending ▸ hr
      refine ⟨.error f, _, _, once_error_iff.mpr (Or.inr ⟨t, ht, Or.inl ⟨n, hr, rfl⟩⟩),
        once_error_iff.mpr (Or.inr ⟨t', ht', Or.inl ⟨n, hr', rfl⟩⟩), ?_⟩
      rw [← htt.run]
      exact htt.walked.running _
    · have hy : ∀ n f, t.ending ≠ .raised n f := fun n f hn => hr ⟨n, f, hn⟩
      have hy' : ∀ n f, t'.ending ≠ .raised n f := htt.ending ▸ hy
      have herror : t.error d = t'.error d := by
        unfold Trace.error
        rw [htt.ending]
      have hresult : t.result d = t'.result d := by
        unfold Trace.result
        rw [htt.first, herror]
      have hstatus : t.status d = t'.status d := by
        unfold Trace.status
        rw [hresult]
      obtain ⟨y, closed, closed', hc, hc', hclosed⟩ :=
        (does_finalize t.last (t.status d) (t.error d)).meets htt.walked
      obtain ⟨_, hok, -⟩ := finalize_returns htt.walked.steady t.last (t.status d) (t.error d)
      rw [hok] at hc
      cases hc
      have hret := once_of_returned ht ⟨hy, hok⟩
      rw [htt.last, hstatus, herror] at hc'
      have hret' := once_of_returned ht' ⟨hy', hc'⟩
      rw [← hresult, ← htt.run] at hret'
      exact ⟨_, _, _, hret, hret', hclosed.running _⟩

lemma executions_twins (hvs : List.Forall₂ Visit.Twins vs ws) :
    vs.map Visit.execution = ws.map Visit.execution := by
  induction hvs with
  | nil => rfl
  | cons hvw _ ih =>
    rw [List.map_cons, List.map_cons, ih]
    unfold Visit.execution
    rw [hvw.node, hvw.result]

end Run

/-- The engine with other failures planned. -/
def Engine.planning (e : Engine) (ps : List Store.PlannedFault) : Engine :=
  { e with store := { e.store with planned := ps } }

lemma twins_planning {ps qs : List Store.PlannedFault}
    (hps : (e.planning ps).store.Steady executionsTable)
    (hqs : (e.planning qs).store.Steady executionsTable)
    (hpq : Store.PlannedFault.AgreeBut .update executionsTable ps qs) :
    (e.planning ps).Twins (e.planning qs) :=
  ⟨rfl, rfl, rfl, rfl, rfl, ⟨.refl _ _, rfl, hpq⟩, hps, hqs⟩

namespace Run

variable {d : Definition} {event payload retryCount : Value} {ps qs : List Store.PlannedFault}

/-- **Independence of the record**: which updates of its record fail makes no difference to a run
whose nodes do not ask for the table of executions. Under any two plans that differ in nothing else,
the run comes to the same result, posts the same mail, leaves the same rows in every other table,
and executes the same nodes with the same results in the same order. -/
theorem once_independent (hps : (e.planning ps).store.Steady executionsTable)
    (hqs : (e.planning qs).store.Steady executionsTable)
    (hpq : Store.PlannedFault.AgreeBut .update executionsTable ps qs)
    (ha : ∀ t, Ran d event payload retryCount (e.planning ps) t →
      ∀ v ∈ t.visits, ∀ a ∈ v.node.asks v.run.scope, a.2 ≠ executionsTable) :
    (∃ x e' k', (once d event payload retryCount).perform (e.planning ps) = (x, e') ∧
      (once d event payload retryCount).perform (e.planning qs) = (x, k') ∧
      e'.mail = k'.mail ∧
      ∀ table, table ≠ executionsTable → e'.store.rows table = k'.store.rows table) ∧
    ∀ t, Ran d event payload retryCount (e.planning ps) t →
      ∃ t', Ran d event payload retryCount (e.planning qs) t' ∧
        t.executions = t'.executions ∧ t.steps = t'.steps ∧ t.ending = t'.ending := by
  have htwins := twins_planning hps hqs hpq
  constructor
  · obtain ⟨x, e', k', he, hk, h⟩ := once_twins htwins ha
    exact ⟨x, e', k', he, hk, h.mail, fun table ht => h.store.rows ht⟩
  · intro t ht
    obtain ⟨t', ht', htt⟩ := ran_twins ht htwins (ha t ht)
    exact ⟨t', ht', executions_twins htt.visits, congrArg Run.steps htt.last, htt.ending⟩

theorem once_independent_tasked :
    ∃ x e' k', (once tasked .null (.object []) (.int 0)).perform (hinderedEngine 0) = (x, e') ∧
      (once tasked .null (.object []) (.int 0)).perform {} = (x, k') ∧
      ∀ table, table ≠ executionsTable → e'.store.rows table = k'.store.rows table := by
  let t := (hinderedTrace 0).get (by decide +kernel)
  have ht : Ran tasked .null (.object []) (.int 0) (hinderedEngine 0) t :=
    ran_of_trace? (Option.some_get _).symm
  have hpq : Store.PlannedFault.AgreeBut .update executionsTable
      ([hindrance 0] ++ []) ([] ++ []) :=
    Store.PlannedFault.agreeBut_append (by decide) (by decide) (by decide)
  have hps : (Engine.planning {} [hindrance 0]).store.Steady executionsTable := by
    unfold Store.Steady
    decide +kernel
  have hqs : (Engine.planning {} []).store.Steady executionsTable := by
    intro p hp
    cases hp
  obtain ⟨⟨x, e', k', he, hk, -, hrows⟩, -⟩ := once_independent hps hqs hpq fun t' ht' => by
    rw [ran_unique ht' ht]
    decide +kernel
  exact ⟨x, e', k', he, hk, hrows⟩

end Run

end CrmAutomation

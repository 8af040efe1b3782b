import CrmAutomation.Proofs.Node.Outcome
import CrmAutomation.Proofs.Run.Trace
import CrmAutomation.Proofs.Run.Write

/-!
What escapes from a run, and what it leaves behind.

Around an orderly store everything that goes wrong in a run stays inside it, but for two things: a
payload that cannot be read, before the record is made, and a node whose authored form cannot be
read, afterwards. The second leaves a record that says that the run is in progress.
-/

namespace CrmAutomation

open EngineM Record

namespace Run

variable {d : Definition} {event payload retryCount : Value} {e e' : Engine} {n : Node}
  {r r' : Run} {v : Visit} {f : Failure} {seen : List String} {queue : List Node}
  {vs : List Visit} {ending : Ending} {t : Trace}

/-! ### What a node can raise -/

lemma steady_execute {result : NodeResult} (hs : e.store.Steady executionsTable)
    (hx : (n.execute d.flow r.scope).perform e = (.ok result, e')) :
    e'.store.Steady executionsTable := by
  have h := Node.keeps_execute (frame_steady executionsTable) n d.flow r.scope
    (fun _ _ => Or.inr trivial) e hs
  rw [hx] at h
  exact h

lemma keeps_of_happens {R : Engine → Engine → Prop} (hR : Frame (fun _ => True) R)
    (hv : v.Happens d n r e) : R e v.settled := by
  have hx := Node.keeps_execute hR n d.flow r.scope (fun _ _ => Or.inr trivial) e
  obtain ⟨journal, hw⟩ := write_leaves v.outcome.progressPatch v.outcome.id
    "Failed to record execution progress" v.after
  rw [hv.executed] at hx
  rw [← recordProgress_eq, hv.recorded] at hw
  dsimp only at hw
  rw [hw]
  exact hR.trans _ _ _ hx (hR.trans _ _ _ (hR.update v.after _ _ _ trivial) (hR.journal _ _))

lemma steady_of_happens (hv : v.Happens d n r e) (hs : e.store.Steady executionsTable) :
    v.settled.store.Steady executionsTable :=
  keeps_of_happens (frame_steady executionsTable) hv hs

lemma readable_of_happens (hv : v.Happens d n r e) : ¬v.node.Unreadable := by
  rintro ⟨g, hg⟩
  rw [hv.node] at hg
  have hx : (n.execute d.flow r.scope).perform e =
      (.error (.crash (.malformed (.nodeForm g))), e) :=
    Node.execute_error_iff.mpr ⟨g, hg, rfl, rfl⟩
  rw [hv.executed] at hx
  cases hx

/-- Around a steady store, only a node that cannot be read fails outside of its result; then
nothing was done. -/
lemma unreadable_of_raises (hs : e.store.Steady executionsTable)
    (hx : (execute d n r).perform e = (.error f, e')) : n.Unreadable ∧ e' = e := by
  unfold execute at hx
  rw [perform_bind_of_ok (perform_now _)] at hx
  rcases perform_bind_error.mp hx with hx | ⟨result, after, hok, hx⟩
  · obtain ⟨g, hg, -, he⟩ := Node.execute_error_iff.mp hx
    exact ⟨⟨g, hg⟩, he⟩
  · have ha := steady_execute hs hok
    rw [perform_bind_of_ok (perform_now _)] at hx
    dsimp only at hx
    obtain ⟨k, hk, -⟩ := write_returns ha _ _ "Failed to record execution progress"
    rw [recordProgress_eq, perform_bind_of_ok hk] at hx
    cases hx

/-! ### What a walk can raise -/

lemma steady_of_walks (hw : Walks d seen queue r e vs ending r' e')
    (hs : e.store.Steady executionsTable) :
    e'.store.Steady executionsTable := by
  induction hw with
  | done => exact hs
  | pass _ _ ih => exact ih hs
  | visit _ hv _ _ ih => exact ih (by rw [store_left]; exact steady_of_happens hv hs)
  | stop _ hv => rw [store_left]; exact steady_of_happens hv hs
  | raise _ hx => rw [(unreadable_of_raises hs hx).2]; exact hs

lemma readable_of_walks (hw : Walks d seen queue r e vs ending r' e') :
    ∀ v ∈ vs, ¬v.node.Unreadable := by
  induction hw with
  | done | raise => simp
  | pass _ _ ih => exact ih
  | visit _ hv _ _ ih => exact List.forall_mem_cons.mpr ⟨readable_of_happens hv, ih⟩
  | stop _ hv => exact List.forall_mem_cons.mpr ⟨readable_of_happens hv, by simp⟩

lemma unreadable_of_walks (hw : Walks d seen queue r e vs ending r' e')
    (hs : e.store.Steady executionsTable) (he : ending = .raised n f) : n.Unreadable := by
  induction hw with
  | done | stop => cases he
  | pass _ _ ih => exact ih hs he
  | visit _ hv _ _ ih => exact ih (by rw [store_left]; exact steady_of_happens hv hs) he
  | raise _ hx => cases he; exact (unreadable_of_raises hs hx).1

lemma steady_made (h : Ran d event payload retryCount e t) (hs : e.store.Steady executionsTable) :
    t.made.store.Steady executionsTable := by
  obtain ⟨given, row, s, -, hi, -, hk⟩ := launch_made h.launched
  have ho : (e.store.insert e.clock executionsTable
      (startRow d event given retryCount e.clock)).2.Steady executionsTable :=
    Store.plans_insert (Store.lasting_steady _) hs
  rw [hi] at ho
  rw [hk]
  exact ho

lemma raised_iff (h : Ran d event payload retryCount e t) (hs : e.store.Steady executionsTable) :
    (∃ n f, t.ending = .raised n f) ↔ ∃ n ∈ t.nodes, n.Unreadable := by
  constructor
  · rintro ⟨n, f, he⟩
    refine ⟨n, ?_, unreadable_of_walks h.walked (steady_made h hs) he⟩
    simp [Trace.nodes, he]
  · rintro ⟨n, hn, hu⟩
    rcases List.mem_append.mp hn with hn | hn
    · obtain ⟨v, hv, rfl⟩ := List.mem_map.mp hn
      exact absurd hu (readable_of_walks h.walked v hv)
    · rcases he : t.ending with _ | error | ⟨m, f⟩
      · simp [he] at hn
      · simp [he] at hn
      · exact ⟨m, f, rfl⟩

lemma finalize_not_raises (ht : Ran d event payload retryCount e t)
    (hs : e.store.Steady executionsTable) (closed : Engine) :
    (finalize t.last (t.status d) (t.error d)).perform t.walked ≠ (.error f, closed) := by
  have ho := steady_of_walks ht.walked (steady_made ht hs)
  obtain ⟨k, hk, -⟩ := finalize_returns ho t.last (t.status d) (t.error d)
  rw [hk]
  intro h
  cases h

lemma once_raises_iff (hs : e.store.Orderly) :
    (∃ g e', (once d event payload retryCount).perform e = (.error g, e')) ↔
      (∃ f, Payload.fields payload = .error f) ∨
        ∃ t, Ran d event payload retryCount e t ∧ ∃ n ∈ t.nodes, n.Unreadable := by
  constructor
  · rintro ⟨g, e', h⟩
    rcases once_error_iff.mp h with hl | ⟨t, ht, ⟨n, he, -⟩ | ⟨closed, -, hf, -⟩⟩
    · exact Or.inl ((launch_error_iff hs).mp ⟨g, e', hl⟩)
    · exact Or.inr ⟨t, ht, (raised_iff ht (hs.steady _)).mp ⟨n, g, he⟩⟩
    · exact absurd hf (finalize_not_raises ht (hs.steady _) closed)
  · rintro (hp | ⟨t, ht, hn⟩)
    · obtain ⟨g, k, hl⟩ := (launch_error_iff hs).mpr hp
      exact ⟨g, k, once_error_iff.mpr (Or.inl hl)⟩
    · obtain ⟨n, f, he⟩ := (raised_iff ht (hs.steady _)).mpr hn
      exact ⟨f, _, once_error_iff.mpr (Or.inr ⟨t, ht, Or.inl ⟨n, he, rfl⟩⟩)⟩

/-! ### Whatever the store does -/

lemma crash_of_refusal {g : Store.Refusal} (h : ∀ f, g ≠ .fault f) :
    ∃ c, g.failure = .crash c := by
  cases g with
  | fault f => exact absurd rfl (h f)
  | program text => exact ⟨_, rfl⟩
  | hugeKey => exact ⟨_, rfl⟩

lemma crash_of_write {patch : Fields} {id event : String}
    (h : (write patch id event).perform e = (.error f, e')) : ∃ c, f = .crash c := by
  rw [perform_write] at h
  split at h
  · cases h
  · cases h
  · rename_i hfault _
    cases h
    exact crash_of_refusal hfault

lemma crash_of_execute (h : (execute d n r).perform e = (.error f, e')) : ∃ c, f = .crash c := by
  unfold execute at h
  rw [perform_bind_of_ok (perform_now _)] at h
  rcases perform_bind_error.mp h with h | ⟨result, after, -, h⟩
  · obtain ⟨g, -, rfl, -⟩ := Node.execute_error_iff.mp h
    exact ⟨_, rfl⟩
  · rw [perform_bind_of_ok (perform_now _)] at h
    dsimp only at h
    rcases perform_bind_error.mp h with h | ⟨⟨⟩, k, -, h⟩
    · exact crash_of_write h
    · cases h

lemma crash_of_walks (hw : Walks d seen queue r e vs ending r' e')
    (he : ending = .raised n f) : ∃ c, f = .crash c := by
  induction hw with
  | done | stop => cases he
  | pass _ _ ih => exact ih he
  | visit _ _ _ _ ih => exact ih he
  | raise _ hx =>
    cases he
    exact crash_of_execute hx

lemma crash_of_launch (h : (launch d event payload retryCount).perform e = (.error f, e')) :
    ∃ c, f = .crash c := by
  rcases hp : Payload.fields payload with g | given
  · rw [launch_of_unreadable hp] at h
    cases h
    exact ⟨_, rfl⟩
  · rw [launch_of_fields hp] at h
    split at h
    · cases h
    · cases h
    · rename_i hfault _
      cases h
      exact crash_of_refusal hfault

lemma crash_of_once (h : (once d event payload retryCount).perform e = (.error f, e')) :
    ∃ c, f = .crash c := by
  rcases once_error_iff.mp h with hl | ⟨t, ht, ⟨n, he, -⟩ | ⟨closed, -, hf, -⟩⟩
  · exact crash_of_launch hl
  · exact crash_of_walks ht.walked he
  · rw [finalize_eq] at hf
    rcases perform_bind_error.mp hf with hf | ⟨⟨⟩, k, -, hf⟩
    · exact crash_of_write hf
    · cases hf

/-! ### What a run leaves -/

/-- No node that the run executed changed a row of the table of executions. -/
def Trace.Spares (t : Trace) : Prop :=
  ∀ v ∈ t.visits, v.after.store.rows executionsTable = v.before.store.rows executionsTable

/-- The store takes the outcome of the run. -/
def Trace.Closes (d : Definition) (t : Trace) : Prop :=
  ∃ s, Takes t.walked.store (t.last.outcomePatch (t.status d) (t.error d) t.walked.clock)
    t.last.id s

lemma closes_iff {d : Definition} {t : Trace} {patch : Fields}
    (hp : t.last.outcomePatch (t.status d) (t.error d) t.walked.clock = patch) :
    t.Closes d ↔ Takes t.walked.store patch t.last.id
      (t.walked.store.update executionsTable patch (ownRecord t.last.id)).2 := by
  unfold Trace.Closes
  rw [hp]
  constructor
  · rintro ⟨s, n, hn⟩
    rw [hn]
    exact ⟨n, hn⟩
  · exact fun h => ⟨_, h⟩

/-- At a place in the table stands the record of a run, in a state. -/
def StandsAs (id : String) (place : ℕ) (status : RunStatus) (s : Store) : Prop :=
  ∃ row, (s.rows executionsTable)[place]? = some row ∧ Records id row ∧
    row.find? "status" = some status.value

variable {id : String} {place : ℕ} {status : RunStatus}

/-- At a place in the table stands the record of a run, with a text under a key. -/
def Says (id : String) (place : ℕ) (key text : String) (s : Store) : Prop :=
  ∃ row, (s.rows executionsTable)[place]? = some row ∧ Records id row ∧
    row.find? key = some (.text text)

lemma says_recordProgress {key text : String} (hk : r.progressPatch.find? key = none)
    (h : Says r.id place key text e.store) (hx : (recordProgress r).perform e = (.ok (), e')) :
    Says r.id place key text e'.store := by
  obtain ⟨row, hrow, hr, hst⟩ := h
  rcases write_cases hx with ht | hrows
  · refine ⟨_, getElem?_of_takes ht hrow hr,
      records_overwrite hr (plain_progressPatch r) rfl _, ?_⟩
    rw [Store.find?_overwrite_other hr.plain (plain_progressPatch r) hk]
    · exact hst
    · intro w hw
      rw [hst] at hw
      cases hw
      exact Value.isJson_text _
  · exact ⟨row, by rw [hrows]; exact hrow, hr, hst⟩

lemma says_of_happens {key text : String}
    (hk : v.outcome.progressPatch.find? key = none) (hv : v.Happens d n r e)
    (hsp : v.after.store.rows executionsTable = v.before.store.rows executionsTable)
    (h : Says r.id place key text e.store) : Says r.id place key text (v.left d).store := by
  have ha : Says v.outcome.id place key text v.after.store := by
    rw [id_outcome hv]
    unfold Says at h ⊢
    rw [hsp, hv.before]
    exact h
  rw [store_left, ← id_outcome hv]
  exact says_recordProgress hk ha hv.recorded

lemma standsAs_of_happens (hv : v.Happens d n r e)
    (hsp : v.after.store.rows executionsTable = v.before.store.rows executionsTable)
    (h : StandsAs r.id place status e.store) : StandsAs r.id place status (v.left d).store :=
  says_of_happens rfl hv hsp h

lemma standsAs_of_walks (hw : Walks d seen queue r e vs ending r' e')
    (hs : e.store.Steady executionsTable)
    (hsp : ∀ v ∈ vs, v.after.store.rows executionsTable = v.before.store.rows executionsTable)
    (h : StandsAs r.id place status e.store) : StandsAs r.id place status e'.store := by
  induction hw with
  | done => exact h
  | pass _ _ ih => exact ih hs hsp h
  | @visit _ _ _ r _ v _ _ _ _ _ hv _ _ ih =>
    rw [List.forall_mem_cons] at hsp
    have hnext := standsAs_of_happens hv hsp.1 h
    rw [← id_outcome hv] at hnext ⊢
    exact ih (by rw [store_left]; exact steady_of_happens hv hs) hsp.2 hnext
  | stop _ hv => exact standsAs_of_happens hv (hsp _ List.mem_cons_self) h
  | raise _ hx => rw [(unreadable_of_raises hs hx).2]; exact h

lemma running_of_ran (h : Ran d event payload retryCount e t) (hs : e.store.Steady executionsTable)
    (hsp : t.Spares) :
    StandsAs t.first.id (e.store.rows executionsTable).length .running t.walked.store := by
  refine standsAs_of_walks h.walked (steady_made h hs) hsp ?_
  obtain ⟨row, hrows, hrow⟩ := record_of_launch h.launched
  refine ⟨row, ?_, hrow.toRecords, hrow.status⟩
  show (t.made.store.rows executionsTable)[_]? = _
  rw [hrows, List.getElem?_concat_length]

lemma store_of_takes {s : Store} {closed : Engine} (hr : Returned d t closed)
    (hs : Takes t.walked.store (t.last.outcomePatch (t.status d) (t.error d) t.walked.clock)
      t.last.id s) : closed.store = s := by
  have hf := hr.finalized
  rw [finalize_eq, perform_bind_of_ok (write_of_takes hs _)] at hf
  cases hf
  rfl

lemma standsAs_of_closes (h : StandsAs t.last.id place status t.walked.store) (hc : t.Closes d)
    {closed : Engine} (hr : Returned d t closed) :
    StandsAs t.last.id place (t.status d) closed.store := by
  obtain ⟨s, hs⟩ := hc
  rw [store_of_takes hr hs]
  obtain ⟨row, hrow, hr, -⟩ := h
  have hp := plain_outcomePatch t.last (t.status d) (t.error d) t.walked.clock
  have hid := find?_outcomePatch t.last (t.status d) (t.error d) t.walked.clock
    (show ("id" : Key) ≠ "error_message" by decide)
  refine ⟨_, getElem?_of_takes hs hrow hr, records_overwrite hr hp hid _, ?_⟩
  refine Store.find?_overwrite_text hr.plain hp ?_
  rw [find?_outcomePatch _ _ _ _ (by decide)]
  rfl

lemma status_cases (d : Definition) (t : Trace) :
    t.status d = .completed ∨ t.status d = .failed := by
  unfold Trace.status Trace.result resultOf
  dsimp only
  split
  · exact Or.inr rfl
  · exact Or.inl rfl

/-- A run whose nodes write to other tables spares the records. -/
theorem spares_of_asks (h : Ran d event payload retryCount e t)
    (ha : ∀ v ∈ t.visits, ∀ a ∈ v.node.asks v.run.scope, a.1 = .select ∨ a.2 ≠ executionsTable) :
    t.Spares := by
  intro v hv
  have hk := Node.keeps_execute (frame_rows executionsTable) v.node d.flow v.run.scope (ha v hv)
    v.before
  rw [(happens_of_mem h.walked v hv).executed] at hk
  exact hk

/-- **The boundary around a run**: around an orderly store a run raises exactly if its payload
cannot be read or it comes to a node whose authored form cannot be read. If the nodes spare the
table of executions and the store takes the outcome, the record of a run that returns says that the
run is completed or failed; the record of a run that raises says that it is still in progress. -/
theorem once_boundary (hs : e.store.Orderly) :
    ((∃ g e', (once d event payload retryCount).perform e = (.error g, e')) ↔
      (∃ f, Payload.fields payload = .error f) ∨
        ∃ t, Ran d event payload retryCount e t ∧ ∃ n ∈ t.nodes, n.Unreadable) ∧
    ∀ t, Ran d event payload retryCount e t → t.Spares →
      (∀ result e', (once d event payload retryCount).perform e = (.ok result, e') →
        t.Closes d → ∃ status, (status = .completed ∨ status = .failed) ∧
          StandsAs result.execution (e.store.rows executionsTable).length status e'.store) ∧
      ∀ g e', (once d event payload retryCount).perform e = (.error g, e') →
        StandsAs t.first.id (e.store.rows executionsTable).length .running e'.store := by
  refine ⟨once_raises_iff hs, fun t ht hsp => ?_⟩
  have hrun := running_of_ran ht (hs.steady _) hsp
  have hid : t.last.id = t.first.id := id_of_walks ht.walked
  constructor
  · intro result e' h hc
    obtain ⟨closed, hr, rfl, rfl⟩ := returned_of_once ht h
    rw [← hid] at hrun
    have hst := standsAs_of_closes hrun hc hr
    rw [hid] at hst
    exact ⟨t.status d, status_cases d t, hst⟩
  · intro g e' h
    rcases once_error_iff.mp h with hl | ⟨t', ht', ⟨n, -, rfl⟩ | ⟨closed, -, hf, -⟩⟩
    · rw [ht.launched] at hl
      cases hl
    · cases ran_unique ht ht'
      exact hrun
    · exact absurd hf (finalize_not_raises ht' (hs.steady _) closed)

/-- One node, an action whose configuration is a text. -/
def misconfigured : Definition where
  id := "misconfigured"
  flow := { nodes := [{ id := "a", type := some "action", data := [("config", .text "x")] }] }

def misconfiguredTrace : Trace :=
  (trace? 9 misconfigured .null (.object []) (.int 0) {}).get (by decide +kernel)

lemma ran_misconfigured :
    Ran misconfigured .null (.object []) (.int 0) {} misconfiguredTrace :=
  ran_of_trace? (Option.some_get _).symm

theorem once_boundary_misconfigured :
    (∃ g e', (once misconfigured .null (.object []) (.int 0)).perform {} = (.error g, e')) ∧
      ∀ g e', (once misconfigured .null (.object []) (.int 0)).perform {} = (.error g, e') →
        StandsAs misconfiguredTrace.first.id 0 .running e'.store := by
  have hs : ({} : Engine).store.Orderly := by
    intro p hp
    cases hp
  obtain ⟨hraises, hleaves⟩ := once_boundary (d := misconfigured) hs
  have hvisits : misconfiguredTrace.visits = [] := by decide +kernel
  constructor
  · let a := misconfigured.flow.nodes.head (by decide)
    have ha : a ∈ misconfiguredTrace.nodes := by decide +kernel
    exact hraises.mpr (Or.inr ⟨_, ran_misconfigured, a, ha, _, rfl⟩)
  · refine (hleaves _ ran_misconfigured fun v hv => ?_).2
    rw [hvisits] at hv
    cases hv

end Run

end CrmAutomation

import CrmAutomation.Proofs.Run.Record

/-!
One run under several error policies.

The policy is looked at only after a node has failed, when its step is written. So two runs that
differ in nothing else agree visit by visit until then; there the policy to stop ends the one, and
the other goes on.
-/

namespace CrmAutomation

open EngineM Record Workflow

def Definition.under (d : Definition) (p : ErrorPolicy) : Definition :=
  { d with errorHandling := p }

@[simp] lemma Definition.errorHandling_under (d : Definition) (p : ErrorPolicy) :
    (d.under p).errorHandling = p := rfl

namespace Run

variable {d : Definition} {event payload retryCount : Value} {e e' : Engine} {n : Node}
  {r r' : Run} {v : Visit} {seen : List String} {queue : List Node} {vs : List Visit}
  {ending : Ending} {t : Trace} {p : ErrorPolicy}

/-! ### Lists through a first element -/

/-- The elements through the first of a kind, all if there is none. -/
def throughFirst {α : Type} (p : α → Bool) : List α → List α
  | [] => []
  | a :: as => if p a then [a] else a :: throughFirst p as

section Lists

variable {α β : Type} {q : α → Bool} {as : List α} {a : α}

lemma throughFirst_map (f : β → α) (bs : List β) :
    throughFirst q (bs.map f) = (throughFirst (fun b => q (f b)) bs).map f := by
  induction bs with
  | nil => rfl
  | cons b bs ih =>
    rw [List.map_cons, throughFirst, throughFirst]
    split
    · rfl
    · rw [List.map_cons, ih]

lemma take_length_throughFirst (q : α → Bool) (as : List α) :
    as.take (throughFirst q as).length = throughFirst q as := by
  induction as with
  | nil => rfl
  | cons a as ih =>
    rw [throughFirst]
    split
    · rfl
    · rw [List.length_cons, List.take_succ_cons, ih]

lemma length_of_getElem?_throughFirst {i : ℕ} (h : (throughFirst q as)[i]? = some a)
    (ha : q a = true) : i + 1 = (throughFirst q as).length := by
  induction as generalizing i with
  | nil => cases h
  | cons b as ih =>
    rw [throughFirst] at h ⊢
    split
    · rename_i hb
      rw [if_pos hb] at h
      rcases i with _ | i
      · rfl
      · cases h
    · rename_i hb
      rw [if_neg hb] at h
      rcases i with _ | i
      · cases h
        exact absurd ha hb
      · rw [List.length_cons, ih h]

end Lists

/-! ### What the policy touches -/

lemma happens_under : v.Happens (d.under p) n r e ↔ v.Happens d n r e :=
  ⟨fun ⟨hn, hr, hb, hx, hw⟩ => ⟨hn, hr, hb, hx, hw⟩,
    fun ⟨hn, hr, hb, hx, hw⟩ => ⟨hn, hr, hb, hx, hw⟩⟩

lemma proceed_under (hp : p ≠ .stop) (n : Node) (result : NodeResult) :
    proceed (d.under p) n result = proceed (d.under .proceed) n result := by
  unfold proceed
  dsimp only
  split
  · rfl
  · rw [Definition.errorHandling_under, Definition.errorHandling_under, if_neg hp,
      if_neg (by decide)]
    rfl

/-- **Two policies** that do not stop a run make one and the same run. -/
lemma once_under (hp : p ≠ .stop) (d : Definition) (event payload retryCount : Value) :
    once (d.under p) event payload retryCount =
      once (d.under .proceed) event payload retryCount := by
  have hvisit : visit (d.under p) = visit (d.under .proceed) := by
    funext n r
    unfold visit
    refine congrArg _ (funext fun x => ?_)
    dsimp only
    rw [proceed_under hp]
  have hcomplete : complete (d.under p) = complete (d.under .proceed) := by
    funext r
    unfold complete walk
    rw [hvisit]
    rfl
  unfold once
  rw [hcomplete]
  rfl

/-! ### Two walks -/

lemma failed_iff : v.failed = true ↔ ∃ f, v.result.fault? = some f := by
  unfold Visit.failed
  rcases v.result with ⟨output, next, binding⟩ | ⟨fault, output⟩
  · simp [NodeResult.succeeded, NodeResult.fault?]
  · simp [NodeResult.succeeded, NodeResult.fault?]

lemma left_of_done (h : v.result.fault? = none) (d : Definition) : v.left d = v.settled := by
  unfold Visit.left proceed
  dsimp only
  rw [h]
  rfl

/-- **The simulation**: from one start, the walk that stops makes the visits of the walk that goes
on, through the first that fails. -/
lemma visits_of_walks {vs₁ vs₂ : List Visit} {ending₁ ending₂ : Ending} {r₁ r₂ : Run}
    {e₁ e₂ : Engine} (h₁ : Walks (d.under .stop) seen queue r e vs₁ ending₁ r₁ e₁)
    (h₂ : Walks (d.under .proceed) seen queue r e vs₂ ending₂ r₂ e₂) :
    vs₁ = throughFirst Visit.failed vs₂ := by
  -- both walks hold the same ids, queue, run and engine until a visit fails
  induction h₁ generalizing vs₂ with
  | done =>
    cases h₂
    rfl
  | pass h _ ih =>
    cases h₂ with
    | pass _ rest => exact ih rest
    | visit h' | stop h' | raise h' => exact absurd h h'
  | @visit _ _ _ _ _ v _ _ _ _ h hv hg _ ih =>
    cases h₂ with
    | pass h' => exact absurd h' h
    | visit _ hv' _ rest =>
      cases happens_unique (happens_under.mp hv) (happens_under.mp hv')
      have hdone : v.result.fault? = none := hg rfl
      rw [left_of_done hdone, ← left_of_done hdone (d.under .stop)] at rest
      have hf : ¬v.failed = true := by
        rw [failed_iff, hdone]
        simp
      rw [throughFirst, if_neg hf, ih rest]
    | stop _ _ _ hp => cases hp
    | raise _ hx => exact absurd hx (not_raises_of_happens (happens_under.mp hv) _)
  | @stop _ _ _ _ _ v f h hv hf _ =>
    cases h₂ with
    | pass h' => exact absurd h' h
    | visit _ hv' _ rest =>
      cases happens_unique (happens_under.mp hv) (happens_under.mp hv')
      rw [throughFirst, if_pos (failed_iff.mpr ⟨f, hf⟩)]
    | stop _ _ _ hp => cases hp
    | raise _ hx => exact absurd hx (not_raises_of_happens (happens_under.mp hv) _)
  | raise h hx =>
    cases h₂ with
    | pass h' => exact absurd h' h
    | visit _ hv | stop _ hv => exact absurd hx (not_raises_of_happens (happens_under.mp hv) _)
    | raise => rfl

/-! ### The end of a walk -/

/-- The run and the engine after visits that start on others. -/
def afterVisits (d : Definition) (r : Run) (e : Engine) (vs : List Visit) : Run × Engine :=
  match vs.getLast? with
  | some v => (v.outcome, v.left d)
  | none => (r, e)

/-- The run of a trace and its engine, as they are after so many visits. -/
def Trace.after (d : Definition) (t : Trace) (k : ℕ) : Run × Engine :=
  afterVisits d t.first t.begun (t.visits.take k)

lemma afterVisits_cons (d : Definition) (r : Run) (e : Engine) (v : Visit) (vs : List Visit) :
    afterVisits d r e (v :: vs) = afterVisits d v.outcome (v.left d) vs := by
  unfold afterVisits
  rw [List.getLast?_cons]
  rcases vs.getLast? with _ | w
  · rfl
  · rfl

lemma end_of_walks (hw : Walks d seen queue r e vs ending r' e')
    (hend : ∀ n f, ending ≠ .raised n f) : (r', e') = afterVisits d r e vs := by
  induction hw with
  | done => rfl
  | pass _ _ ih => exact ih hend
  | @visit _ _ _ _ _ v vs _ _ _ _ _ _ _ ih =>
    rw [ih hend, afterVisits_cons]
  | stop => rfl
  | raise => exact absurd rfl (hend _ _)

lemma walks_after (hw : Walks d seen queue r e vs ending r' e') (hp : d.errorHandling ≠ .stop)
    (k : ℕ) :
    ∃ seen' queue', Walks d seen' queue' (afterVisits d r e (vs.take k)).1
      (afterVisits d r e (vs.take k)).2 (vs.drop k) ending r' e' := by
  induction hw generalizing k with
  | done =>
    rw [List.take_nil, List.drop_nil]
    exact ⟨[], [], .done⟩
  | pass _ _ ih => exact ih k
  | visit h hv hg rest ih =>
    rcases k with _ | k
    · exact ⟨_, _, .visit h hv hg rest⟩
    · rw [List.take_succ_cons, List.drop_succ_cons, afterVisits_cons]
      exact ih k
  | stop _ _ _ hs => exact absurd hs hp
  | raise h hx =>
    rw [List.take_nil, List.drop_nil]
    exact ⟨_, [_], .raise h hx⟩

lemma afterVisits_under (d : Definition) (r : Run) (e : Engine) (vs : List Visit)
    (p q : ErrorPolicy) :
    (afterVisits (d.under p) r e vs).1 = (afterVisits (d.under q) r e vs).1 ∧
      (afterVisits (d.under p) r e vs).2.store = (afterVisits (d.under q) r e vs).2.store ∧
      (afterVisits (d.under p) r e vs).2.mail = (afterVisits (d.under q) r e vs).2.mail := by
  unfold afterVisits
  rcases vs.getLast? with _ | v
  · exact ⟨rfl, rfl, rfl⟩
  · exact ⟨rfl, by rw [store_left, store_left], by rw [mail_left, mail_left]⟩

lemma stopped_of_walks (hw : Walks d seen queue r e vs ending r' e') (hp : d.errorHandling = .stop)
    (hv : v ∈ vs) (hf : v.failed = true) : ∃ error, ending = .stopped error := by
  induction hw with
  | done | raise => cases hv
  | pass _ _ ih => exact ih hv
  | visit _ _ hg _ ih =>
    rcases List.mem_cons.mp hv with rfl | hv
    · obtain ⟨f, hf⟩ := failed_iff.mp hf
      rw [hg hp] at hf
      cases hf
    · exact ih hv
  | stop => exact ⟨_, rfl⟩

/-! ### Two runs -/

lemma isEmpty_starts (f : Flow) : f.starts.isEmpty = true ↔ f.nodes = [] := by
  unfold Flow.starts
  dsimp only
  split
  · rw [List.isEmpty_iff, List.take_eq_nil_iff]
    simp
  · rename_i h
    refine ⟨fun h' => absurd h' h, fun hn => ?_⟩
    rw [hn]
    rfl

/-- A run that makes its record fails exactly if it has no nodes, or if it is to stop at a failure
and a step failed. -/
lemma status_failed_iff (ht : Ran d event payload retryCount e t) :
    (t.result d).status = some .failed ↔
      d.flow.nodes = [] ∨
        (d.errorHandling = .stop ∧ ∃ s ∈ t.steps, s.result.succeeded = false) := by
  have hsome : (t.result d).status = some .failed ↔ (t.error d).isSome = true := by
    rw [result_status ht]
    split
    · simp [*]
    · simp [*]
  have hsteps : (∃ s ∈ t.steps, s.result.succeeded = false) ↔
      ∃ v ∈ t.visits, v.failed = true := by
    rw [steps_eq ht]
    simp [Visit.failed, Visit.step]
  rw [hsome, hsteps, ← isEmpty_starts]
  unfold Trace.error
  by_cases hs : d.flow.starts.isEmpty = true
  · simp [hs]
  · rw [if_neg hs]
    constructor
    · rcases he : t.ending with _ | error | ⟨n, f⟩
      · simp
      · obtain ⟨hp, v, hv, f, hf, -⟩ := fault_of_stopped ht.walked he
        exact fun _ => Or.inr ⟨hp, v, hv, failed_iff.mpr ⟨f, hf⟩⟩
      · simp
    · rintro (h | ⟨hp, v, hv, hf⟩)
      · exact absurd h hs
      · obtain ⟨error, he⟩ := stopped_of_walks ht.walked hp hv hf
        rw [he]
        rfl

/-- The run under the policy to stop is the other one, cut where a step first fails. -/
structure Cut (d : Definition) (t₁ t₂ : Trace) : Prop where
  /-- Its steps are those of the other, through the first that fails. -/
  steps : t₁.steps = throughFirst (fun s => !s.result.succeeded) t₂.steps
  /-- When its walk ends, it is what the other was after as many visits; so are the tables, and so
  is the mail. -/
  last : t₁.last = (t₂.after d t₁.steps.length).1
  store : t₁.walked.store = (t₂.after d t₁.steps.length).2.store
  mail : t₁.walked.mail = (t₂.after d t₁.steps.length).2.mail
  /-- From there the other goes on. -/
  goesOn : ∃ seen queue, Walks d seen queue (t₂.after d t₁.steps.length).1
    (t₂.after d t₁.steps.length).2 (t₂.visits.drop t₁.steps.length) t₂.ending t₂.last t₂.walked

lemma cut_of_ran {t₁ t₂ : Trace} (h₁ : Ran (d.under .stop) event payload retryCount e t₁)
    (h₂ : Ran (d.under .proceed) event payload retryCount e t₂)
    (hend : ∀ n f, t₁.ending ≠ .raised n f) : Cut (d.under .proceed) t₁ t₂ := by
  have hl₁ : (launch d event payload retryCount).perform e = (.ok (.ok t₁.first), t₁.made) :=
    h₁.launched
  have hl₂ : (launch d event payload retryCount).perform e = (.ok (.ok t₂.first), t₂.made) :=
    h₂.launched
  rw [hl₁] at hl₂
  simp only [Prod.mk.injEq, Except.ok.injEq] at hl₂
  obtain ⟨hfirst, hmade⟩ := hl₂
  have hbegun : t₁.begun = t₂.begun := by
    unfold Trace.begun
    rw [hfirst, hmade]
  have hw := h₁.walked
  rw [hfirst, hbegun] at hw
  have hvs : t₁.visits = throughFirst Visit.failed t₂.visits := visits_of_walks hw h₂.walked
  have hlen : t₁.steps.length = (throughFirst Visit.failed t₂.visits).length := by
    rw [steps_eq h₁, List.length_map, hvs]
  have hafter : (t₁.last, t₁.walked) =
      afterVisits (d.under .stop) t₂.first t₂.begun (t₂.visits.take t₁.steps.length) := by
    rw [hlen, take_length_throughFirst, ← hvs]
    exact end_of_walks hw hend
  obtain ⟨hlast, hstore, hmail⟩ := afterVisits_under d t₂.first t₂.begun
    (t₂.visits.take t₁.steps.length) .stop .proceed
  rw [← hafter] at hlast hstore hmail
  refine ⟨?_, hlast, hstore, hmail, walks_after h₂.walked (by simp) _⟩
  rw [steps_eq h₁, steps_eq h₂, throughFirst_map, hvs]
  rfl

/-- **Error policies**: to retry is to go on. Of two runs that return, one under the policy to stop
and one under the policy to go on, either neither makes its record, and they are the same and have
no status; or the first is the second, cut where a step first fails. Then no step of the first but
the last fails, and a run fails exactly if it has no nodes, or if it is to stop at a failure and a
step failed. -/
theorem once_policies (d : Definition) (event payload retryCount : Value) (e : Engine) :
    once (d.under .retry) event payload retryCount =
        once (d.under .proceed) event payload retryCount ∧
      ∀ stopped continued e₁ e₂,
        (once (d.under .stop) event payload retryCount).perform e = (.ok stopped, e₁) →
        (once (d.under .proceed) event payload retryCount).perform e = (.ok continued, e₂) →
        (stopped.execution = "" ∧ stopped.status = none ∧ continued = stopped ∧ e₂ = e₁) ∨
          ∃ t₁ t₂, Ran (d.under .stop) event payload retryCount e t₁ ∧
            Ran (d.under .proceed) event payload retryCount e t₂ ∧
            Cut (d.under .proceed) t₁ t₂ ∧
            (∀ i s, t₁.steps[i]? = some s → s.result.succeeded = false →
              i + 1 = t₁.steps.length) ∧
            (stopped.status = some .failed ↔
              d.flow.nodes = [] ∨ ∃ s ∈ t₁.steps, s.result.succeeded = false) ∧
            (continued.status = some .failed ↔ d.flow.nodes = []) := by
  refine ⟨once_under (by decide) d _ _ _, fun stopped continued e₁ e₂ h₁ h₂ => ?_⟩
  -- the policy is not looked at before the record is made, so both make one or neither does
  rcases once_ok_iff.mp h₁ with ⟨f, k, hl, rfl, rfl⟩ | ⟨t₁, k₁, ht₁, hr₁, rfl, -⟩
  · have hl₂ : (launch (d.under .proceed) event payload retryCount).perform e =
        (.ok (.error f), k) := hl
    rw [once_of_refused hl₂] at h₂
    cases h₂
    exact Or.inl ⟨rfl, rfl, rfl, rfl⟩
  · have hl₂ : (launch (d.under .proceed) event payload retryCount).perform e =
        (.ok (.ok t₁.first), t₁.made) := ht₁.launched
    obtain ⟨t₂, ht₂, -, -⟩ := exists_ran hl₂
    obtain ⟨k₂, -, rfl, -⟩ := returned_of_once ht₂ h₂
    have hcut := cut_of_ran ht₁ ht₂ hr₁.yields
    refine Or.inr ⟨t₁, t₂, ht₁, ht₂, hcut, fun i s hs hf => ?_, ?_, ?_⟩
    · rw [hcut.steps] at hs ⊢
      exact length_of_getElem?_throughFirst hs (by rw [hf]; rfl)
    · rw [status_failed_iff ht₁]
      simp [Definition.under]
    · rw [status_failed_iff ht₂]
      simp [Definition.under]

/-- The runs of the untitled task under the two policies. -/
def untitledStopped : Trace :=
  (trace? 9 (untitled.under .stop) .null (.object []) (.int 0) {}).get (by decide +kernel)

def untitledContinued : Trace :=
  (trace? 9 (untitled.under .proceed) .null (.object []) (.int 0) {}).get (by decide +kernel)

theorem once_policies_untitled :
    ∃ t₁ t₂, Ran (untitled.under .stop) .null (.object []) (.int 0) {} t₁ ∧
      Ran (untitled.under .proceed) .null (.object []) (.int 0) {} t₂ ∧
      Cut (untitled.under .proceed) t₁ t₂ := by
  have ht₁ : Ran (untitled.under .stop) .null (.object []) (.int 0) {} untitledStopped :=
    ran_of_trace? (Option.some_get _).symm
  have ht₂ : Ran (untitled.under .proceed) .null (.object []) (.int 0) {} untitledContinued :=
    ran_of_trace? (Option.some_get _).symm
  have hend₁ : untitledStopped.ending = .stopped (.text "Task requires a title") := by
    decide +kernel
  have hend₂ : untitledContinued.ending = .finished := by decide +kernel
  have h₁ := once_of_returned ht₁ ⟨by simp [hend₁], Prod.ext (by decide +kernel) rfl⟩
  have h₂ := once_of_returned ht₂ ⟨by simp [hend₂], Prod.ext (by decide +kernel) rfl⟩
  rcases (once_policies untitled .null (.object []) (.int 0) {}).2 _ _ _ _ h₁ h₂ with h | h
  · exact absurd h.1 (execution_ne_empty ht₁)
  · obtain ⟨t₁, t₂, hr₁, hr₂, hcut, -⟩ := h
    exact ⟨t₁, t₂, hr₁, hr₂, hcut⟩

/-- An engine whose store takes no records of runs. -/
def recordless : Engine :=
  { store := { planned := [{ operation := some .insert, table := some executionsTable }] } }

/-- A run without nodes that cannot make its record is not failed: it has no status. -/
theorem status_without_record :
    ∃ stopped continued e₁ e₂,
      (once (({ id := "empty" } : Definition).under .stop) .null (.object []) (.int 0)).perform
        recordless = (.ok stopped, e₁) ∧
      (once (({ id := "empty" } : Definition).under .proceed) .null (.object []) (.int 0)).perform
        recordless = (.ok continued, e₂) ∧
      ({ id := "empty" } : Definition).flow.nodes = [] ∧ stopped.status ≠ some .failed :=
  ⟨_, _, _, _, rfl, rfl, rfl, by decide⟩

end Run

end CrmAutomation

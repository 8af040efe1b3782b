import CrmAutomation.Proofs.Execution.Session
import CrmAutomation.Proofs.Run.Journal

/-!
What sessions log.

Every line that a call logs carries the run in progress, or else it is one of the few lines by
which a call names the execution that it is about. So the journal of a session tells the runs apart:
what is logged while a run is in progress carries its identifiers, and nothing else does, unless a
call names the execution.
-/

namespace CrmAutomation

open EngineM Record Run

open Start (Attributed)

/-! ### Events -/

namespace Trigger

lemma attributed_afterAll (event payload : Value) (ds : List Definition) (e : Engine) :
    Attributed (·.Bears e.run) e (startsOf event payload ds e) (afterAll event payload ds e) := by
  induction ds generalizing e with
  | nil => exact .of_logs (.refl _ e)
  | cons d ds ih =>
    have hfirst := Attributed.of_outcome ⟨d, event, payload, .int 0, e⟩
    have hrest := ih (Start.outcome ⟨d, event, payload, .int 0, e⟩).2
    rw [hfirst.run] at hrest
    exact hfirst.append hrest

lemma logs_returned (outcomes : List (Except Failure RunResult)) (e : Engine) :
    e.Logs (·.Bears e.run) ((returned outcomes).perform e).2 := by
  refine logs_of_does (Y := fun _ => True) (fun K hK _ => ?_) e
  induction outcomes with
  | nil => exact does_pure trivial
  | cons outcome outcomes ih =>
    rcases outcome with f | result
    · exact does_bind (does_log hK _ _) fun _ _ => ih
    · exact does_bind ih fun _ _ => does_pure trivial

lemma attributed_fire (event : Value) (entityType : String) (entityId payload : Value)
    (e : Engine) :
    Attributed (·.Bears e.run) e (starts event entityType entityId payload e)
      ((fire event entityType entityId payload).perform e).2 := by
  have hseek := logs_of_does
    (fun _ hK _ => does_seek hK trivial event entityType entityId payload) e
  rw [perform_fire]
  refine .bind hseek (fun f k hs => by rw [starts, hs]) fun found k hs hk => ?_
  have hruns := attributed_afterAll event found.1 found.2 k
  have hreturned := logs_returned
    ((startsOf event found.1 found.2 k).map fun x => x.outcome.1)
    (afterAll event found.1 found.2 k)
  rw [hruns.run] at hreturned
  have hall := hruns.append (.of_logs hreturned)
  rw [List.append_nil, hk.run] at hall
  rw [perform_bind_of_ok (perform_runAll _ _ _ k), starts_eq hs]
  exact hall

end Trigger

/-! ### Calls -/

namespace Call

/-- The lines by which a call names the execution that it is about. -/
def announcements (run : Option RunIdentity) : Call → List JournalEntry
  | .retry execution => [⟨.info, "Retrying execution", run, some execution⟩]
  | .cancel execution => [
    ⟨.info, "Execution already finished, nothing to cancel", run, some execution⟩,
    ⟨.info, "Execution not running, nothing to cancel", run, some execution⟩,
    ⟨.info, "Execution cancelled", run, some execution⟩]
  | .run _ _ _ _ | .fire _ _ _ _ | .startManual _ _ | .list _ _ | .statistics _
  | .handle _ _ _ _ | .pause _ => []

/-- The line carries the run in progress, or the call names an execution by it. -/
def Says (c : Call) (run : Option RunIdentity) (l : JournalEntry) : Prop :=
  l.Bears run ∨ l ∈ c.announcements run

variable {c : Call} {run : Option RunIdentity} {e : Engine} {l : JournalEntry}

lemma run_of_announcements (h : l ∈ c.announcements run) : l.run = run := by
  have hall : ∀ l ∈ c.announcements run, l.run = run := by cases c <;> simp [announcements]
  exact hall l h

lemma logs_logAbout {execution : Value} {level : Log.Level} {event : String} (hrun : e.run = run)
    (h : ⟨level, event, run, some execution⟩ ∈ c.announcements run) :
    e.Logs (c.Says run) ((logAbout execution level event).perform e).2 := by
  rw [← hrun] at h ⊢
  exact ⟨rfl, _, rfl, List.forall_mem_singleton.mpr (Or.inr h)⟩

lemma logs_of_unnamed {α : Type} {Y : α → Prop} {x : EngineM α} (hrun : e.run = run)
    (h : ∀ K, Lockstep (fun _ _ => True) K → PostsMatch K → Does K Y x) :
    e.Logs (c.Says run) (x.perform e).2 := by
  rw [← hrun]
  exact (logs_of_does h e).mono fun _ => Or.inl

lemma logs_retried (execution : Value) (e : Engine) :
    e.Logs ((retry execution).Says e.run) ((Execution.retried execution).perform e).2 := by
  unfold Execution.retried
  refine logs_bind (logs_of_unnamed rfl fun _ hK _ => Execution.does_get hK trivial execution)
    fun row k _ hk => ?_
  split
  · exact .refl _ k
  · refine logs_bind (logs_of_unnamed hk.run fun _ hK _ => Execution.does_definition hK trivial _)
      fun d k' _ hk' => ?_
    have hrun : k'.run = e.run := hk'.run.trans hk.run
    split
    · exact .refl _ k'
    · split
      · exact .refl _ k'
      · exact logs_bind (logs_logAbout hrun List.mem_cons_self) fun _ k'' _ _ => .refl _ k''

lemma logs_cancel (execution : Value) (e : Engine) :
    e.Logs ((cancel execution).Says e.run) ((Execution.cancel execution).perform e).2 := by
  unfold Execution.cancel
  refine logs_bind (logs_of_unnamed rfl fun _ hK _ => Execution.does_get hK trivial execution)
    fun row k _ hk => ?_
  refine logs_bind (logs_of_unnamed hk.run fun _ _ _ => does_ofExcept _ _)
    fun finished k' _ hk' => ?_
  have hrun : k'.run = e.run := hk'.run.trans hk.run
  split
  · exact logs_bind (logs_logAbout hrun (by simp [announcements])) fun _ k _ _ => .refl _ k
  · rw [perform_bind_of_ok (perform_now k')]
    refine logs_bind (logs_of_unnamed hrun fun _ hK _ => does_update hK trivial _ _)
      fun count k'' _ hk'' => ?_
    have hrun' : k''.run = e.run := hk''.run.trans hrun
    split
    · exact logs_bind (logs_logAbout hrun' (by simp [announcements])) fun _ k _ _ => .refl _ k
    · exact logs_bind (logs_logAbout hrun' (by simp [announcements])) fun _ k _ _ => .refl _ k

lemma attributed_once {x : Start} (hrun : x.engine.run = run) :
    Attributed (c.Says run) x.engine [x] x.outcome.2 := by
  rw [← hrun]
  exact (Attributed.of_outcome x).mono fun _ => Or.inl

/-- **What a call logs**: the runs that it makes log in their own names, and whatever else it logs
carries what was in progress before, or is one of its announcements. -/
theorem attributed_after (c : Call) (e : Engine) :
    Attributed (c.Says e.run) e (c.starts e) (c.after e) := by
  cases c with
  | run d event payload retryCount =>
    exact attributed_once (x := ⟨d, event, payload, retryCount, e⟩) rfl
  | fire event entityType entityId payload =>
    exact (Trigger.attributed_fire event entityType entityId payload e).mono fun _ => Or.inl
  | startManual workflow payload =>
    refine .bind (logs_of_unnamed rfl fun _ hK _ => Execution.does_definition hK trivial workflow)
      (fun f k hd => by simp [starts, hd]) fun d k hd hk => ?_
    have hstarts : (startManual workflow payload).starts e =
        [⟨d, .text "manual", payload, .int 0, k⟩] := by simp [starts, hd]
    rw [hstarts]
    exact attributed_once (x := ⟨d, .text "manual", payload, .int 0, k⟩) hk.run
  | retry execution =>
    show Attributed _ e _ ((Execution.retry execution).perform e).2
    rw [Execution.retry_eq]
    refine .bind (logs_retried execution e) (fun f k hr => by simp [starts, hr])
      fun r k hr hk => ?_
    have hstarts : (retry execution).starts e = [⟨r.1, r.2.1, r.2.2.1, r.2.2.2, k⟩] := by
      simp [starts, hr]
    rw [hstarts]
    exact attributed_once (x := ⟨r.1, r.2.1, r.2.2.1, r.2.2.2, k⟩) hk.run
  | cancel execution => exact .of_logs (logs_cancel execution e)
  | list workflow limit =>
    exact .of_logs (logs_of_unnamed rfl fun _ hK _ =>
      Execution.does_list hK trivial workflow limit)
  | statistics workflow =>
    exact .of_logs (logs_of_unnamed rfl fun _ hK _ =>
      Execution.does_statistics hK trivial workflow)
  | handle event entityType entityId data =>
    exact .of_logs (logs_of_unnamed rfl fun _ hK hm =>
      Rule.does_handle hK hm (fun _ _ => trivial) event entityType entityId data)
  | pause ms => exact .of_logs (.of_same rfl rfl)

end Call

namespace Session

variable {calls : List Call} {e : Engine}

/-- What a session logs outside of runs. -/
def Says (calls : List Call) (run : Option RunIdentity) (l : JournalEntry) : Prop :=
  l.Bears run ∨ ∃ c ∈ calls, l ∈ c.announcements run

lemma attributed_after (calls : List Call) (e : Engine) :
    Attributed (Says calls e.run) e (starts calls e) (after calls e) := by
  induction calls generalizing e with
  | nil => exact .of_logs (.refl _ e)
  | cons c cs ih =>
    have hfirst := Call.attributed_after c e
    have hrest := ih (c.after e)
    rw [hfirst.run] at hrest
    refine (hfirst.mono fun l hl => ?_).append (hrest.mono fun l hl => ?_)
    · exact hl.imp_right fun hmem => ⟨c, List.mem_cons_self, hmem⟩
    · exact hl.imp_right fun ⟨c', hc', hmem⟩ => ⟨c', List.mem_cons_of_mem _ hc', hmem⟩

/-- **Lines carry the run in progress.** Whatever calls a session makes, and whatever comes of its
runs, what was in progress before is so again after every call and every run, and lines are only
added at the end of the journal. A line that is logged after the record of a run is made and before
the run ends carries the identifiers of the run. Every other line carries what was in progress
before the session, unless a call to retry or to cancel names its execution by it. -/
theorem lines_attributed (calls : List Call) (e : Engine) :
    (∀ n, (after (calls.take n) e).run = e.run) ∧
      e.journal <+: (after calls e).journal ∧
      (∀ x ∈ starts calls e, x.engine.run = e.run ∧ x.outcome.2.run = e.run ∧
        e.journal <+: x.engine.journal ∧ x.outcome.2.journal <+: (after calls e).journal) ∧
      ∀ i l, e.journal.length ≤ i → (after calls e).journal[i]? = some l →
        (∀ x ∈ starts calls e, x.LogsAt i → l.run = some x.identity ∧ l.execution = .text x.id) ∧
        ((∀ x ∈ starts calls e, ¬x.LogsAt i) → l.run = e.run ∧
          (l.execution = RunIdentity.executionOf e.run ∨ ∃ c ∈ calls, l ∈ c.announcements e.run)) := by
  have h := attributed_after calls e
  refine ⟨fun n => (attributed_after (calls.take n) e).run, h.grows, h.runs, fun i l hle hl => ?_⟩
  refine ⟨fun x hx hi => ?_, fun hno => ?_⟩
  · have hl := h.during i l hle hl x hx hi
    exact ⟨hl.run, hl.execution⟩
  · rcases h.outside i l hle hl hno with hl | ⟨c, hc, hl⟩
    · exact ⟨hl.run, Or.inl hl.execution⟩
    · exact ⟨Call.run_of_announcements hl, Or.inr ⟨c, hc, hl⟩⟩

/-- The store holds a workflow without nodes; it is run, and its execution is retried. -/
def idle : Engine := Trigger.defining [Trigger.activeRow "w" (Trigger.boundTo "won") .null]

def retrying : List Call := [.startManual (.text "w") .null, .retry (.text "id-1")]

/-- The line that announces a retry is logged before its run makes a record, and carries the
execution that is retried. -/
theorem retry_announced :
    idle.run = none ∧ ∃ l, (after retrying idle).journal[2]? = some l ∧
      (∀ x ∈ starts retrying idle, ¬x.LogsAt 2) ∧ l.execution = .text "id-1" := by
  have hbounds : ∀ x ∈ starts retrying idle,
      x.outcome.2.journal.length ≤ 2 ∨ 2 < x.engine.journal.length := by
    decide +kernel
  refine ⟨rfl, ⟨.info, "Retrying execution", none, some (.text "id-1")⟩, by decide +kernel, ?_, rfl⟩
  intro x hx hi
  obtain ⟨hfirst, hlast⟩ := Start.logsAt_bounds hi
  rcases hbounds x hx with hended | hbegun
  · exact absurd hlast (not_lt_of_ge hended)
  · exact absurd hfirst (not_le_of_gt hbegun)

end Session

end CrmAutomation

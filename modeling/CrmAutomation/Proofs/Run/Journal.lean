import CrmAutomation.Proofs.Engine.Journal
import CrmAutomation.Proofs.Run.Start

/-!
What runs log.

A run is in progress from when its record is made until it ends, be it that it returns or raises.
Every line that is logged in between carries its identifiers: its own, its workflow's, and the event
that started it. A run that makes no record is never in progress.
-/

namespace CrmAutomation

open EngineM Record

namespace Run

variable {d : Definition} {n : Node} {r r' : Run} {e e' : Engine} {v : Visit} {seen : List String}
  {queue : List Node} {vs : List Visit} {ending : Ending}

/-! ### The walk of a run -/

lemma logs_write (patch : Fields) (id event : String) (e : Engine) :
    e.Logs (·.Bears e.run) ((write patch id event).perform e).2 :=
  logs_of_does (fun _ hK _ => does_onStorageFault
    (does_bind (does_update hK trivial patch (ownRecord id)) fun _ _ => does_pure trivial)
    fun _ => does_log hK _ event) e

lemma logs_execute (d : Definition) (n : Node) (r : Run) (e : Engine) :
    e.Logs (·.Bears e.run) ((execute d n r).perform e).2 := by
  have hnode := logs_of_does (fun K hK hm =>
    Node.does_execute hK n d.flow r.scope (fun _ _ => hm) fun _ _ => trivial) e
  unfold execute
  rw [perform_bind_of_ok (perform_now _)]
  refine logs_bind hnode fun result k _ hk => ?_
  rw [perform_bind_of_ok (perform_now _), ← hk.run]
  exact logs_bind (logs_write _ _ _ k) fun _ k' _ _ => .refl _ k'

lemma logs_left (hv : v.Happens d n r e) : e.Logs (·.Bears e.run) (v.left d) := by
  have hx := logs_execute d n r e
  rw [execute_of_happens hv] at hx
  rcases left_cases d v with hl | ⟨level, event, hl⟩
  · rw [hl]
    exact hx
  · rw [hl]
    exact hx.then_bears (.noting _ level event)

lemma logs_of_walks (hw : Walks d seen queue r e vs ending r' e') :
    e.Logs (·.Bears e.run) e' := by
  induction hw with
  | done => exact .refl _ _
  | pass _ _ ih => exact ih
  | visit _ hv _ _ ih => exact (logs_left hv).then_bears ih
  | stop _ hv => exact logs_left hv
  | @raise _ n _ r e f e' _ hx =>
    have h := logs_execute d n r e
    rwa [hx] at h

lemma logs_finalize (r : Run) (status : RunStatus) (error : Option Value) (e : Engine) :
    e.Logs (·.Bears e.run) ((finalize r status error).perform e).2 := by
  rw [finalize_eq]
  refine logs_bind (logs_write _ _ _ e) fun _ k _ hk => ?_
  rw [← hk.run]
  exact .noting k _ _

lemma logs_walk (d : Definition) (r : Run) (e : Engine) :
    e.Logs (·.Bears e.run) (((walk d).run r).perform e).2 := by
  obtain ⟨vs, ending, r', e', hw⟩ := exists_walks d [] d.flow.starts r e (starts_subset d.flow)
  have hwalk := walk_of_walks hw (starts_subset d.flow)
  rw [unseen_nil] at hwalk
  have heq : ((walk d).run r).perform e = (ending.outcome r', e') := hwalk
  rw [heq]
  exact logs_of_walks hw

lemma logs_complete (d : Definition) (r : Run) (e : Engine) :
    e.Logs (·.Bears e.run) ((complete d r).perform e).2 := by
  unfold complete
  refine logs_bind (.noting e .info "Starting workflow execution") fun _ k _ hk => ?_
  rw [← hk.run]
  split
  · exact logs_bind (logs_finalize r .failed _ k) fun _ k' _ _ => .refl _ k'
  · refine logs_bind (logs_walk d r k) fun walked k' _ hk' => ?_
    obtain ⟨error, r'⟩ := walked
    rw [← hk'.run]
    exact logs_bind (logs_finalize r' _ error k') fun _ k'' _ _ => .refl _ k''

/-! ### The record of a run -/

lemma logs_launch (d : Definition) (event payload retryCount : Value) (e : Engine) :
    e.Logs (·.Bears e.run) ((launch d event payload retryCount).perform e).2 := by
  refine logs_of_does (Y := fun _ => True) (fun K hK _ => ?_) e
  refine does_bind (does_now hK) fun startedAt _ => ?_
  refine does_bind (does_ofExcept _ _) fun given _ => ?_
  refine does_onStorageFault ?_ fun f => does_pure trivial
  refine does_bind (does_insert hK trivial _) fun row _ => ?_
  exact does_bind (does_now hK) fun t _ => does_pure trivial

end Run

namespace Run.Start

variable {x : Start} {t : Trace} {i : ℕ}

/-! ### A run -/

/-- The line at a position of the journal is logged while the run is in progress: after its record
is made, and before it ends. -/
def LogsAt (x : Start) (i : ℕ) : Prop :=
  ∃ t, x.Ran t ∧ t.made.journal.length ≤ i ∧ i < x.outcome.2.journal.length

/-- The identifiers of the run: the one that is drawn for it, its workflow's, and its event. -/
def identity (x : Start) : RunIdentity := ⟨x.id, x.definition.id, x.event⟩

lemma identity_of_ran (h : x.Ran t) : t.first.identity = x.identity := by
  obtain ⟨given, row, s, -, -, hfirst, -⟩ := launch_made h.launched
  rw [identity, ← id_of_ran h, Run.identity, hfirst]
  rfl

lemma made_of_ran (h : x.Ran t) :
    t.made.journal = x.engine.journal ∧ t.made.run = x.engine.run := by
  obtain ⟨given, row, s, -, -, -, hk⟩ := launch_made h.launched
  rw [hk]
  exact ⟨rfl, rfl⟩

lemma lines_of_ran (h : x.Ran t) :
    x.outcome.2.run = x.engine.run ∧
      ∃ lines, x.outcome.2.journal = x.engine.journal ++ lines ∧
        ∀ l ∈ lines, l.Bears (some x.identity) := by
  obtain ⟨hjournal, hrun⟩ := made_of_ran h
  have hout : x.outcome = (within t.first.identity (complete x.definition t.first)).perform t.made :=
    perform_bind_of_ok h.launched
  have hc := logs_complete x.definition t.first { t.made with run := some t.first.identity }
  rw [hout, perform_within, ← identity_of_ran h, ← hjournal]
  exact ⟨hrun, hc.lines⟩

lemma logs_of_unlaunched (h : ∀ t, ¬x.Ran t) :
    x.engine.Logs (·.Bears x.engine.run) x.outcome.2 := by
  have hl := logs_launch x.definition x.event x.payload x.retryCount x.engine
  refine logs_bind hl fun made k hk hrun => ?_
  rcases made with f | r
  · rw [← hrun.run]
    exact .noting k _ _
  · obtain ⟨t, ht, -, -⟩ := exists_ran hk
    exact absurd ht (h t)

/-! ### Runs, one after the other -/

/-- From one engine to another runs are made, and every line that is logged is attributed: to the
run in progress, or to none, and then it has a property. Whatever comes of the runs, what was in
progress before each of them is so afterwards, and at the end. -/
structure Attributed (P : JournalEntry → Prop) (e : Engine) (xs : List Start) (e' : Engine) :
    Prop where
  run : e'.run = e.run
  grows : e.journal <+: e'.journal
  runs : ∀ x ∈ xs, x.engine.run = e.run ∧ x.outcome.2.run = e.run ∧
    e.journal <+: x.engine.journal ∧ x.outcome.2.journal <+: e'.journal
  during : ∀ i l, e.journal.length ≤ i → e'.journal[i]? = some l →
    ∀ x ∈ xs, x.LogsAt i → l.Bears (some x.identity)
  outside : ∀ i l, e.journal.length ≤ i → e'.journal[i]? = some l →
    (∀ x ∈ xs, ¬x.LogsAt i) → P l

variable {P Q : JournalEntry → Prop} {e e' e'' : Engine} {xs ys : List Start} {l : JournalEntry}

lemma logsAt_bounds (h : x.LogsAt i) :
    x.engine.journal.length ≤ i ∧ i < x.outcome.2.journal.length := by
  obtain ⟨t, ht, hmade, hi⟩ := h
  rw [(made_of_ran ht).1] at hmade
  exact ⟨hmade, hi⟩

lemma mem_of_getElem?_append {ls ms : List JournalEntry} (hle : ls.length ≤ i)
    (h : (ls ++ ms)[i]? = some l) : l ∈ ms := by
  rw [List.getElem?_append_right hle] at h
  exact List.mem_of_getElem? h

namespace Attributed

lemma of_logs (h : e.Logs P e') : Attributed P e [] e' := by
  obtain ⟨hrun, ls, hls, hP⟩ := h
  refine ⟨hrun, ⟨ls, hls.symm⟩, by simp, by simp, fun i l hle hl _ => hP l ?_⟩
  rw [hls] at hl
  exact mem_of_getElem?_append hle hl

lemma of_ran (h : x.Ran t) : Attributed P x.engine [x] x.outcome.2 := by
  obtain ⟨hrun, ls, hls, hbears⟩ := lines_of_ran h
  refine ⟨hrun, ⟨ls, hls.symm⟩, ?_, ?_, ?_⟩
  · exact List.forall_mem_singleton.mpr ⟨rfl, hrun, List.prefix_rfl, List.prefix_rfl⟩
  · intro i l hle hl
    rw [hls] at hl
    exact List.forall_mem_singleton.mpr fun _ => hbears l (mem_of_getElem?_append hle hl)
  · -- every line is logged while the run is in progress
    intro i l hle hl hno
    have hi := (List.getElem?_eq_some_iff.mp hl).1
    refine absurd ⟨t, h, ?_, hi⟩ (hno x List.mem_cons_self)
    rw [(made_of_ran h).1]
    exact hle

lemma of_unlaunched (h : ∀ t, ¬x.Ran t) :
    Attributed (·.Bears x.engine.run) x.engine [x] x.outcome.2 := by
  have ha := of_logs (logs_of_unlaunched h)
  refine ⟨ha.run, ha.grows, ?_, ?_, ?_⟩
  · exact List.forall_mem_singleton.mpr ⟨rfl, ha.run, List.prefix_rfl, List.prefix_rfl⟩
  · intro i l _ _
    exact List.forall_mem_singleton.mpr fun ⟨t, ht, _⟩ => absurd ht (h t)
  · exact fun i l hle hl _ => ha.outside i l hle hl (by simp)

lemma of_outcome (x : Start) :
    Attributed (·.Bears x.engine.run) x.engine [x] x.outcome.2 := by
  by_cases h : ∃ t, x.Ran t
  · obtain ⟨t, ht⟩ := h
    exact of_ran ht
  · exact of_unlaunched fun t ht => h ⟨t, ht⟩

lemma mono (h : Attributed P e xs e') (hPQ : ∀ l, P l → Q l) : Attributed Q e xs e' :=
  ⟨h.run, h.grows, h.runs, h.during, fun i l hle hl hno => hPQ l (h.outside i l hle hl hno)⟩

lemma append (h : Attributed P e xs e') (h' : Attributed P e' ys e'') :
    Attributed P e (xs ++ ys) e'' := by
  have hbefore : ∀ x ∈ xs, ∀ i, x.LogsAt i → i < e'.journal.length := fun x hx i hi =>
    (logsAt_bounds hi).2.trans_le (h.runs x hx).2.2.2.length_le
  have hafter : ∀ y ∈ ys, ∀ i, y.LogsAt i → e'.journal.length ≤ i := fun y hy i hi =>
    (h'.runs y hy).2.2.1.length_le.trans (logsAt_bounds hi).1
  have hsame : ∀ i, i < e'.journal.length → e''.journal[i]? = e'.journal[i]? := by
    intro i hi
    obtain ⟨ls, hls⟩ := h'.grows
    rw [← hls, List.getElem?_append_left hi]
  refine ⟨h'.run.trans h.run, h.grows.trans h'.grows, ?_, ?_, ?_⟩
  · refine List.forall_mem_append.mpr ⟨fun x hx => ?_, fun y hy => ?_⟩
    · obtain ⟨hx₁, hx₂, hx₃, hx₄⟩ := h.runs x hx
      exact ⟨hx₁, hx₂, hx₃, hx₄.trans h'.grows⟩
    · obtain ⟨hy₁, hy₂, hy₃, hy₄⟩ := h'.runs y hy
      exact ⟨hy₁.trans h.run, hy₂.trans h.run, h.grows.trans hy₃, hy₄⟩
  · intro i l hle hl
    refine List.forall_mem_append.mpr ⟨fun x hx hi => ?_, fun y hy hi => ?_⟩
    · rw [hsame i (hbefore x hx i hi)] at hl
      exact h.during i l hle hl x hx hi
    · exact h'.during i l (hafter y hy i hi) hl y hy hi
  · intro i l hle hl hno
    obtain ⟨hxs, hys⟩ := List.forall_mem_append.mp hno
    rcases lt_or_ge i e'.journal.length with hi | hi
    · rw [hsame i hi] at hl
      exact h.outside i l hle hl hxs
    · exact h'.outside i l hi hl hys

lemma bind {α β : Type} {y : EngineM α} {f : α → EngineM β} (hy : e.Logs P (y.perform e).2)
    (hfail : ∀ g k, y.perform e = (.error g, k) → xs = [])
    (hf : ∀ a k, y.perform e = (.ok a, k) → e.Logs P k → Attributed P k xs ((f a).perform k).2) :
    Attributed P e xs ((y >>= f).perform e).2 := by
  rcases hp : y.perform e with ⟨g | a, k⟩
  · rw [hp] at hy
    rw [perform_bind_of_error hp, hfail g k hp]
    exact of_logs hy
  · rw [hp] at hy
    rw [perform_bind_of_ok hp]
    exact (of_logs hy).append (hf a k hp hy)

end Attributed

end Run.Start

end CrmAutomation

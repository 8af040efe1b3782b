import CrmAutomation.Proofs.Engine.Requests
import CrmAutomation.Proofs.Execution.Cancellation
import CrmAutomation.Proofs.Execution.Underway

/-!
Sessions: calls of the engine, one after the other.

Most calls only select, or write to other tables. Runs write to their own records, and a call that
cancels an execution finds it only while it is in progress. So an execution that is over stays as it
is, for as long as the session lasts.
-/

namespace CrmAutomation

open EngineM Record Run

namespace Execution

/-- The work leaves rows settled on an engine. -/
def Settles {α : Type} (x : EngineM α) (e : Engine) : Prop :=
  ∃ ss, Proceeds e.store ss (x.perform e).2.store

variable {α β : Type} {x : EngineM α} {f : α → EngineM β} {e : Engine}

lemma settles_of_store (h : (x.perform e).2.store = e.store) : Settles x e :=
  ⟨[], h ▸ .still⟩

lemma settles_bind (hx : Settles x e)
    (hf : ∀ a k, x.perform e = (.ok a, k) → Settles (f a) k) : Settles (x >>= f) e := by
  obtain ⟨ss, hss⟩ := hx
  unfold Settles
  rw [perform_bind]
  rcases hp : x.perform e with ⟨g | a, k⟩
  · rw [hp] at hss
    exact ⟨ss, hss⟩
  · rw [hp] at hss
    obtain ⟨ss', hss'⟩ := hf a k hp
    exact ⟨_, hss.append hss'⟩

lemma settles_of_does {Q : α → Prop}
    (h : ∀ K, Lockstep (fun op table => op = .select ∨ table ≠ executionsTable) K →
      PostsMatch K → Does K Q x)
    (e : Engine) : Settles x e := by
  obtain ⟨ss, hss⟩ := passes_of_does h e
  exact ⟨ss, .of_passes hss⟩

lemma settles_once {d : Definition} {event payload retryCount : Value}
    (h : (⟨d, event, payload, retryCount, e⟩ : Start).Sparing) :
    Settles (once d event payload retryCount) e := proceeds_of_outcome h

/-! ### Cancelling -/

lemma cancel_cases (id : Value) (e : Engine) :
    ∃ s, e.store.Reads s ∧ (((cancel id).perform e).2.store = s ∨
      ∃ t, ((cancel id).perform e).2.store = (marking id t s).2) := by
  refine ⟨(lookup id e.store).2, ⟨_, .one (.select _ _ _)⟩, ?_⟩
  have hends := cancel_ends id e
  generalize ((cancel id).perform e).1 = r, ((cancel id).perform e).2.store = s' at hends ⊢
  cases hends with
  | unread hl | unfound hl | stateless hl | finished hl =>
    rw [hl]
    exact Or.inl rfl
  | unmarked hl hf hm | marked hl hf hm =>
    rw [hl]
    exact Or.inr ⟨e.clock, congrArg Prod.snd hm.symm⟩

lemma settles_cancelling (id : Value) (t : Calendar.Instant) (s : Store) :
    ∃ ss, Proceeds s ss (marking id t s).2 := by
  refine ⟨_, .one (.update _ _ _ _ trivial) (settled_of_update (plain_cancelPatch t) rfl ?_)⟩
  intro row _ hm
  exact not_finished_of_running (matchesAll_running.mp hm).2

lemma settles_cancel (id : Value) (e : Engine) : Settles (cancel id) e := by
  obtain ⟨s, ⟨ss, hss⟩, hstore⟩ := cancel_cases id e
  have hread : Proceeds e.store ss s := .of_passes (hss.mono fun _ hw => hw.elim)
  unfold Settles
  rcases hstore with hs | ⟨t, hs⟩
  · rw [hs]
    exact ⟨ss, hread⟩
  · obtain ⟨ss', hss'⟩ := settles_cancelling id t s
    rw [hs]
    exact ⟨_, hread.append hss'⟩

/-! ### Retrying -/

/-- What a retry of an execution runs: a definition, an event, a payload and a count of retries. -/
def retried (id : Value) : EngineM (Definition × Value × Value × Value) := do
  let row ← get id
  match row.find? "workflow_id" with
  | none => crash (.missingKey "workflow_id")
  | some workflow => do
    let d ← definition workflow
    match raised ((row.get "retry_count").orElse (.int 0)) with
    | none => crash (.malformed .number)
    | some next =>
      if reaches ((row.get "retry_count").orElse (.int 0)) d.maxRetries then
        throw (.retryLimit id d.maxRetries)
      else do
        logAbout id .info "Retrying execution"
        pure (d, (row.get "trigger_event").orElse (.text "manual"), row.get "trigger_data", next)

lemma retry_eq (id : Value) :
    retry id = retried id >>= fun r => once r.1 r.2.1 r.2.2.1 r.2.2.2 := by
  unfold retry retried
  rw [bind_assoc]
  refine bind_congr fun row => ?_
  rcases row.find? "workflow_id" with _ | workflow
  · rfl
  · dsimp only
    rw [bind_assoc]
    refine bind_congr fun d => ?_
    rcases raised ((row.get "retry_count").orElse (.int 0)) with _ | next
    · rfl
    · dsimp only
      split
      · rfl
      · rw [bind_assoc]
        rfl

lemma keeps_retried {W : String → Prop} {R : Engine → Engine → Prop} (hR : Frame W R) (id : Value)
    (e : Engine) : R e ((retried id).perform e).2 := by
  have hget := fun e => hR.keeps e (does_get (hR.lockstep e) (Or.inl rfl) id)
  have hdefinition := fun workflow e =>
    hR.keeps e (does_definition (hR.lockstep e) (Or.inl rfl) workflow)
  unfold retried
  refine hR.keeps_bind (hget e) fun row k _ => ?_
  split
  · exact hR.refl k
  · refine hR.keeps_bind (hdefinition _ k) fun d k _ => ?_
    split
    · exact hR.refl k
    · split
      · exact hR.refl k
      · exact hR.keeps_bind (hR.journal k _) fun _ k _ => hR.refl k

lemma settles_retried (id : Value) (e : Engine) : Settles (retried id) e := by
  obtain ⟨ss, hss⟩ := keeps_retried (frame_passes (· ≠ executionsTable)) id e
  exact ⟨ss, .of_passes hss⟩

/-! ### Events -/

lemma settles_runAll {event payload : Value} {ds : List Definition}
    (h : ∀ x ∈ Trigger.startsOf event payload ds e, x.Sparing) :
    Settles (Trigger.runAll event payload ds >>= Trigger.returned) e := by
  unfold Settles
  rw [Trigger.store_runAll]
  induction ds generalizing e with
  | nil => exact ⟨[], .still⟩
  | cons d ds ih =>
    obtain ⟨hx, hrest⟩ := List.forall_mem_cons.mp h
    obtain ⟨ss, hss⟩ := proceeds_of_outcome hx
    obtain ⟨ss', hss'⟩ := ih hrest
    exact ⟨_, hss.append hss'⟩

lemma settles_fire {event entityId payload : Value} {entityType : String}
    (h : ∀ x ∈ Trigger.starts event entityType entityId payload e, x.Sparing) :
    Settles (Trigger.fire event entityType entityId payload) e := by
  have hseek := settles_of_does
    (fun K hK _ => Trigger.does_seek hK (Or.inl rfl) event entityType entityId payload) e
  unfold Settles
  rw [Trigger.perform_fire]
  refine settles_bind hseek fun found k hk => settles_runAll ?_
  -- the runs were found from the engine before, and are made on the one that looking left
  rw [Trigger.starts_eq hk] at h
  exact h

end Execution

/-! ### Calls -/

/-- A call of the engine, or time that passes between calls. -/
inductive Call where
  | run (d : Definition) (event payload retryCount : Value)
  | fire (event : Value) (entityType : String) (entityId payload : Value)
  | startManual (workflow payload : Value)
  | retry (execution : Value)
  | cancel (execution : Value)
  | list (workflow limit : Value)
  | statistics (workflow : Value)
  | handle (event : Value) (entityType : String) (entityId data : Value)
  | pause (ms : Int)

namespace Call

/-- The engine after the call, whatever comes of it. -/
def after (c : Call) (e : Engine) : Engine :=
  match c with
  | run d event payload retryCount => ((Run.once d event payload retryCount).perform e).2
  | fire event entityType entityId payload =>
    ((Trigger.fire event entityType entityId payload).perform e).2
  | startManual workflow payload => ((Execution.startManual workflow payload).perform e).2
  | retry execution => ((Execution.retry execution).perform e).2
  | cancel execution => ((Execution.cancel execution).perform e).2
  | list workflow limit => ((Execution.list workflow limit).perform e).2
  | statistics workflow => ((Execution.statistics workflow).perform e).2
  | handle event entityType entityId data =>
    ((Rule.handle event entityType entityId data).perform e).2
  | pause ms => ((wait ms).perform e).2

/-- The runs that the call makes. -/
def starts (c : Call) (e : Engine) : List Start :=
  match c with
  | run d event payload retryCount => [⟨d, event, payload, retryCount, e⟩]
  | fire event entityType entityId payload => Trigger.starts event entityType entityId payload e
  | startManual workflow payload =>
    match (Execution.definition workflow).perform e with
    | (.ok d, k) => [⟨d, .text "manual", payload, .int 0, k⟩]
    | (.error _, _) => []
  | retry execution =>
    match (Execution.retried execution).perform e with
    | (.ok (d, event, payload, next), k) => [⟨d, event, payload, next, k⟩]
    | (.error _, _) => []
  | cancel _ | list _ _ | statistics _ | handle _ _ _ _ | pause _ => []

open Execution

variable {c : Call} {e : Engine}

/-- **A call leaves rows settled** if the runs that it makes spare the table of executions. -/
theorem proceeds_after (h : ∀ x ∈ c.starts e, x.Sparing) :
    ∃ ss, Proceeds e.store ss (c.after e).store := by
  cases c with
  | run d event payload retryCount => exact settles_once (h _ List.mem_cons_self)
  | fire event entityType entityId payload => exact settles_fire h
  | startManual workflow payload =>
    have hd := settles_of_does (fun K hK _ => does_definition hK (Or.inl rfl) workflow) e
    refine settles_bind hd fun d k hk => settles_once (h _ ?_)
    simp [starts, hk]
  | retry execution =>
    show Settles (Execution.retry execution) e
    rw [retry_eq]
    refine settles_bind (settles_retried execution e) fun r k hk => settles_once (h _ ?_)
    simp [starts, hk]
  | cancel execution => exact settles_cancel execution e
  | list workflow limit =>
    exact settles_of_does (fun K hK _ => does_list hK (Or.inl rfl) workflow limit) e
  | statistics workflow =>
    exact settles_of_does (fun K hK _ => does_statistics hK (Or.inl rfl) workflow) e
  | handle event entityType entityId data =>
    have ha : ∀ a ∈ Rule.asks, a.1 = .select ∨ a.2 ≠ executionsTable := by decide
    exact settles_of_does
      (fun K hK hm => Rule.does_handle hK hm ha event entityType entityId data) e
  | pause ms => exact settles_of_store (x := wait ms) rfl

end Call

/-! ### Sessions -/

namespace Session

open Execution

/-- The engine after calls, each of which finds it as the one before left it. -/
def after (calls : List Call) (e : Engine) : Engine := calls.foldl (fun e c => c.after e) e

/-- The runs that calls make. -/
def starts : List Call → Engine → List Start
  | [], _ => []
  | c :: cs, e => c.starts e ++ starts cs (c.after e)

variable {calls calls' : List Call} {e : Engine}

lemma after_append : after (calls ++ calls') e = after calls' (after calls e) :=
  List.foldl_append

lemma starts_append :
    starts (calls ++ calls') e = starts calls e ++ starts calls' (after calls e) := by
  induction calls generalizing e with
  | nil => rfl
  | cons c cs ih =>
    rw [List.cons_append, starts, ih, ← List.append_assoc]
    rfl

lemma proceeds_after (h : ∀ x ∈ starts calls e, x.Sparing) :
    ∃ ss, Proceeds e.store ss (after calls e).store ∧
      ∀ i, (after (calls.take i) e).store ∈ e.store :: ss := by
  induction calls generalizing e with
  | nil => exact ⟨[], .still, fun i => by simp [after]⟩
  | cons c cs ih =>
    obtain ⟨hc, hcs⟩ := List.forall_mem_append.mp h
    obtain ⟨ss, hss⟩ := Call.proceeds_after hc
    obtain ⟨ss', hss', hmem⟩ := ih hcs
    refine ⟨ss ++ ss', hss.append hss', fun i => ?_⟩
    rcases i with _ | i
    · exact List.mem_cons_self
    · -- between later calls, or where the first one ends, which is among its own stores
      have hi : (after ((c :: cs).take (i + 1)) e).store ∈ (c.after e).store :: ss' := hmem i
      rw [← List.cons_append]
      rcases List.mem_cons.mp hi with heq | hlater
      · rw [heq]
        exact List.mem_append_left _ hss.mem
      · exact List.mem_append_right _ hlater

/-- **Executions that are over stay as they are.** In a session whose runs have new ids and whose
nodes spare the table of executions, operations take the store through a list of stores, those
between calls among them. From each of these to every later one no row of the table disappears, and
a row in a state that runs do not leave is not changed in any field, be it that calls fail or that
the store refuses what it is asked for. -/
theorem rows_settled (h : ∀ x ∈ starts calls e, x.Sparing) :
    ∃ ss, Store.Passes (fun _ => True) e.store ss (after calls e).store ∧
      (e.store :: ss).Pairwise Settled ∧
      ∀ i, (after (calls.take i) e).store ∈ e.store :: ss := by
  obtain ⟨ss, hss, hmem⟩ := proceeds_after h
  exact ⟨ss, hss.passes, hss.pairwise, hmem⟩

/-! ### A session, computed -/

def executionRow (id : String) (status : RunStatus) : Row :=
  [("id", .text id), ("status", status.value), ("steps_executed", .list [])]

/-- A store that refuses two updates, with an execution that is over and one in progress. -/
def administered : Engine := { store := {
  backend := .memory [(executionsTable,
    [executionRow "over" .failed, executionRow "open" .running])]
  planned := [{ operation := some .update, text := "disk full", skip := 1, times := some 2 }] } }

def single : Definition where
  id := "w"
  triggerType := .manual
  flow := { nodes := [{ id := "n", type := some "trigger" }] }

def administration : List Call := [
  .run single (.text "manual") .null (.int 0), .cancel (.text "over"), .cancel (.text "open"),
  .cancel (.text "id-1"), .list .null .null, .statistics .null, .pause 5,
  .handle (.text "won") "deal" (.text "D1") .null]

theorem rows_settled_administration :
    ∃ ss, Store.Passes (fun _ => True) administered.store ss
        (after administration administered).store ∧
      (administered.store :: ss).Pairwise Settled ∧
      (∀ i, (after (administration.take i) administered).store ∈ administered.store :: ss) ∧
      ∀ k ∈ ss, (k.rows executionsTable)[0]? = some (executionRow "over" .failed) := by
  let x : Start := ⟨single, .text "manual", .null, .int 0, administered⟩
  have hstarts : starts administration administered = [x] := rfl
  have hx : x.Sparing := by
    let t := (trace? 9 single (.text "manual") .null (.int 0) administered).get (by decide +kernel)
    have ht : x.Ran t := ran_of_trace? (Option.some_get _).symm
    intro t' ht'
    rw [← ran_unique ht ht']
    exact ⟨by decide +kernel, by decide +kernel⟩
  have hsparing : ∀ x ∈ starts administration administered, x.Sparing := by
    rw [hstarts]
    exact List.forall_mem_singleton.mpr hx
  obtain ⟨ss, hpasses, hpairs, hmem⟩ := rows_settled hsparing
  refine ⟨ss, hpasses, hpairs, hmem, fun k hk => ?_⟩
  have hk : Settled administered.store k := (List.pairwise_cons.mp hpairs).1 k hk
  obtain ⟨row, hrow, hlasts⟩ := hk 0 (executionRow "over" .failed) rfl
  rw [hrow, hlasts.finished ⟨.failed, by decide, rfl⟩]

end Session

end CrmAutomation

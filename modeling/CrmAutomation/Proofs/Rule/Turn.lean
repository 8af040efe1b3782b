import CrmAutomation.Proofs.Engine.Requests
import CrmAutomation.Proofs.Node.Effect

/-!
A rule at its turn.

If the conditions of a rule hold and its action becomes a node, the node is executed; if that
succeeds, the rule writes to its own row what its count was when it was loaded and one more. Nothing
else that it does touches the table of rules.
-/

namespace CrmAutomation

open EngineM Record Calendar

lemma frame_kept (W : String → Prop) :
    Frame W fun e e' => e.store.Kept → e'.store.Kept where
  refl _ h := h
  trans _ _ _ h₁ h₂ h := h₂ (h₁ h)
  journal _ _ h := h
  clock _ _ h := h
  mail _ _ h := h
  insert e t table row h := Store.kept_of_moves (.insert e.store t table row h)
  update e table fields fs h := Store.kept_of_moves (.update e.store table fields fs h)
  select e table q :=
    have hm : Store.Moves W e.store (e.store.select table q).2 := .select _ _ _
    Store.kept_of_moves hm

namespace Rule

/-- What a rule writes to its row at a time. -/
def countFields (r : Rule) (t : Instant) : Fields := [
  ("execution_count", .int (r.executionCount + 1)), ("last_executed_at", .text t.isoText)]

/-- A rule, a payload to run it on, and the engine that it finds. -/
structure Turn where
  rule : Rule
  payload : Fields
  before : Engine

namespace Turn

/-- What the rule works on. -/
def scope (x : Turn) : Scope :=
  Run.initialScope x.rule.workId x.payload x.before.clock x.rule.name

/-- All conditions of the rule hold. -/
def met (x : Turn) : Bool := x.rule.conditions.all (·.holds x.scope.value)

/-- The node that the action becomes and what it works on, if the conditions hold and the action can
be carried out. -/
def plan? (x : Turn) : Option (Node × Scope) :=
  if x.met then
    (x.rule.plan x.scope.vars).toOption.map fun p => (p.1, { x.scope with vars := p.2 })
  else none

/-- The engine after the conditions were looked at. -/
def judged (x : Turn) : Engine :=
  x.before.notingAll
    ((Condition.verdicts x.scope.value x.rule.conditions).flatMap (·.notes))

/-- What comes of executing the node. -/
def executed? (x : Turn) : Option (Except Failure NodeResult × Engine) :=
  x.plan?.map fun p => (p.1.execute { nodes := [p.1] } p.2).perform x.judged

/-- The node is executed, and its execution succeeds. -/
def succeeds (x : Turn) : Bool :=
  match x.executed? with
  | some (.ok r, _) => r.succeeded
  | _ => false

/-- The engine after the node was executed, if it was. -/
def done (x : Turn) : Engine :=
  match x.executed? with
  | some (_, e) => e
  | none => x.judged

/-- The rule counts its execution. -/
def counting (x : Turn) : Store.Outcome ℕ :=
  x.done.store.update rulesTable (x.rule.countFields x.done.clock)
    [⟨"id", .equals, .text x.rule.id⟩]

/-- The store does not refuse to count an execution that succeeds. -/
def Counts (x : Turn) : Prop := x.succeeds = true → ∃ n s, x.counting = (.ok n, s)

instance (x : Turn) : Decidable x.Counts :=
  match h : x.succeeds, hc : x.counting with
  | false, _ => .isTrue fun hs => by rw [h] at hs; cases hs
  | true, (.ok n, s) => .isTrue fun _ => ⟨n, s, hc⟩
  | true, (.error _, _) => .isFalse fun hx => by
      obtain ⟨n, s, hn⟩ := hx h
      rw [hc] at hn
      cases hn

/-- What comes of running the rule. -/
def outcome (x : Turn) : Except Failure Bool × Engine := (x.rule.run x.payload).perform x.before

/-! ### What comes of a turn -/

variable {x : Turn} {e : Engine} {row : Row}

lemma perform_track (r : Rule) (e : Engine) :
    (track r).perform e =
      match e.store.update rulesTable (r.countFields e.clock) [⟨"id", .equals, .text r.id⟩] with
      | (.ok _, s) => (.ok (), { e with store := s })
      | (.error (.fault f), s) =>
        (.ok (), ({ e with store := s }.notingAll (databaseNotes f)).noting .error
          "Error updating rule execution count")
      | (.error g, s) => (.error g.failure, { e with store := s }) := by
  have htrack : track r = now >>= fun t =>
      (update rulesTable (r.countFields t) [⟨"id", .equals, .text r.id⟩] >>= fun _ =>
        pure ()).onStorageFault fun _ => log .error "Error updating rule execution count" := rfl
  rw [htrack, perform_bind_of_ok (perform_now e)]
  unfold update
  rw [onStorageFault_stored]
  · rcases e.store.update rulesTable (r.countFields e.clock)
      [⟨"id", .equals, .text r.id⟩] with ⟨(_ | _ | _) | _, s⟩
    iterate 4 rfl
  · exact fun _ _ => ⟨_, _, rfl⟩

lemma outcome_eq (x : Turn) :
    x.outcome =
      (if x.met then
        x.rule.prepare x.scope.vars >>= fun prepared =>
          match prepared with
          | some (node, vars) => x.rule.act node { x.scope with vars }
          | none => pure false
      else do
        log .debug "Rule conditions not met"
        pure false).perform x.judged :=
  (perform_bind_of_ok (perform_now x.before)).trans
    (perform_bind_of_ok (Trigger.perform_holdAll x.rule.conditions x.scope.value x.before))

lemma outcome_of_no_plan (h : x.plan? = none) :
    ∃ k, x.outcome = (.ok false, k) ∧ k.store = x.before.store := by
  unfold plan? at h
  rw [outcome_eq]
  split at h
  · rename_i hm
    rw [if_pos hm]
    unfold prepare
    rcases hp : x.rule.plan x.scope.vars with reason | p
    · exact ⟨_, rfl, rfl⟩
    · rw [hp] at h
      cases h
  · rename_i hm
    rw [if_neg hm]
    exact ⟨_, rfl, rfl⟩

lemma outcome_of_plan {node : Node} {scope : Scope} (h : x.plan? = some (node, scope)) :
    x.outcome = (x.rule.act node scope).perform x.judged := by
  unfold plan? at h
  rw [outcome_eq]
  split at h
  · rename_i hm
    rw [if_pos hm]
    unfold prepare
    rcases hp : x.rule.plan x.scope.vars with reason | p
    · rw [hp] at h
      cases h
    · rw [hp] at h
      cases h
      rfl
  · cases h

lemma executed?_of_plan {node : Node} {scope : Scope} (h : x.plan? = some (node, scope)) :
    x.executed? = some ((node.execute { nodes := [node] } scope).perform x.judged) := by
  rw [executed?, h]
  rfl

lemma plan_of_plan? {node : Node} {scope : Scope} (h : x.plan? = some (node, scope)) :
    ∃ vars, x.rule.plan x.scope.vars = .ok (node, vars) := by
  unfold plan? at h
  split at h
  · rcases hp : x.rule.plan x.scope.vars with reason | p
    · rw [hp] at h
      cases h
    · rw [hp] at h
      cases h
      exact ⟨_, rfl⟩
  · cases h

lemma outcome_of_not_succeeds (h : x.succeeds = false) :
    x.outcome.1 ≠ .ok true ∧ x.outcome.2.store = x.done.store := by
  rcases hp : x.plan? with _ | ⟨node, scope⟩
  · obtain ⟨k, hk, hs⟩ := outcome_of_no_plan hp
    rw [hk, done, executed?, hp]
    exact ⟨by simp, hs⟩
  · rw [outcome_of_plan hp, act, perform_bind, done, executed?_of_plan hp]
    rw [succeeds, executed?_of_plan hp] at h
    rcases hr : (node.execute { nodes := [node] } scope).perform x.judged with ⟨f | r, k⟩
    · exact ⟨by simp, rfl⟩
    · rw [hr] at h
      have hr : r.succeeded = false := h
      dsimp only
      rw [hr]
      refine ⟨fun hk => ?_, rfl⟩
      cases hk

lemma outcome_of_succeeds (h : x.succeeds = true) :
    x.outcome = (x.rule.track >>= fun _ => pure true).perform x.done := by
  rcases hp : x.plan? with _ | ⟨node, scope⟩
  · rw [succeeds, executed?, hp] at h
    cases h
  · rw [outcome_of_plan hp, act, perform_bind, done, executed?_of_plan hp]
    rw [succeeds, executed?_of_plan hp] at h
    rcases hr : (node.execute { nodes := [node] } scope).perform x.judged with ⟨f | r, k⟩
    · rw [hr] at h
      cases h
    · rw [hr] at h
      have hr : r.succeeded = true := h
      dsimp only
      rw [hr]
      rfl

lemma outcome_of_counts (hc : x.Counts) (h : x.succeeds = true) :
    x.outcome = (.ok true, { x.done with store := x.counting.2 }) := by
  obtain ⟨n, s, hn⟩ := hc h
  have hn' : x.done.store.update rulesTable (x.rule.countFields x.done.clock)
      [⟨"id", .equals, .text x.rule.id⟩] = (.ok n, s) := hn
  have ht : x.rule.track.perform x.done = (.ok (), { x.done with store := s }) := by
    rw [perform_track, hn']
  rw [outcome_of_succeeds h, perform_bind_of_ok ht, hn]
  rfl

lemma keeps_done {R : Engine → Engine → Prop} (hR : Frame (· ≠ rulesTable) R) (x : Turn) :
    R x.before x.done := by
  have hjudged : R x.before x.judged := hR.journal _ _
  unfold done executed?
  rcases hp : x.plan? with _ | ⟨node, scope⟩
  · exact hjudged
  · obtain ⟨vars, hplan⟩ := plan_of_plan? hp
    exact hR.trans _ _ _ hjudged
      (Node.keeps_execute hR node _ scope (fun a ha => Or.inr (asks_plan hplan scope a ha).2) _)

end Turn

end Rule

end CrmAutomation

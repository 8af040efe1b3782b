import CrmAutomation.Proofs.Node.Outcome
import CrmAutomation.Proofs.Run.Trace
import CrmAutomation.Proofs.Schema.Reader

/-!
Branches: what a walk follows after a conditional node.

A conditional node whose parameters are valid chooses one port by its predicate, and the walk
follows the first edge from that port. A conditional node whose operator is no text has no valid
parameters: it fails, chooses nothing, and a run that goes on follows all of its edges.
-/

namespace CrmAutomation

open EngineM Record Schema

namespace Node

/-- The node is authored as a condition, or as a generic action of that kind. -/
def Conditional (node : Node) : Prop :=
  node.type = some NodeKind.condition.name ∨
    (node.type = some actionType ∧ actionKind node.data = .text NodeKind.condition.name)

/-- The operator that the parameters of a node give; a null is as good as none. -/
def operator? (node : Node) : Option Value :=
  node.form.toOption.bind fun form =>
    (dropNulls .condition (Fields.without form.2 "type")).find? "operator"

/-- The operator of the node is a text, or missing. -/
def Operable (node : Node) : Prop := ∀ v, node.operator? = some v → ∃ s, v = .text s

/-- Whether the predicate of a condition holds. -/
def ConditionParams.holds (p : ConditionParams) (scope : Scope) : Bool :=
  ({ field := p.field, operator := .text p.operator, value := p.value } : Condition).holds
    scope.value

variable {node : Node} {name : Value} {given fs : Fields} {f : Flow} {scope : Scope}
  {e e' : Engine} {r : NodeResult}

/-! ### Parameters -/

lemma name_of_conditional (hc : node.Conditional) (hf : node.form = .ok (name, given)) :
    name = .text NodeKind.condition.name := by
  unfold form at hf
  rcases hc with ht | ⟨ht, hk⟩
  · rw [ht] at hf
    cases hf
    rfl
  · have hn : normalizeFields (.text actionType) node.data = (do
        let params ← actionParams node.data
        let kind ← canonical (actionKind node.data)
        .ok (kind, params)) := rfl
    rw [ht, Value.ofText?, hn, hk] at hf
    rcases hp : actionParams node.data with fault | params
    · rw [hp] at hf
      cases hf
    · rw [hp] at hf
      cases hf
      rfl

lemma withDefault_anything (name : String) (d : Value) (fs : Fields) :
    (plain name).withDefault d anything fs = .ok ((fs.find? name).getD d) := by
  unfold plain
  rw [Field.withDefault_eq]
  rcases fs.find? name with _ | v
  · rfl
  · rfl

lemma withDefault_text (name d : String) (fs : Fields) :
    (∃ s, (plain name).withDefault d text fs = .ok s) ↔
      ∀ v, fs.find? name = some v → ∃ s, v = .text s := by
  unfold plain
  rw [Field.withDefault_eq]
  rcases fs.find? name with _ | v
  · exact ⟨fun _ _ h => (by cases h), fun _ => ⟨d, rfl⟩⟩
  · cases v with
    | text s => exact ⟨fun _ _ h => ⟨s, (Option.some.inj h).symm⟩, fun _ => ⟨s, rfl⟩⟩
    | _ =>
      refine ⟨fun ⟨_, h⟩ => (by cases h), fun h => ?_⟩
      obtain ⟨s, hs⟩ := h _ rfl
      cases hs

lemma readParams_condition :
    (∃ known, readParams .condition given = .ok known) ↔
      ∀ v, (dropNulls .condition (Fields.without given "type")).find? "operator" = some v →
        ∃ s, v = .text s := by
  rw [← withDefault_text "operator" "equals"]
  unfold readParams readKind readCondition
  dsimp only
  rw [withDefault_anything, withDefault_anything]
  rcases (plain "operator").withDefault "equals" text
    (dropNulls .condition (Fields.without given "type")) with s | issues
  · exact ⟨fun _ => ⟨s, rfl⟩, fun _ => ⟨_, rfl⟩⟩
  · constructor
    · rintro ⟨known, h⟩
      cases h
    · rintro ⟨s, h⟩
      cases h

lemma params_condition {known : KnownParams} (h : readParams .condition given = .ok known) :
    ∃ p, known.params = .condition p := by
  unfold readParams readKind at h
  dsimp only at h
  rcases hr : readCondition (dropNulls .condition (Fields.without given "type")) with p | issues
  · rw [hr] at h
    cases h
    exact ⟨p, rfl⟩
  · rw [hr] at h
    cases h

/-! ### Execution -/

lemma params?_conditional (hc : node.Conditional) (hf : node.form = .ok (name, given)) :
    node.params? = match readParams .condition given with
      | .ok known => some known.params
      | .refused _ => none := by
  have hn := name_of_conditional hc hf
  unfold params?
  rw [hf, hn]
  rfl

lemma operator?_of_form (hf : node.form = .ok (name, given)) :
    node.operator? = (dropNulls .condition (Fields.without given "type")).find? "operator" := by
  unfold operator?
  rw [hf]
  rfl

lemma execute_conditional (hc : node.Conditional) (hf : node.form = .ok (name, given)) :
    (node.execute f scope).perform e =
      (executeKind node f scope .condition given).perform e := by
  have hn := name_of_conditional hc hf
  subst hn
  exact execute_of_form hf rfl f scope e

lemma work_condition (node : Node) (scope : Scope) (p : ConditionParams) (e : Engine) :
    ∃ output e', ∀ f, (work node f scope (.condition p)).perform e =
      (.ok (.done output (some (branch f node.id (p.holds scope)))), e') := by
  let c : Condition := { field := p.field, operator := .text p.operator, value := p.value }
  let output : Fields := [
    ("condition", .object [("field", p.field), ("operator", .text p.operator), ("value", p.value)]),
    ("result", .bool (p.holds scope))]
  exact ⟨output, e.notingAll (c.evaluate scope.value).notes, fun f =>
    perform_bind_of_ok (perform_logAll _ e)⟩

/-- **The branch of a condition**: a conditional node that has a result has valid parameters exactly
if its operator is a text or missing. It then is done and chooses the branch that its predicate
decides for; otherwise it fails and chooses nothing. -/
lemma execute_condition (hc : node.Conditional)
    (hx : (node.execute f scope).perform e = (.ok r, e')) :
    (node.Operable → ∃ p, node.params? = some (.condition p) ∧ r.fault? = none ∧
      r.next = some (branch f node.id (p.holds scope))) ∧
    (¬node.Operable → node.params? = none ∧ r.fault? ≠ none ∧ r.next = none) := by
  rcases hf : node.form with g | ⟨name, given⟩
  · rw [execute_error_iff.mpr ⟨g, hf, rfl, rfl⟩] at hx
    cases hx
  rw [params?_conditional hc hf, Operable, operator?_of_form hf, ← readParams_condition]
  rw [execute_conditional hc hf] at hx
  unfold executeKind at hx
  rcases hk : readParams .condition given with known | issues
  · rw [hk] at hx
    obtain ⟨p, hp⟩ := params_condition hk
    obtain ⟨output, k, hw⟩ := work_condition node scope p e
    dsimp only at hx
    rw [hp, onFailure_of_ok (hw f)] at hx
    cases hx
    exact ⟨fun _ => ⟨p, congrArg some hp, rfl, rfl⟩, fun h => absurd ⟨known, rfl⟩ h⟩
  · rw [hk] at hx
    dsimp only at hx
    rw [perform_bind_of_ok (perform_log _ _ e)] at hx
    cases hx
    refine ⟨fun ⟨known, h⟩ => (by cases h), fun _ => ⟨rfl, ?_, rfl⟩⟩
    simp [NodeResult.fault?]

end Node

namespace Run

open Node

variable {d : Definition} {event payload retryCount : Value} {e : Engine} {t : Trace} {v : Visit}

lemma nodesWithIds_branch (f : Flow) (hids : ∀ n ∈ f.nodes, n.id ≠ "") (id : String)
    (holds : Bool) :
    f.nodesWithIds (branch f id holds) =
      f.nodes.filter fun m => f.targetAt? id (portFor holds) = some m.id := by
  refine List.filter_congr fun m hm => ?_
  rw [Bool.eq_iff_iff, decide_eq_true_iff]
  unfold branch
  rcases f.targetAt? id (portFor holds) with _ | target
  · simp
  · dsimp only
    split
    · rename_i he
      have he : target = "" := String.isEmpty_iff.mp he
      simp [he, (hids m hm).symm]
    · simp [eq_comm]

/-- **What follows a conditional node**: a walk that goes on hands what the visit chose to its
queue. If the operator of the node is a text or missing, this is what the first edge from the one
port leads to that the predicate decides for, and nothing if there is no such edge. Otherwise the
node failed, the policy is not to stop, and all edges are followed, those from both ports. -/
theorem next_of_conditional (ht : Ran d event payload retryCount e t) (hv : v ∈ t.visits)
    (hc : v.node.Conditional) (hids : ∀ n ∈ d.flow.nodes, n.id ≠ "") (hg : v.GoesOn d) :
    (proceed d v.node v.result).perform v.settled = (.ok (.ok (v.next d)), v.left d) ∧
      (v.node.Operable → ∃ p, v.node.params? = some (.condition p) ∧
        v.next d = d.flow.nodes.filter fun m =>
          d.flow.targetAt? v.node.id (portFor (p.holds v.run.scope)) = some m.id) ∧
      (¬v.node.Operable → v.result.fault? ≠ none ∧ d.errorHandling ≠ .stop ∧
        v.next d = d.flow.nodes.filter fun m =>
          m.id ∈ (d.flow.outgoing v.node.id).map (·.target)) := by
  obtain ⟨hvalid, hinvalid⟩ := execute_condition hc (happens_of_mem ht.walked v hv).executed
  refine ⟨proceed_of_goesOn hg, fun hop => ?_, fun hop => ?_⟩
  · obtain ⟨p, hp, -, hnext⟩ := hvalid hop
    refine ⟨p, hp, ?_⟩
    unfold Visit.next Flow.successors
    rw [hnext]
    exact nodesWithIds_branch d.flow hids v.node.id _
  · obtain ⟨-, hfault, hnext⟩ := hinvalid hop
    refine ⟨hfault, fun hp => hfault (hg hp), ?_⟩
    unfold Visit.next Flow.successors
    rw [hnext]
    refine List.filter_congr fun m _ => ?_
    simp

/-- A condition with an edge from each port, in a run that goes on at failures. -/
def forked (operator : Value) : Definition where
  id := "forked"
  errorHandling := .proceed
  flow := {
    nodes := [
      { id := "a", type := some "condition",
        data := [("field", .text "x"), ("operator", operator)] },
      { id := "b" }, { id := "c" }]
    edges := [
      { source := "a", target := "b", port := some truePort },
      { source := "a", target := "c", port := some falsePort }] }

def emptyTested : Trace :=
  (trace? 9 (forked (.text "is_empty")) .null (.object []) (.int 0) {}).get (by decide +kernel)

def misread : Trace :=
  (trace? 9 (forked (.int 5)) .null (.object []) (.int 0) {}).get (by decide +kernel)

/-- A condition that tests for emptiness is followed to the one branch; one whose operator is a
number is followed to both. -/
theorem next_of_conditional_forked :
    (∃ v ∈ emptyTested.visits, v.node.Conditional ∧
      (v.next (forked (.text "is_empty"))).map (·.id) = ["b"]) ∧
    ∃ v ∈ misread.visits, v.node.Conditional ∧ v.result.fault? ≠ none ∧
      (v.next (forked (.int 5))).map (·.id) = ["b", "c"] := by
  constructor
  · let v := emptyTested.visits.head (by decide +kernel)
    have ht : Ran (forked (.text "is_empty")) .null (.object []) (.int 0) {} emptyTested :=
      ran_of_trace? (Option.some_get _).symm
    have hv : v ∈ emptyTested.visits := List.head_mem _
    have hc : v.node.Conditional := Or.inl (by decide +kernel)
    have hop : v.node.Operable := by
      have ho : v.node.operator? = some (.text "is_empty") := by decide +kernel
      exact fun w hw => ⟨"is_empty", Option.some.inj (hw.symm.trans ho)⟩
    obtain ⟨-, hvalid, -⟩ := next_of_conditional ht hv hc (by decide) (fun h => by cases h)
    obtain ⟨p, hp, hnext⟩ := hvalid hop
    have hq : v.node.params? = some (.condition ⟨.text "x", "is_empty", .null⟩) := by
      decide +kernel
    cases hq.symm.trans hp
    refine ⟨v, hv, hc, ?_⟩
    rw [hnext]
    decide +kernel
  · let v := misread.visits.head (by decide +kernel)
    have ht : Ran (forked (.int 5)) .null (.object []) (.int 0) {} misread :=
      ran_of_trace? (Option.some_get _).symm
    have hv : v ∈ misread.visits := List.head_mem _
    have hc : v.node.Conditional := Or.inl (by decide +kernel)
    have hop : ¬v.node.Operable := by
      have ho : v.node.operator? = some (.int 5) := by decide +kernel
      intro h
      obtain ⟨s, hs⟩ := h _ ho
      cases hs
    obtain ⟨-, -, hinvalid⟩ := next_of_conditional ht hv hc (by decide) (fun h => by cases h)
    obtain ⟨hfault, -, hnext⟩ := hinvalid hop
    refine ⟨v, hv, hc, hfault, ?_⟩
    rw [hnext]
    decide +kernel

end Run

end CrmAutomation

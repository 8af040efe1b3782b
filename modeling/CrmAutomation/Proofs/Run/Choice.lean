import CrmAutomation.Proofs.Node.Effect
import CrmAutomation.Proofs.Run.Branch

/-!
What a node chooses to follow it.

Of all that a node does, only its choice depends on the flow that it stands in, and only a condition
chooses. So a node that is put into another flow does the same work, and its result differs in the
choice alone.
-/

namespace CrmAutomation

open EngineM Record

namespace EngineM

variable {α β : Type} {Q : α → Prop} {x y : EngineM α}

/-- What the work yields, if it yields something, satisfies a predicate. -/
def Yields (Q : α → Prop) (x : EngineM α) : Prop := ∀ e a e', x.perform e = (.ok a, e') → Q a

lemma yields_pure {a : α} (h : Q a) : Yields Q (pure a) := by
  intro e b e' hb
  cases hb
  exact h

lemma yields_bind {z : EngineM β} {f : β → EngineM α} (h : ∀ b, Yields Q (f b)) :
    Yields Q (z >>= f) := by
  intro e a e' ha
  obtain ⟨b, k, -, hb⟩ := perform_bind_ok.mp ha
  exact h b k a e' hb

lemma yields_takenUp (hx : Yields Q x)
    (hy : ∀ e, y.perform e = x.perform e ∨
      ∃ (z : EngineM α) (k : Engine), Yields Q z ∧ y.perform e = z.perform k) : Yields Q y := by
  intro e a e' ha
  rcases hy e with hsame | ⟨z, k, hz, hsame⟩
  · rw [hsame] at ha
    exact hx e a e' ha
  · rw [hsame] at ha
    exact hz k a e' ha

lemma yields_onStorageFault (hx : Yields Q x) {h : Store.Fault → EngineM α}
    (hh : ∀ f, Yields Q (h f)) : Yields Q (x.onStorageFault h) := by
  refine yields_takenUp hx fun e => ?_
  rcases hp : x.perform e with ⟨f | a, k⟩
  · cases f
    case storage g => exact Or.inr ⟨h g, k, hh g, onStorageFault_of_fault hp⟩
    all_goals exact Or.inl (onStorageFault_of_error (by simp) hp)
  · exact Or.inl (onStorageFault_of_ok hp)

lemma yields_onDeliveryFault (hx : Yields Q x) {h : Mail.DeliveryFault → EngineM α}
    (hh : ∀ f, Yields Q (h f)) : Yields Q (x.onDeliveryFault h) := by
  refine yields_takenUp hx fun e => ?_
  rcases hp : x.perform e with ⟨f | a, k⟩
  · cases f
    case delivery g => exact Or.inr ⟨h g, k, hh g, onDeliveryFault_of_fault hp⟩
    all_goals exact Or.inl (onDeliveryFault_of_error (by simp) hp)
  · exact Or.inl (onDeliveryFault_of_ok hp)

lemma yields_onNotificationFault (hx : Yields Q x) {h : NotificationFault → EngineM α}
    (hh : ∀ f, Yields Q (h f)) : Yields Q (x.onNotificationFault h) := by
  refine yields_takenUp hx fun e => ?_
  have hy := perform_onNotificationFault x h e
  rcases hp : x.perform e with ⟨f | a, k⟩
  all_goals rw [hp] at hy
  · cases f
    case notification g => exact Or.inr ⟨h g, k, hh g, hy⟩
    all_goals exact Or.inl hy
  · exact Or.inl hy

lemma yields_onFailure (hx : Yields Q x) {h : Failure → EngineM α} (hh : ∀ f, Yields Q (h f)) :
    Yields Q (x.onFailure h) := by
  refine yields_takenUp hx fun e => ?_
  rcases hp : x.perform e with ⟨f | a, k⟩
  · exact Or.inr ⟨h f, k, hh f, onFailure_of_error hp⟩
  · exact Or.inl (onFailure_of_ok hp)

end EngineM

namespace NodeResult

/-- The result with another choice of what follows; a failure makes none. -/
def choosing (next : Option (List String)) : NodeResult → NodeResult
  | done output _ binding => done output next binding
  | failed fault output => failed fault output

variable (next next' : Option (List String)) (r : NodeResult)

@[simp] lemma output?_choosing : (r.choosing next).output? = r.output? := by cases r <;> rfl

@[simp] lemma fault?_choosing : (r.choosing next).fault? = r.fault? := by cases r <;> rfl

@[simp] lemma binding_choosing : (r.choosing next).binding = r.binding := by cases r <;> rfl

@[simp] lemma succeeded_choosing : (r.choosing next).succeeded = r.succeeded := by
  cases r <;> rfl

@[simp] lemma choosing_choosing : (r.choosing next).choosing next' = r.choosing next' := by
  cases r <;> rfl

lemma choosing_next : r.choosing r.next = r := by cases r <;> rfl

@[simp] lemma settle_choosing (s : Scope) : (r.choosing next).settle s = r.settle s := by
  unfold settle
  rw [binding_choosing]

end NodeResult

namespace Node

variable {node : Node} {scope : Scope} {e e' : Engine} {r : NodeResult} {f g : Flow} {holds : Bool}

/-- What the predicate of a condition comes to; any other node has none. -/
def verdict? (node : Node) (scope : Scope) : Option Bool :=
  match node.params? with
  | some (.condition p) => some (p.holds scope)
  | _ => none

/-- The ids that a node chooses in a flow; a node without a predicate chooses none. -/
def choice (node : Node) (flow : Flow) (scope : Scope) : Option (List String) :=
  (node.verdict? scope).map (branch flow node.id)

/-! ### Work without a choice -/

/-- Work chooses nothing. -/
abbrev Straight (x : EngineM NodeResult) : Prop := Yields (fun r => r.next = none) x

lemma straight_done (output : Fields) (binding : Option (String × Value)) :
    Straight (pure (.done output none binding)) := yields_pure rfl

lemma straight_failed (fault : NodeFault) (output : Option Fields) :
    Straight (pure (.failed fault output)) := yields_pure rfl

lemma straight_runEmail (p : EmailParams) (scope : Scope) : Straight (runEmail p scope) := by
  refine yields_bind fun recipient => yields_bind fun subject => yields_bind fun body => ?_
  split
  · exact straight_failed _ _
  · refine yields_onDeliveryFault ?_ fun f => straight_failed _ _
    exact yields_bind fun id => straight_done _ _

lemma straight_runNotification (p : NotificationParams) (scope : Scope) :
    Straight (runNotification p scope) := by
  refine yields_bind fun title => yields_bind fun message => ?_
  split
  · exact straight_failed _ _
  · refine yields_bind fun s => yields_onNotificationFault ?_ fun f => straight_failed _ _
    exact yields_bind fun row => straight_done _ _

lemma straight_runTask (p : TaskParams) (scope : Scope) : Straight (runTask p scope) := by
  refine yields_bind fun title => ?_
  split
  · exact straight_failed _ _
  · refine yields_bind fun today => yields_bind fun due => yields_bind fun description => ?_
    refine yields_bind fun assignee => yields_onStorageFault ?_ fun f => straight_failed _ _
    exact yields_bind fun stored => straight_done _ _

lemma straight_runFetch (p : FetchParams) (scope : Scope) : Straight (runFetch p scope) := by
  unfold runFetch
  split
  · exact straight_failed _ _
  · refine yields_bind fun filters => yields_bind fun s => ?_
    refine yields_onStorageFault ?_ fun f => straight_failed _ _
    exact yields_bind fun rows => yields_bind fun _ => straight_done _ _

lemma straight_runStatus (p : StatusParams) (scope : Scope) : Straight (runStatus p scope) := by
  refine yields_bind fun value => ?_
  dsimp only
  split
  · exact straight_failed _ _
  · refine yields_onStorageFault ?_ fun f => straight_failed _ _
    exact yields_bind fun count => straight_done _ _

lemma straight_runDelay (p : DelayParams) (scope : Scope) : Straight (runDelay p scope) := by
  refine yields_bind fun amount => yields_bind fun s => yields_bind fun most => ?_
  dsimp only
  split
  · exact yields_bind fun _ => yields_bind fun _ => straight_done _ _
  · exact yields_bind fun _ => straight_done _ _

lemma straight_runLoop (p : LoopParams) (scope : Scope) : Straight (runLoop p scope) := by
  refine yields_bind fun items => ?_
  split
  · exact straight_done _ _
  · exact straight_done _ _

lemma straight_work {p : Params} (hp : ∀ q, p ≠ .condition q) (node : Node) (scope : Scope) :
    (∀ f g, work node f scope p = work node g scope p) ∧
      ∀ f, Straight (work node f scope p) := by
  cases p with
  | condition q => exact absurd rfl (hp q)
  | trigger p => exact ⟨fun _ _ => rfl, fun _ => straight_done _ _⟩
  | sendEmail p => exact ⟨fun _ _ => rfl, fun _ => straight_runEmail p scope⟩
  | createTask p => exact ⟨fun _ _ => rfl, fun _ => straight_runTask p scope⟩
  | notification p => exact ⟨fun _ _ => rfl, fun _ => straight_runNotification p scope⟩
  | delay p => exact ⟨fun _ _ => rfl, fun _ => straight_runDelay p scope⟩
  | loop p => exact ⟨fun _ _ => rfl, fun _ => straight_runLoop p scope⟩
  | fetchData p => exact ⟨fun _ _ => rfl, fun _ => straight_runFetch p scope⟩
  | updateStatus p => exact ⟨fun _ _ => rfl, fun _ => straight_runStatus p scope⟩

/-! ### Execution in one flow and in another -/

lemma execute_of_no_params (hp : node.params? = none) (e : Engine) :
    ∃ o, (∀ f, (node.execute f scope).perform e = o) ∧
      ∀ r e', o = (.ok r, e') → r.next = none := by
  rcases hf : node.form with fault | ⟨name, given⟩
  · exact ⟨_, fun f => execute_error_iff.mpr ⟨fault, hf, rfl, rfl⟩, fun r e' h => by cases h⟩
  have hread : (ofExcept (fun f => .malformed (.nodeForm f)) node.form).perform e =
      (.ok (name, given), e) := perform_ofExcept_ok.mpr ⟨hf, rfl⟩
  rcases hk : kindOf name with _ | kind
  · have hform : ∀ f, (node.execute f scope).perform e = (do
        log .debug "Unknown node type, passing through"
        pure (NodeResult.done [("node_type", .text node.typeName), ("skipped", .bool true)])).perform
          e := by
      intro f
      refine (perform_bind_of_ok hread).trans ?_
      simp only [hk]
    refine ⟨_, hform, fun r e' h => ?_⟩
    exact yields_bind (fun _ => straight_done _ _) e r e' h
  · have hform : ∀ f, (node.execute f scope).perform e =
        (executeKind node f scope kind given).perform e :=
      fun f => execute_of_form hf hk f scope e
    rcases hr : readParams kind given with known | issues
    · have hsome : node.params? = some known.params := by
        simp [params?, hf, Except.toOption, hk, hr]
      rw [hp] at hsome
      cases hsome
    · simp only [executeKind, hr] at hform
      refine ⟨_, hform, fun r e' h => ?_⟩
      exact yields_bind (fun _ => straight_failed _ _) e r e' h

lemma execute_straight (hv : node.verdict? scope = none) (e : Engine) :
    ∃ o, (∀ f, (node.execute f scope).perform e = o) ∧
      ∀ r e', o = (.ok r, e') → r.next = none := by
  rcases hp : node.params? with _ | p
  · exact execute_of_no_params hp e
  have hno : ∀ q, p ≠ .condition q := by
    rintro q rfl
    rw [verdict?, hp] at hv
    cases hv
  obtain ⟨hsame, hstraight⟩ := straight_work hno node scope
  refine ⟨(node.execute {} scope).perform e, fun f => ?_, fun r e' h => ?_⟩
  · rw [perform_execute hp, perform_execute hp, hsame f {}]
  · rw [perform_execute hp] at h
    refine yields_onFailure (hstraight {}) (fun x => ?_) e r e' h
    exact yields_bind fun _ => straight_failed _ _

lemma execute_verdict (hv : node.verdict? scope = some holds) (e : Engine) :
    ∃ output e', ∀ f, (node.execute f scope).perform e =
      (.ok (.done output (some (branch f node.id holds))), e') := by
  unfold verdict? at hv
  split at hv
  · rename_i p hp
    obtain rfl := Option.some.inj hv
    obtain ⟨output, e', hw⟩ := work_condition node scope p e
    refine ⟨output, e', fun f => ?_⟩
    rw [perform_execute hp]
    exact onFailure_of_ok (hw f)
  · cases hv

/-- **A node in another flow**: it does the same work, and its result differs in the choice alone. -/
theorem execute_choice (h : (node.execute f scope).perform e = (.ok r, e')) (g : Flow) :
    r.next = node.choice f scope ∧
      (node.execute g scope).perform e = (.ok (r.choosing (node.choice g scope)), e') := by
  unfold choice
  rcases hv : node.verdict? scope with _ | holds
  · obtain ⟨o, ho, hnext⟩ := execute_straight hv e
    have hr := hnext r e' ((ho f).symm.trans h)
    refine ⟨hr, ?_⟩
    have hsame : r.choosing none = r := by
      rw [← hr]
      exact r.choosing_next
    rw [Option.map_none, hsame, ho g, ← ho f, h]
  · obtain ⟨output, k, hk⟩ := execute_verdict hv e
    have hfk := (hk f).symm.trans h
    cases hfk
    exact ⟨rfl, hk g⟩

lemma execute_error {x : Failure} (h : (node.execute f scope).perform e = (.error x, e'))
    (g : Flow) : (node.execute g scope).perform e = (.error x, e') :=
  execute_error_iff.mpr (execute_error_iff.mp h)

end Node

end CrmAutomation

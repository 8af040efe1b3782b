import CrmAutomation.Node.Execution
import CrmAutomation.Proofs.Engine.Frame

/-!
What comes of executing a node.

A node asks the store for what its parameters name, and for nothing else. Whatever goes wrong
becomes its result, and what is recorded of it is a value that JSON does not change; only a node
whose authored form cannot be read fails outside of its result.
-/

namespace CrmAutomation

open EngineM Record

namespace NodeResult

/-- What is recorded of a fault is a value that JSON does not change. -/
def Sound (r : NodeResult) : Prop := ∀ f, r.fault? = some f → f.report.IsJson

/-- Besides, no variable is set. -/
structure Mute (r : NodeResult) : Prop where
  sound : r.Sound
  unbound : r.binding = none

lemma sound_done (output : Fields) (next : Option (List String))
    (binding : Option (String × Value)) : (done output next binding).Sound := by
  intro f hf
  cases hf

lemma mute_done (output : Fields) (next : Option (List String)) : (done output next).Mute :=
  ⟨sound_done output next none, rfl⟩

lemma mute_failed {f : NodeFault} (h : f.report.IsJson) (output : Option Fields) :
    (failed f output).Mute := by
  refine ⟨fun g hg => ?_, rfl⟩
  cases hg
  exact h

/-- What comes of a node with some parameters: only a fetch sets a variable. -/
structure Fits (p : Option Node.Params) (r : NodeResult) : Prop where
  sound : r.Sound
  unbound : (∀ q, p ≠ some (.fetchData q)) → r.binding = none

lemma Mute.fits {r : NodeResult} (h : r.Mute) (p : Option Node.Params) : r.Fits p :=
  ⟨h.sound, fun _ => h.unbound⟩

end NodeResult

variable {may : Store.Operation → String → Prop} {K : Engine → Engine → Prop}

namespace Scope

lemma does_expand (s : Scope) (template : String) : Does K (fun _ => True) (s.expand template) :=
  (does_ofExcept _ _).mono fun _ _ => trivial

lemma does_expandOptional (s : Scope) (template : Option String) :
    Does K (fun _ => True) (s.expandOptional template) := by
  rcases template with _ | template
  · exact does_pure trivial
  · exact does_bind (does_expand s template) fun _ _ => does_pure trivial

/-- The value can be resolved. -/
def resolves (s : Scope) (v : Value) : Bool := (Value.resolve s.value v).isOk

lemma does_resolve (s : Scope) (v : Value) :
    Does K (fun _ => s.resolves v = true) (s.resolve v) :=
  (does_ofExcept _ _).mono fun _ h => by rw [resolves, h]; rfl

end Scope

/-! ### Mail and notifications -/

namespace Mail

lemma does_senderName (hK : Lockstep may K) (ha : may .select companyTable) :
    Does K (fun _ => True) senderName := by
  unfold senderName
  refine does_engine (fun e => ?_) fun h => by simp only [hK.settings h, hK.looksUpSender h]
  dsimp only
  split
  · refine does_bind (does_selectOrNone hK ha _ _ _) fun rows _ => ?_
    split <;> exact does_pure trivial
  · exact does_pure trivial

lemma does_post (hm : PostsMatch K) (p : Post) : Does K (fun _ => True) (post p) where
  meets {e k} h := by
    obtain ⟨reply, m, m', he, hk, h'⟩ := hm e k p h
    refine ⟨.ok reply, _, _, ?_, ?_, h'⟩
    · simp only [perform, post, he]
    · simp only [perform, post, hk]
  yields _ := trivial
  fails h := by cases h

lemma does_notDelivered {α : Type} {Q : α → Prop} (hK : Lockstep may K) (event : String)
    {f : DeliveryFault} (hf : f.reason.IsJson) : Does K Q (notDelivered event f : EngineM α) :=
  does_bind (does_log hK _ _) fun _ _ => does_throw hf

/-- A proxy's reason to refuse a message is part of a reply that came as JSON. -/
lemma isJson_reason {body : Value} {f : DeliveryFault} (hb : body.IsJson)
    (h : readBody body = .error f) : f.reason.IsJson := by
  unfold readBody at h
  split at h
  · split at h
    · cases h
      exact Value.isJson_orElse (Value.isJson_get hb _) (Value.isJson_text _)
    · cases h
  · cases h

lemma isJson_body (b : Body) : b.value.IsJson := by
  rcases b with v | s
  · exact Value.isJson_restored v
  · show ((Json.ofBytesOf? s).getD (.object [])).IsJson
    rcases h : Json.ofBytesOf? s with _ | v
    · rfl
    · obtain ⟨t, -, ht⟩ := Option.bind_eq_some_iff.mp h
      exact Json.isJson_of_parse? ht

lemma does_judge (hK : Lockstep may K) (status : Int) {body : Value} (hb : body.IsJson) :
    Does K (fun _ => True) (judge status body) := by
  unfold judge
  split
  · split
    · rename_i f hf
      exact does_notDelivered hK _ (isJson_reason hb hf)
    · exact does_bind (does_log hK _ _) fun _ _ => does_pure trivial
  · exact does_notDelivered hK _ (Value.isJson_text _)

lemma does_readReply (hK : Lockstep may K) (url : Url) (reply : Reply) :
    Does K (fun _ => True) (readReply url reply) := by
  unfold readReply
  split
  · exact does_notDelivered hK _ (Value.isJson_text _)
  · exact does_crash _
  · exact does_crash _
  · split
    · exact does_judge hK _ (isJson_body _)
    · exact does_crash _

lemma does_send (hK : Lockstep may K) (hm : PostsMatch K) (ha : may .select companyTable)
    (recipient subject body : Value) : Does K (fun _ => True) (send recipient subject body) := by
  refine does_bind (does_ofExcept _ _) fun text _ => ?_
  refine does_bind (does_senderName hK ha) fun sender _ => ?_
  refine does_bind (does_settings hK) fun s _ => ?_
  refine does_bind (does_ofExcept _ _) fun url _ => ?_
  split
  · split
    · exact does_crash _
    · exact does_bind (does_post hm _) fun reply _ => does_readReply hK url reply
  · exact does_crash _

end Mail

lemma Notification.does_make (hK : Lockstep may K) (ha : may .insert notificationsTable)
    (n : Notification) : Does K (fun _ => True) n.make := by
  unfold make
  split
  · have hi : Does K (fun _ => True) ((insert notificationsTable n.row).onStorageFault fun f =>
        throw (.notification (.notStored f))) :=
      does_onStorageFault (does_insert hK ha n.row) fun _ => does_throw (Value.isJson_text _)
    exact does_bind hi fun _ _ => does_bind (does_log hK _ _) fun _ _ => does_pure trivial
  · exact does_throw (Value.isJson_text _)

namespace Node

lemma does_done (output : Fields) (next : Option (List String)) :
    Does K NodeResult.Mute (pure (.done output next)) :=
  does_pure (NodeResult.mute_done output next)

lemma does_failed {f : NodeFault} {output : Option Fields} (h : f.report.IsJson) :
    Does K NodeResult.Mute (pure (.failed f output)) :=
  does_pure (NodeResult.mute_failed h output)

lemma does_runEmail (hK : Lockstep may K) (hm : PostsMatch K) (ha : may .select companyTable)
    (p : EmailParams) (scope : Scope) : Does K NodeResult.Mute (runEmail p scope) := by
  refine does_bind (scope.does_expand _) fun recipient _ => ?_
  refine does_bind (scope.does_expand _) fun subject _ => ?_
  refine does_bind (scope.does_expand _) fun body _ => ?_
  split
  · exact does_failed (Value.isJson_text _)
  · refine does_onDeliveryFault ?_ fun f hf => does_failed hf
    exact does_bind (Mail.does_send hK hm ha _ _ _) fun id _ => does_done _ _

lemma does_runNotification (hK : Lockstep may K) (ha : may .insert notificationsTable)
    (p : NotificationParams) (scope : Scope) :
    Does K NodeResult.Mute (runNotification p scope) := by
  refine does_bind (scope.does_expand _) fun title _ => ?_
  refine does_bind (scope.does_expand _) fun message _ => ?_
  split
  · exact does_failed (Value.isJson_text _)
  · refine does_bind (does_settings hK) fun s _ => ?_
    refine does_onNotificationFault ?_ fun f => does_failed (Value.isJson_text _)
    exact does_bind (Notification.does_make hK ha _) fun row _ => does_done _ _

/-! ### Records -/

lemma does_runTask (hK : Lockstep may K) (ha : may .insert tasksTable) (p : TaskParams)
    (scope : Scope) : Does K NodeResult.Mute (runTask p scope) := by
  refine does_bind (scope.does_expand _) fun title _ => ?_
  split
  · exact does_failed (Value.isJson_text _)
  · refine does_bind (does_now hK) fun today _ => ?_
    refine does_bind (does_ofExcept _ _) fun due _ => ?_
    refine does_bind (scope.does_expand _) fun description _ => ?_
    refine does_bind (scope.does_expandOptional _) fun assignee _ => ?_
    refine does_onStorageFault ?_ fun f => does_failed (Value.isJson_text _)
    exact does_bind (does_insert hK ha _) fun stored _ => does_done _ _

/-- A fetch that is complete, and whose filters can be resolved, asks for its rows. -/
def fetches (p : FetchParams) (scope : Scope) : Bool :=
  !p.table.isEmpty && p.filters.all fun f => scope.resolves f.value

lemma does_runFetch (hK : Lockstep may K) (p : FetchParams) (scope : Scope)
    (ha : fetches p scope = true → may .select p.table) :
    Does K NodeResult.Sound (runFetch p scope) := by
  have hfailed : ∀ {f : NodeFault}, f.report.IsJson →
      Does K NodeResult.Sound (pure (.failed f)) :=
    fun h => (does_failed h).mono fun _ hr => hr.sound
  unfold runFetch
  split
  · exact hfailed (Value.isJson_text _)
  · rename_i ht
    have hf : ∀ f, Does K (fun _ => scope.resolves f.value = true) (resolveFilter scope f) :=
      fun f => does_bind (scope.does_resolve f.value) fun _ h => does_pure h
    refine does_bind (does_mapM hf _) fun filters hall => ?_
    -- the rows are asked for only now, when every filter has its value
    have ha : may .select p.table := ha (by simpa [fetches, ht] using hall)
    refine does_bind (does_settings hK) fun s _ => ?_
    refine does_onStorageFault ?_ fun f => hfailed (Value.isJson_text _)
    refine does_bind (does_select hK ha _) fun rows _ => ?_
    exact does_bind (does_log hK _ _) fun _ _ => does_pure (NodeResult.sound_done _ _ _)

/-- A node whose value can be resolved, and that names what to set, asks for the update. -/
def sets (p : StatusParams) (scope : Scope) : Bool :=
  scope.resolves p.value &&
    !(p.table.isEmpty || p.field.isEmpty || !(scope.get "entity_id").isTruthy)

lemma does_runStatus (hK : Lockstep may K) (p : StatusParams) (scope : Scope)
    (ha : sets p scope = true → may .update p.table) :
    Does K NodeResult.Mute (runStatus p scope) := by
  refine does_bind (scope.does_resolve p.value) fun value hv => ?_
  dsimp only
  split
  · exact does_failed (Value.isJson_text _)
  · rename_i hno
    have ha : may .update p.table := ha (by rw [sets, hv, Bool.eq_false_iff.mpr hno]; rfl)
    refine does_onStorageFault ?_ fun f => does_failed (Value.isJson_text _)
    exact does_bind (does_update hK ha _ _) fun count _ => does_done _ _

/-! ### Control -/

lemma does_runCondition (hK : Lockstep may K) (p : ConditionParams) (id : String) (flow : Flow)
    (scope : Scope) : Does K NodeResult.Mute (runCondition p id flow scope) :=
  does_bind (does_logAll hK _) fun _ _ => does_done _ _

lemma does_settleAmount (hK : Lockstep may K) (a : Amount) :
    Does K (fun _ => True) (settleAmount a) := by
  rcases a with x | _ | _
  · simp only [settleAmount]
    split
    · exact does_pure trivial
    · exact does_bind (does_log hK _ _) fun _ _ => does_pure trivial
  · exact does_bind (does_log hK _ _) fun _ _ => does_pure trivial
  · exact does_crash _

lemma does_runDelay (hK : Lockstep may K) (p : DelayParams) (scope : Scope) :
    Does K NodeResult.Mute (runDelay p scope) := by
  refine does_bind (does_settleAmount hK _) fun amount _ => ?_
  refine does_bind (does_settings hK) fun s _ => ?_
  refine does_bind (does_ofExcept _ _) fun most _ => ?_
  dsimp only
  split
  · refine does_bind (does_log hK _ _) fun _ _ => ?_
    exact does_bind (does_wait hK _) fun _ _ => does_done _ _
  · exact does_bind (does_wait hK _) fun _ _ => does_done _ _

lemma does_runLoop (p : LoopParams) (scope : Scope) :
    Does K NodeResult.Mute (runLoop p scope) := by
  refine does_bind (does_ofExcept _ _) fun items _ => ?_
  split <;> exact does_done _ _

/-! ### Execution -/

/-- What the work with parameters asks the store for, in a scope. -/
def Params.asks (scope : Scope) : Params → List (Store.Operation × String)
  | .sendEmail _ => [(.select, companyTable)]
  | .createTask _ => [(.insert, tasksTable)]
  | .notification _ => [(.insert, notificationsTable)]
  | .fetchData p => if fetches p scope then [(.select, p.table)] else []
  | .updateStatus p => if sets p scope then [(.update, p.table)] else []
  | .trigger _ | .condition _ | .delay _ | .loop _ => []

lemma does_work (hK : Lockstep may K) (node : Node) (flow : Flow) (scope : Scope) (p : Params)
    (hm : ∀ q, p = .sendEmail q → PostsMatch K) (ha : ∀ a ∈ p.asks scope, may a.1 a.2) :
    Does K (NodeResult.Fits (some p)) (work node flow scope p) := by
  have hfits : ∀ {x : EngineM NodeResult}, Does K NodeResult.Mute x →
      Does K (NodeResult.Fits (some p)) x := fun h => h.mono fun _ hr => hr.fits _
  cases p with
  | trigger p => exact hfits (does_done _ _)
  | sendEmail p => exact hfits (does_runEmail hK (hm p rfl) (ha _ List.mem_cons_self) p scope)
  | createTask p => exact hfits (does_runTask hK (ha _ List.mem_cons_self) p scope)
  | notification p => exact hfits (does_runNotification hK (ha _ List.mem_cons_self) p scope)
  | condition p => exact hfits (does_runCondition hK p node.id flow scope)
  | delay p => exact hfits (does_runDelay hK p scope)
  | loop p => exact hfits (does_runLoop p scope)
  | fetchData p =>
    refine (does_runFetch hK p scope fun h => ha (.select, p.table) ?_).mono fun r hr => ?_
    · rw [Params.asks, if_pos h]
      exact List.mem_cons_self
    · exact ⟨hr, fun hno => absurd rfl (hno p)⟩
  | updateStatus p =>
    refine hfits (does_runStatus hK p scope fun h => ha (.update, p.table) ?_)
    rw [Params.asks, if_pos h]
    exact List.mem_cons_self

/-- The canonical kind and the parameters that a node is authored with. -/
def form (node : Node) : Except FormFault (Value × Fields) :=
  normalizeFields (Value.ofText? node.type) node.data

lemma execute_of_form {node : Node} {name : Value} {given : Fields} {kind : NodeKind}
    (hform : node.form = .ok (name, given)) (hkind : kindOf name = some kind) (flow : Flow)
    (scope : Scope) (e : Engine) :
    (node.execute flow scope).perform e = (executeKind node flow scope kind given).perform e := by
  refine (perform_bind_of_ok (perform_ofExcept_ok.mpr ⟨hform, rfl⟩)).trans ?_
  simp only [hkind]

/-- The parameters that a node works with: none unless its kind is known and they are valid. -/
def params? (node : Node) : Option Params := do
  let (name, given) ← node.form.toOption
  let kind ← kindOf name
  match readParams kind given with
  | .ok known => some known.params
  | .refused _ => none

/-- What a node asks the store for, in a scope. -/
def asks (node : Node) (scope : Scope) : List (Store.Operation × String) :=
  match node.params? with
  | some p => p.asks scope
  | none => []

lemma does_executeKind (hK : Lockstep may K) (node : Node) (flow : Flow) (scope : Scope)
    (kind : NodeKind) (given : Fields) {p : Option Params}
    (hp : ∀ known, readParams kind given = .ok known → p = some known.params)
    (hm : ∀ q, p = some (.sendEmail q) → PostsMatch K)
    (ha : ∀ q, p = some q → ∀ a ∈ q.asks scope, may a.1 a.2) :
    Does K (NodeResult.Fits p) (executeKind node flow scope kind given) := by
  have hfailed : ∀ {f : NodeFault}, f.report.IsJson →
      Does K (NodeResult.Fits p) (pure (.failed f)) :=
    fun hf => (does_failed hf).mono fun _ hr => hr.fits _
  unfold executeKind
  split
  · exact does_bind (does_log hK _ _) fun _ _ => hfailed (Value.isJson_text _)
  · rename_i known hk
    have hwork := does_work hK node flow scope known.params
      (fun q hq => hm q (hq ▸ hp known hk)) (ha _ (hp known hk))
    rw [← hp known hk] at hwork
    exact does_onFailure hwork fun f hf => does_bind (does_log hK _ _) fun _ _ => hfailed hf

/-- **Executing a node** keeps engines in lockstep as long as they stay so under what it asks the
store for, and under posts if it is a mail node. What it records of a fault is a value that JSON
does not change, and only a fetch sets a variable. -/
theorem does_execute (hK : Lockstep may K) (node : Node) (flow : Flow) (scope : Scope)
    (hm : ∀ q, node.params? = some (.sendEmail q) → PostsMatch K)
    (ha : ∀ a ∈ node.asks scope, may a.1 a.2) :
    Does K (NodeResult.Fits node.params?) (node.execute flow scope) := by
  unfold execute
  refine does_bind (does_ofExcept _ node.form) fun form hform => ?_
  obtain ⟨name, given⟩ := form
  dsimp only
  split
  · rename_i kind hkind
    refine does_executeKind hK node flow scope kind given (fun known hknown => ?_) hm
      fun q hq => ?_
    · simp [params?, hform, Except.toOption, hkind, hknown]
    · simpa only [Node.asks, hq] using ha
  · exact does_bind (does_log hK _ _) fun _ _ => (does_done _ _).mono fun _ hr => hr.fits _

lemma keeps_execute {W : String → Prop} {R : Engine → Engine → Prop} (hR : Frame W R) (node : Node)
    (flow : Flow) (scope : Scope) (ha : ∀ a ∈ node.asks scope, a.1 = .select ∨ W a.2)
    (e : Engine) : R e ((node.execute flow scope).perform e).2 :=
  hR.keeps e (does_execute (hR.lockstep e) node flow scope (fun _ _ => hR.postsMatch e) ha)

lemma fits_execute {node : Node} {flow : Flow} {scope : Scope} {e e' : Engine} {r : NodeResult}
    (h : (node.execute flow scope).perform e = (.ok r, e')) : r.Fits node.params? := by
  have hR := frame_steady executionsTable
  exact (does_execute (hR.lockstep e) node flow scope (fun _ _ => hR.postsMatch e)
    fun _ _ => Or.inr trivial).yields h

/-- The authored form of a node cannot be read. -/
def Unreadable (node : Node) : Prop := ∃ f, node.form = .error f

lemma executeKind_returns (node : Node) (flow : Flow) (scope : Scope) (kind : NodeKind)
    (given : Fields) (e : Engine) :
    ∃ r e', (executeKind node flow scope kind given).perform e = (.ok r, e') := by
  unfold executeKind
  split
  · exact ⟨_, _, perform_bind_of_ok (perform_log _ _ e)⟩
  · rename_i known _
    rcases h : (work node flow scope known.params).perform e with ⟨f | r, e'⟩
    · exact ⟨_, _, (onFailure_of_error h).trans (perform_bind_of_ok (perform_log _ _ e'))⟩
    · exact ⟨r, e', onFailure_of_ok h⟩

/-- **The boundary around a node**: executing it fails, rather than yields a result, exactly if its
authored form cannot be read; then nothing was done. -/
theorem execute_error_iff {node : Node} {flow : Flow} {scope : Scope} {e e' : Engine}
    {g : Failure} :
    (node.execute flow scope).perform e = (.error g, e') ↔
      ∃ f, node.form = .error f ∧ g = .crash (.malformed (.nodeForm f)) ∧ e' = e := by
  unfold execute
  rw [perform_bind_error]
  constructor
  · rintro (h | ⟨⟨name, given⟩, e₁, -, h⟩)
    · exact perform_ofExcept_error.mp h
    · dsimp only at h
      split at h
      · rename_i kind _
        obtain ⟨r, e₂, hr⟩ := executeKind_returns node flow scope kind given e₁
        rw [hr] at h
        cases h
      · cases h
  · exact fun h => Or.inl (perform_ofExcept_error.mpr h)

end Node

end CrmAutomation

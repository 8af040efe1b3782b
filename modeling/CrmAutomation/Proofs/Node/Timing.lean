import CrmAutomation.Proofs.Node.Delay

/-!
What takes time.

Only a delay lets time pass, and only one that is done: it takes as long as it reports. Whatever
other nodes do, and whatever comes of it, the clock stays as it is.
-/

namespace CrmAutomation

open EngineM Record

namespace EngineM

variable {α β : Type} {x : EngineM α} {f : α → EngineM β}

/-- The clock stays as it is. -/
def Still (x : EngineM α) : Prop := ∀ e, (x.perform e).2.clock = e.clock

lemma still_pure (a : α) : Still (pure a) := fun _ => rfl

lemma still_log (level : Log.Level) (event : String) : Still (log level event) := fun _ => rfl

lemma still_bind (hx : Still x) (hf : ∀ a, Still (f a)) : Still (x >>= f) := by
  intro e
  have h := hx e
  rw [perform_bind]
  rcases hp : x.perform e with ⟨g | a, k⟩
  all_goals rw [hp] at h
  · exact h
  · exact (hf a k).trans h

lemma still_ofExcept {ε : Type} (c : ε → Crash) (r : Except ε α) : Still (ofExcept c r) := by
  rcases r with k | a
  · exact fun _ => rfl
  · exact fun _ => rfl

lemma still_stored (op : Store → Store.Outcome α) : Still (stored op) := by
  intro e
  rw [perform_stored]
  rcases op e.store with ⟨r | a, s⟩
  · rfl
  · rfl

lemma still_insert (table : String) (row : Row) : Still (insert table row) :=
  still_bind (fun _ => rfl) fun _ => still_stored _

lemma still_takenUp {y : EngineM α} {ι : Type} {h : ι → EngineM α} (hx : Still x)
    (hh : ∀ i, Still (h i))
    (hy : ∀ e, y.perform e = x.perform e ∨ ∃ i, y.perform e = (h i).perform (x.perform e).2) :
    Still y := by
  intro e
  rcases hy e with hsame | ⟨i, hnext⟩
  · rw [hsame]
    exact hx e
  · rw [hnext]
    exact (hh i _).trans (hx e)

lemma still_onStorageFault {h : Store.Fault → EngineM α} (hx : Still x)
    (hh : ∀ f, Still (h f)) : Still (x.onStorageFault h) :=
  still_takenUp hx hh (onStorageFault_cases x h)

lemma still_onDeliveryFault {h : Mail.DeliveryFault → EngineM α} (hx : Still x)
    (hh : ∀ f, Still (h f)) : Still (x.onDeliveryFault h) :=
  still_takenUp hx hh (onDeliveryFault_cases x h)

lemma still_onNotificationFault {h : NotificationFault → EngineM α} (hx : Still x)
    (hh : ∀ f, Still (h f)) : Still (x.onNotificationFault h) :=
  still_takenUp hx hh (onNotificationFault_cases x h)

lemma still_onFailure {h : Failure → EngineM α} (hx : Still x) (hh : ∀ f, Still (h f)) :
    Still (x.onFailure h) := still_takenUp hx hh (onFailure_cases x h)

end EngineM

/-! ### Mail and notifications -/

namespace Mail

lemma still_senderName : Still senderName := by
  refine still_bind (fun _ => rfl) fun e => ?_
  dsimp only
  split
  · refine still_bind (still_onStorageFault (still_stored _) fun _ => fun _ => rfl) fun rows => ?_
    split <;> exact still_pure _
  · exact still_pure _

lemma still_readReply (url : Url) (reply : Reply) : Still (readReply url reply) := by
  have hnot : ∀ event f, Still (notDelivered event f : EngineM Value) := fun _ _ _ => rfl
  unfold readReply
  split
  · exact hnot _ _
  · exact fun _ => rfl
  · exact fun _ => rfl
  · split
    · unfold judge
      split
      · split
        · exact hnot _ _
        · exact still_bind (still_log _ _) fun _ => still_pure _
      · exact hnot _ _
    · exact fun _ => rfl

lemma still_send (recipient subject body : Value) : Still (send recipient subject body) := by
  refine still_bind (still_ofExcept _ _) fun text => ?_
  refine still_bind still_senderName fun sender => ?_
  refine still_bind (fun _ => rfl) fun s => ?_
  refine still_bind (still_ofExcept _ _) fun url => ?_
  split
  · split
    · exact fun _ => rfl
    · exact still_bind (fun _ => rfl) fun reply => still_readReply url reply
  · exact fun _ => rfl

end Mail

lemma Notification.still_make (n : Notification) : Still n.make := by
  unfold make
  split
  · refine still_bind (still_onStorageFault (still_insert _ _) fun _ => fun _ => rfl) fun _ => ?_
    exact still_bind (still_log _ _) fun _ => still_pure _
  · exact fun _ => rfl

/-- The delay that a result reports, in milliseconds; it is zero if none is reported. -/
def NodeResult.delayMs (r : NodeResult) : ℤ :=
  match Fields.get (r.output?.getD []) "delay_ms" with
  | .int n => n
  | _ => 0

/-! ### Nodes -/

namespace Node

variable {node : Node} {flow : Flow} {scope : Scope} {e e' : Engine} {r : NodeResult}
  {kind : NodeKind} {p : Params}

lemma still_runEmail (p : EmailParams) (scope : Scope) : Still (runEmail p scope) := by
  refine still_bind (still_ofExcept _ _) fun recipient => ?_
  refine still_bind (still_ofExcept _ _) fun subject => ?_
  refine still_bind (still_ofExcept _ _) fun body => ?_
  split
  · exact still_pure _
  · refine still_onDeliveryFault ?_ fun f => still_pure _
    exact still_bind (Mail.still_send _ _ _) fun id => still_pure _

lemma still_runNotification (p : NotificationParams) (scope : Scope) :
    Still (runNotification p scope) := by
  refine still_bind (still_ofExcept _ _) fun title => ?_
  refine still_bind (still_ofExcept _ _) fun message => ?_
  split
  · exact still_pure _
  · refine still_bind (fun _ => rfl) fun s => ?_
    refine still_onNotificationFault ?_ fun f => still_pure _
    exact still_bind (Notification.still_make _) fun row => still_pure _

lemma still_runTask (p : TaskParams) (scope : Scope) : Still (runTask p scope) := by
  refine still_bind (still_ofExcept _ _) fun title => ?_
  split
  · exact still_pure _
  · refine still_bind (fun _ => rfl) fun today => ?_
    refine still_bind (still_ofExcept _ _) fun due => ?_
    refine still_bind (still_ofExcept _ _) fun description => ?_
    refine still_bind (fun e => ?_) fun assignee => ?_
    · rw [looks_expandOptional]
    · refine still_onStorageFault ?_ fun f => still_pure _
      exact still_bind (still_insert _ _) fun stored => still_pure _

lemma still_runFetch (p : FetchParams) (scope : Scope) : Still (runFetch p scope) := by
  unfold runFetch
  split
  · exact still_pure _
  · refine still_bind (fun e => ?_) fun filters => ?_
    · rw [looks_resolveFilters]
    · refine still_bind (fun _ => rfl) fun s => ?_
      refine still_onStorageFault ?_ fun f => still_pure _
      exact still_bind (still_stored _) fun rows =>
        still_bind (still_log _ _) fun _ => still_pure _

lemma still_runStatus (p : StatusParams) (scope : Scope) : Still (runStatus p scope) := by
  refine still_bind (still_ofExcept _ _) fun value => ?_
  dsimp only
  split
  · exact still_pure _
  · refine still_onStorageFault ?_ fun f => still_pure _
    exact still_bind (still_stored _) fun count => still_pure _

lemma still_runLoop (p : LoopParams) (scope : Scope) : Still (runLoop p scope) := by
  refine still_bind (still_ofExcept _ _) fun items => ?_
  split <;> exact still_pure _

lemma still_work (hp : p.kind ≠ .delay) (node : Node) (flow : Flow) (scope : Scope) :
    Still (work node flow scope p) := by
  cases p with
  | delay p => exact absurd rfl hp
  | trigger p => exact still_pure _
  | sendEmail p => exact still_runEmail p scope
  | createTask p => exact still_runTask p scope
  | notification p => exact still_runNotification p scope
  | condition p => exact still_bind (fun _ => rfl) fun _ => still_pure _
  | loop p => exact still_runLoop p scope
  | fetchData p => exact still_runFetch p scope
  | updateStatus p => exact still_runStatus p scope

/-! ### The kinds of nodes -/

/-- The kind of a node, however its author names it. -/
def kind? (node : Node) : Option NodeKind := do
  let (name, _) ← node.form.toOption
  kindOf name

lemma kind_of_readParams {given : Fields} {known : KnownParams}
    (h : readParams kind given = .ok known) : known.params.kind = kind := by
  unfold readParams at h
  obtain ⟨p, hp, rfl⟩ := Schema.Checked.map_eq_ok.mp (Schema.Checked.within_eq_ok.mp h)
  cases kind
  all_goals
    obtain ⟨q, -, rfl⟩ := Schema.Checked.map_eq_ok.mp hp
    rfl

lemma kind?_of_params (h : node.params? = some p) : node.kind? = some p.kind := by
  obtain ⟨name, given, kind, known, hform, hkind, hknown, rfl⟩ := params?_eq_some h
  rw [kind?, hform, kind_of_readParams hknown]
  exact hkind

lemma execute_without_params (hp : node.params? = none)
    (h : (node.execute flow scope).perform e = (.ok r, e')) :
    (∃ level event, e' = e.noting level event) ∧ (r.succeeded = true → node.kind? = none) := by
  rcases hf : node.form with fault | ⟨name, given⟩
  · rw [execute_error_iff.mpr ⟨fault, hf, rfl, rfl⟩] at h
    cases h
  have hread : (ofExcept (fun f => .malformed (.nodeForm f)) node.form).perform e =
      (.ok (name, given), e) := perform_ofExcept_ok.mpr ⟨hf, rfl⟩
  have hkind : node.kind? = kindOf name := by rw [kind?, hf]; rfl
  have hx := (perform_bind_of_ok hread).symm.trans h
  rcases hk : kindOf name with _ | kind
  · simp only [hk] at hx
    cases hx
    exact ⟨⟨_, _, rfl⟩, fun _ => hkind.trans hk⟩
  · rcases hr : readParams kind given with known | issues
    · have hsome : node.params? = some known.params := by
        simp [params?, hf, Except.toOption, hk, hr]
      rw [hp] at hsome
      cases hsome
    · rw [execute_of_form hf hk] at h
      simp only [executeKind, hr] at h
      cases h
      exact ⟨⟨_, _, rfl⟩, fun hs => by cases hs⟩

lemma clock_of_no_delay (hno : ∀ p, node.params? ≠ some (.delay p))
    (h : (node.execute flow scope).perform e = (.ok r, e')) : e'.clock = e.clock := by
  rcases hp : node.params? with _ | p
  · obtain ⟨⟨level, event, rfl⟩, -⟩ := execute_without_params hp h
    rfl
  · have hkind : p.kind ≠ .delay := by
      cases p with
      | delay q => exact absurd hp (hno q)
      | _ => exact NodeKind.noConfusion
    have hstill := still_onFailure (h := fun f => do
      log .error "Node execution error"
      pure (NodeResult.failed (.failure f))) (still_work hkind node flow scope)
      fun _ => still_bind (still_log _ _) fun _ => still_pure _
    have hclock := hstill e
    rw [← perform_execute hp, h] at hclock
    exact hclock

/-! ### Delays -/

lemma delayMs_of_waited {delay requested : ℤ} (h : r.output = .object (waited delay requested)) :
    r.delayMs = delay := by
  rcases ho : r.output? with _ | fs
  · rw [NodeResult.output, ho] at h
    cases h
  · rw [NodeResult.output, ho] at h
    cases h
    rw [NodeResult.delayMs, ho]
    rfl

/-- What the clock says of a result: so many milliseconds went by, as the result reports and the
settings allow. -/
def Took (e e' : Engine) (r : NodeResult) : Prop :=
  ∃ requested most, e.settings.maxDelayMs = .ok most ∧
    r.output = .object (waited (min requested most) requested) ∧
    e'.clock = e.clock + min requested most

lemma delay_cases {p : DelayParams} (hp : node.params? = some (.delay p))
    (h : (node.execute flow scope).perform e = (.ok r, e')) :
    r.succeeded = true ∧ Took e e' r ∨ r.succeeded = false ∧ e'.clock = e.clock := by
  by_cases hstop : p.Huge ∨ ∃ fault, e.settings.maxDelayMs = .error fault
  · obtain ⟨c, k, hfail, hclock⟩ := perform_delay_error hp hstop flow scope
    cases hfail.symm.trans h
    exact Or.inr ⟨rfl, hclock⟩
  · obtain ⟨hhuge, hfault⟩ := not_or.mp hstop
    rcases hmost : e.settings.maxDelayMs with fault | most
    · exact absurd ⟨fault, hmost⟩ hfault
    · obtain ⟨k, hdone, hclock⟩ := perform_delay hp hhuge hmost flow scope
      cases hdone.symm.trans h
      exact Or.inl ⟨rfl, _, most, hmost, rfl, hclock⟩

lemma took_of_delay (hk : node.kind? = some .delay)
    (h : (node.execute flow scope).perform e = (.ok r, e')) (hr : r.succeeded = true) :
    Took e e' r := by
  rcases hp : node.params? with _ | p
  · rw [(execute_without_params hp h).2 hr] at hk
    cases hk
  have hkind := (kind?_of_params hp).symm.trans hk
  cases p with
  | delay p =>
    rcases delay_cases hp h with ⟨-, htook⟩ | ⟨hfailed, -⟩
    · exact htook
    · exact absurd hr (Bool.eq_false_iff.mp hfailed)
  | _ => cases hkind

lemma clock_of_no_wait (hno : ¬(node.kind? = some .delay ∧ r.succeeded = true))
    (h : (node.execute flow scope).perform e = (.ok r, e')) : e'.clock = e.clock := by
  by_cases hp : ∃ p, node.params? = some (.delay p)
  · obtain ⟨p, hp⟩ := hp
    rcases delay_cases hp h with ⟨hdone, -⟩ | ⟨-, hclock⟩
    · exact absurd ⟨kind?_of_params hp, hdone⟩ hno
    · exact hclock
  · exact clock_of_no_delay (fun p hp' => hp ⟨p, hp'⟩) h

end Node

end CrmAutomation

import CrmAutomation.Proofs.Node.Effect

/-!
Work that does at most one operation of the store.

Nodes are such work: whatever else they do, they ask the store once or not at all. So the points
between two nodes are all there are between two operations of the store, but for those at which the
run itself writes.
-/

namespace CrmAutomation

open EngineM Record

namespace EngineM

variable {α β : Type} {x y : EngineM α} {f : α → EngineM β}

/-- The store stays as it is. -/
def Quiet (x : EngineM α) : Prop := ∀ e, (x.perform e).2.store = e.store

/-- The store stays as it is, or one operation takes it on. -/
def Single (x : EngineM α) : Prop :=
  ∀ e, (x.perform e).2.store = e.store ∨
    Store.Moves (fun _ => True) e.store (x.perform e).2.store

lemma quiet_of_does {Q : α → Prop}
    (h : ∀ K, Lockstep (fun _ _ => False) K → Does K Q x) : Quiet x := by
  intro e
  have hlock : Lockstep (fun _ _ => False) fun e' k => e' = k ∧ e'.store = e.store :=
    lockstep_self (fun _ _ h => h) (fun _ _ h => h) (fun _ _ _ _ ha => ha.elim)
      (fun _ _ _ _ ha => ha.elim) fun _ _ _ ha => ha.elim
  obtain ⟨r, e', k', he, -, -, hs⟩ := (h _ hlock).meets ⟨rfl, rfl⟩
  rw [he]
  exact hs

lemma Quiet.single (h : Quiet x) : Single x := fun e => Or.inl (h e)

lemma quiet_pure (a : α) : Quiet (pure a) := fun _ => rfl

lemma single_stored {op : Store → Store.Outcome α}
    (h : ∀ s, Store.Moves (fun _ => True) s (op s).2) : Single (stored op) := by
  intro e
  rw [store_stored]
  exact Or.inr (h e.store)

lemma quiet_bind (hx : Quiet x) (hf : ∀ a, Quiet (f a)) : Quiet (x >>= f) := by
  intro e
  have h := hx e
  rw [perform_bind]
  rcases hp : x.perform e with ⟨g | a, k⟩
  all_goals rw [hp] at h
  · exact h
  · exact (hf a k).trans h

lemma single_bind_left (hx : Quiet x) (hf : ∀ a, Single (f a)) : Single (x >>= f) := by
  intro e
  have h := hx e
  rw [perform_bind]
  rcases hp : x.perform e with ⟨g | a, k⟩
  all_goals rw [hp] at h
  · exact Or.inl h
  · have hstore : k.store = e.store := h
    have hnext := hf a k
    rw [hstore] at hnext
    exact hnext

lemma store_bind_of_quiet (hf : ∀ a, Quiet (f a)) (e : Engine) :
    ((x >>= f).perform e).2.store = (x.perform e).2.store := by
  rw [perform_bind]
  rcases x.perform e with ⟨g | a, k⟩
  · rfl
  · exact hf a k

lemma single_bind_right (hx : Single x) (hf : ∀ a, Quiet (f a)) : Single (x >>= f) := by
  intro e
  rw [store_bind_of_quiet hf]
  exact hx e

lemma single_takenUp (hx : Single x)
    (hy : ∀ e, y.perform e = x.perform e ∨
      ∃ z : EngineM α, Quiet z ∧ y.perform e = z.perform (x.perform e).2) : Single y := by
  intro e
  have hstore := hx e
  rcases hy e with hsame | ⟨z, hz, hsame⟩
  · rw [hsame]
    exact hstore
  · rw [hsame, hz]
    exact hstore

lemma single_onFailure (hx : Single x) {h : Failure → EngineM α} (hh : ∀ f, Quiet (h f)) :
    Single (x.onFailure h) :=
  single_takenUp hx fun e => (onFailure_cases x h e).imp_right fun ⟨g, hg⟩ => ⟨h g, hh g, hg⟩

lemma single_onStorageFault (hx : Single x) {h : Store.Fault → EngineM α}
    (hh : ∀ f, Quiet (h f)) : Single (x.onStorageFault h) :=
  single_takenUp hx fun e =>
    (onStorageFault_cases x h e).imp_right fun ⟨g, hg⟩ => ⟨h g, hh g, hg⟩

lemma single_onDeliveryFault (hx : Single x) {h : Mail.DeliveryFault → EngineM α}
    (hh : ∀ f, Quiet (h f)) : Single (x.onDeliveryFault h) :=
  single_takenUp hx fun e =>
    (onDeliveryFault_cases x h e).imp_right fun ⟨g, hg⟩ => ⟨h g, hh g, hg⟩

end EngineM

/-! ### Mail -/

namespace Mail

lemma single_senderName : Single senderName := by
  refine single_bind_left (fun _ => rfl) fun e => ?_
  dsimp only
  split
  · refine single_bind_right (single_onStorageFault ?_ fun _ => fun _ => rfl) fun rows => ?_
    · exact single_stored fun s => .select s _ _
    · split <;> exact quiet_pure _
  · exact (quiet_pure _).single

lemma single_send (recipient subject body : Value) : Single (send recipient subject body) := by
  refine single_bind_left (quiet_of_does fun K _ => does_ofExcept _ _) fun text => ?_
  refine single_bind_right single_senderName fun sender => ?_
  refine quiet_bind (fun _ => rfl) fun s => ?_
  refine quiet_bind (quiet_of_does fun K _ => does_ofExcept _ _) fun url => ?_
  split
  · split
    · exact fun _ => rfl
    · exact quiet_bind (fun _ => rfl) fun reply =>
        quiet_of_does fun K hK => does_readReply hK url reply
  · exact fun _ => rfl

end Mail

/-! ### Nodes -/

namespace Node

variable {β : Type} {ops : (Store → Store.Outcome β) → Prop}
  {binding : β → Option (String × Value)} {e : Engine}
  {o : Except Failure NodeResult × Engine}

lemma single_of_ends (h : Ends ops binding e o)
    (hops : ∀ op, ops op → Store.Moves (fun _ => True) e.store (op e.store).2) :
    o.2.store = e.store ∨ Store.Moves (fun _ => True) e.store o.2.store := by
  rcases h with h | ⟨op, hop, h⟩
  · exact Or.inl h.store
  · rw [h.store]
    exact Or.inr (hops op hop)

lemma single_runEmail (p : EmailParams) (scope : Scope) : Single (runEmail p scope) := by
  have hexpand : ∀ template, Quiet (scope.expand template) :=
    fun template => quiet_of_does fun K _ => scope.does_expand template
  refine single_bind_left (hexpand _) fun recipient => ?_
  refine single_bind_left (hexpand _) fun subject => ?_
  refine single_bind_left (hexpand _) fun body => ?_
  split
  · exact (quiet_pure _).single
  · refine single_onDeliveryFault ?_ fun f => quiet_pure _
    exact single_bind_right (Mail.single_send _ _ _) fun id => quiet_pure _

lemma single_work (node : Node) (flow : Flow) (scope : Scope) (p : Params) :
    Single (work node flow scope p) := by
  cases p with
  | trigger p => exact (quiet_pure _).single
  | sendEmail p => exact single_runEmail p scope
  | condition p =>
    exact (quiet_of_does fun K hK => does_runCondition hK p node.id flow scope).single
  | delay p => exact (quiet_of_does fun K hK => does_runDelay hK p scope).single
  | loop p => exact (quiet_of_does fun K _ => does_runLoop p scope).single
  | createTask p =>
    intro e
    refine single_of_ends (ends_runTask p scope e) ?_
    rintro _ ⟨row, rfl⟩
    exact .insert _ _ _ row trivial
  | notification p =>
    intro e
    refine single_of_ends (ends_runNotification p scope e) ?_
    rintro _ ⟨row, rfl⟩
    exact .insert _ _ _ row trivial
  | fetchData p =>
    intro e
    refine single_of_ends (ends_runFetch p scope e) ?_
    rintro _ ⟨filters, -, rfl⟩
    exact .select _ _ _
  | updateStatus p =>
    intro e
    refine single_of_ends (ends_runStatus p scope e) ?_
    rintro _ ⟨value, -, rfl⟩
    exact .update _ _ _ _ trivial

/-- **A node asks the store at most once.** -/
theorem single_execute (node : Node) (flow : Flow) (scope : Scope) :
    Single (node.execute flow scope) := by
  refine single_bind_left (quiet_of_does fun K _ => does_ofExcept _ _) fun form => ?_
  dsimp only
  split
  · unfold executeKind
    split
    · exact Quiet.single fun _ => rfl
    · exact single_onFailure (single_work node flow scope _) fun f => fun _ => rfl
  · exact Quiet.single fun _ => rfl

end Node

end CrmAutomation

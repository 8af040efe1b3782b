import CrmAutomation.Execution.Administration
import CrmAutomation.Proofs.Event.Firing
import CrmAutomation.Rule.Handling

/-!
What callers of the engine ask the store for, apart from runs.

To find what an event starts, and to look at executions, is to select rows. A rule asks for one of a
few operations, and its tables are fixed: authors of rules choose templates, but no tables.
-/

namespace CrmAutomation

open EngineM Record

variable {may : Store.Operation → String → Prop} {K : Engine → Engine → Prop}

/-! ### Events -/

namespace Trigger

section Steps

variable (hK : Lockstep may K)
include hK

lemma does_holdAll (cs : List Condition) (data : Value) :
    Does K (fun _ => True) (holdAll cs data) :=
  does_bind (does_logAll hK _) fun _ _ => does_pure trivial

lemma does_matchRow (event payload : Value) (row : Row) :
    Does K (fun _ => True) (matchRow event payload row) := by
  unfold matchRow
  refine does_bind (does_ofExcept _ _) fun named _ => ?_
  split
  · refine does_bind (does_ofExcept _ _) fun read _ => ?_
    rcases read with e | d
    · exact does_bind (does_log hK _ _) fun _ _ => does_pure trivial
    · refine does_bind (does_holdAll hK _ _) fun met _ => ?_
      split
      · exact does_pure trivial
      · exact does_bind (does_log hK _ _) fun _ _ => does_pure trivial
  · exact does_pure trivial

lemma does_matchRows (event payload : Value) (rows : List Row) :
    Does K (fun _ => True) (matchRows event payload rows) := by
  induction rows with
  | nil => exact does_pure trivial
  | cons row rows ih =>
    refine does_bind (does_matchRow hK event payload row) fun _ _ => ?_
    exact does_bind ih fun _ _ => does_pure trivial

lemma does_matching (ha : may .select definitionsTable) (event payload : Value) :
    Does K (fun _ => True) (matching event payload) :=
  does_bind (does_selectOrNone hK ha _ _ _) fun rows _ => does_matchRows hK event payload rows

lemma does_seek (ha : may .select definitionsTable) (event : Value) (entityType : String)
    (entityId payload : Value) :
    Does K (fun _ => True) (seek event entityType entityId payload) := by
  unfold seek
  refine does_bind (does_ofExcept _ _) fun fields _ => ?_
  refine does_bind (does_matching hK ha event _) fun definitions _ => ?_
  dsimp only
  split
  · exact does_bind (does_log hK _ _) fun _ _ => does_pure trivial
  · exact does_bind (does_log hK _ _) fun _ _ => does_pure trivial

end Steps

end Trigger

/-! ### Rules -/

namespace Rule

/-- What handling events asks the store for. -/
def asks : List (Store.Operation × String) := [
  (.select, rulesTable), (.update, rulesTable), (.select, companyTable), (.insert, tasksTable),
  (.insert, notificationsTable), (.update, "leads"), (.update, "deals")]

variable {r : Rule} {node : Node} {vars vars' : Fields} {table field : String}

lemma asks_mailPlan (h : r.mailPlan vars = .ok (node, vars')) (scope : Scope) :
    ∀ a ∈ node.asks scope, a ∈ asks ∧ a.2 ≠ rulesTable := by
  have hmem : ∀ path, ∀ a ∈ (r.emailNode path).asks scope, a ∈ asks ∧ a.2 ≠ rulesTable := by
    intro path
    have hasks : (r.emailNode path).asks scope = [(.select, companyTable)] := rfl
    rw [hasks]
    decide
  unfold mailPlan at h
  split at h
  · cases h
    exact hmem _
  · split at h
    · cases h
      exact hmem _
    · cases h

lemma asks_statusNode (ht : (Store.Operation.update, table) ∈ asks ∧ table ≠ rulesTable)
    (hp : (r.statusNode table field).params? =
      some (.updateStatus ⟨table, field, .text (r.templateOr "")⟩)) (scope : Scope) :
    ∀ a ∈ (r.statusNode table field).asks scope, a ∈ asks ∧ a.2 ≠ rulesTable := by
  have hasks : (r.statusNode table field).asks scope =
      if Node.sets ⟨table, field, .text (r.templateOr "")⟩ scope then [(.update, table)]
      else [] := by
    rw [Node.asks, hp]
    rfl
  intro a ha
  rw [hasks] at ha
  split at ha
  · rw [List.mem_singleton.mp ha]
    exact ht
  · cases ha

lemma asks_statusPlan (h : r.statusPlan vars = .ok (node, vars')) (scope : Scope) :
    ∀ a ∈ node.asks scope, a ∈ asks ∧ a.2 ≠ rulesTable := by
  unfold statusPlan at h
  dsimp only at h
  split at h
  · cases h
  · split at h
    · cases h
      exact asks_statusNode (by decide) rfl scope
    · split at h
      · cases h
        exact asks_statusNode (by decide) rfl scope
      · cases h

lemma asks_plan (h : r.plan vars = .ok (node, vars')) (scope : Scope) :
    ∀ a ∈ node.asks scope, a ∈ asks ∧ a.2 ≠ rulesTable := by
  unfold plan at h
  split at h
  · exact asks_mailPlan h scope
  · split at h
    · cases h
      have hasks : r.taskNode.asks scope = [(.insert, tasksTable)] := rfl
      rw [hasks]
      decide
    · split at h
      · cases h
        have hasks : r.notificationNode.asks scope = [(.insert, notificationsTable)] := rfl
        rw [hasks]
        decide
      · split at h
        · exact asks_statusPlan h scope
        · cases h

section Steps

variable (hK : Lockstep may K)
include hK

lemma does_readRows (rows : List Row) : Does K (fun _ => True) (readRows rows) := by
  induction rows with
  | nil => exact does_pure trivial
  | cons row rows ih =>
    unfold readRows
    split
    · exact does_bind ih fun _ _ => does_pure trivial
    · exact does_bind (does_log hK _ _) fun _ _ => ih

lemma does_matching (ha : may .select rulesTable) (event : Value) :
    Does K (fun _ => True) (matching event) :=
  does_bind (does_selectOrNone hK ha _ _ _) fun rows _ => does_readRows hK rows

lemma does_prepare (r : Rule) (vars : Fields) :
    Does K (fun o => ∀ p, o = some p → r.plan vars = .ok p) (r.prepare vars) := by
  unfold prepare
  split
  · rename_i p hp
    refine does_pure fun q hq => ?_
    cases hq
    exact hp
  · exact does_bind (does_log hK _ _) fun _ _ => does_pure (by simp)

lemma does_track (ha : may .update rulesTable) (r : Rule) : Does K (fun _ => True) r.track := by
  refine does_bind (does_now hK) fun t _ => ?_
  refine does_onStorageFault ?_ fun _ => does_log hK _ _
  exact does_bind (does_update hK ha _ _) fun _ _ => does_pure trivial

lemma does_act (hm : PostsMatch K) (ha : may .update rulesTable) (r : Rule) {scope : Scope}
    (hnode : ∀ a ∈ node.asks scope, may a.1 a.2) : Does K (fun _ => True) (r.act node scope) := by
  refine does_bind (Node.does_execute hK node _ scope (fun _ _ => hm) hnode) fun result _ => ?_
  split
  · exact does_bind (does_track hK ha r) fun _ _ => does_pure trivial
  · exact does_bind (does_log hK _ _) fun _ _ => does_pure trivial

lemma does_run (hm : PostsMatch K) (ha : ∀ a ∈ asks, may a.1 a.2) (r : Rule) (payload : Fields) :
    Does K (fun _ => True) (r.run payload) := by
  have hupdate : may .update rulesTable := ha (.update, rulesTable) (by decide)
  refine does_bind (does_now hK) fun t _ => ?_
  refine does_bind (Trigger.does_holdAll hK _ _) fun met _ => ?_
  split
  · refine does_bind (does_prepare hK r _) fun prepared hp => ?_
    rcases prepared with _ | ⟨node, vars⟩
    · exact does_pure trivial
    · have hplan := hp _ rfl
      exact does_act hK hm hupdate r fun a hasks => ha a (asks_plan hplan _ a hasks).1
  · exact does_bind (does_log hK _ _) fun _ _ => does_pure trivial

lemma does_runAll (hm : PostsMatch K) (ha : ∀ a ∈ asks, may a.1 a.2) (payload : Fields)
    (rs : List Rule) : Does K (fun _ => True) (runAll payload rs) := by
  induction rs with
  | nil => exact does_pure trivial
  | cons r rs ih =>
    have hrun : Does K (fun _ => True) ((r.run payload).onFailure fun _ => do
        log .error "Error running automation rule"
        pure false) :=
      does_onFailure (does_run hK hm ha r payload) fun _ _ =>
        does_bind (does_log hK _ _) fun _ _ => does_pure trivial
    exact does_bind hrun fun _ _ => does_bind ih fun _ _ => does_pure trivial

/-- **Handling an event** asks the store for a few operations on fixed tables, whatever the rules
are. -/
theorem does_handle (hm : PostsMatch K) (ha : ∀ a ∈ asks, may a.1 a.2) (event : Value)
    (entityType : String) (entityId data : Value) :
    Does K (fun _ => True) (handle event entityType entityId data) := by
  have hselect : may .select rulesTable := ha (.select, rulesTable) (by decide)
  refine does_bind (does_matching hK hselect event) fun rules _ => ?_
  split
  · exact does_bind (does_log hK _ _) fun _ _ => does_pure trivial
  · refine does_bind (does_log hK _ _) fun _ _ => ?_
    refine does_bind (does_ofExcept _ _) fun fields _ => ?_
    refine does_bind (does_runAll hK hm ha _ rules) fun n _ => ?_
    exact does_bind (does_log hK _ _) fun _ _ => does_pure trivial

end Steps

end Rule

/-! ### Executions -/

namespace Execution

section Steps

variable (hK : Lockstep may K)
include hK

lemma does_list (ha : may .select executionsTable) (workflow limit : Value) :
    Does K (fun _ => True) (list workflow limit) := by
  refine does_bind (does_settings hK) fun s _ => ?_
  refine does_bind (does_select hK ha _) fun rows _ => ?_
  exact does_bind (does_ofExcept _ _) fun _ _ => does_pure trivial

lemma does_get (ha : may .select executionsTable) (id : Value) :
    Does K (fun _ => True) (get id) := by
  refine does_bind (does_select hK ha _) fun rows _ => ?_
  split
  · exact does_pure trivial
  · exact does_throw (Value.isJson_text _)

lemma does_definition (ha : may .select definitionsTable) (workflow : Value) :
    Does K (fun _ => True) (definition workflow) := by
  refine does_bind (does_select hK ha _) fun rows _ => ?_
  split
  · exact does_throw (Value.isJson_text _)
  · refine does_bind (does_ofExcept _ _) fun read _ => ?_
    split
    · exact does_pure trivial
    · exact does_throw (Value.isJson_text _)

lemma does_statistics (ha : may .select executionsTable) (workflow : Value) :
    Does K (fun _ => True) (statistics workflow) := by
  refine does_bind (does_settings hK) fun s _ => ?_
  refine does_bind (does_now hK) fun t _ => ?_
  refine does_bind (does_ofExcept _ _) fun since _ => ?_
  refine does_bind (does_select hK ha _) fun rows _ => ?_
  exact (does_ofExcept _ _).mono fun _ _ => trivial

end Steps

end Execution

end CrmAutomation

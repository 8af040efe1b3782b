import CrmAutomation.Record.Filter
import CrmAutomation.Schema.Reader

/-!
Automation rules: one action for one event, without a flow.
-/

namespace CrmAutomation

open Schema

/-- The action of a rule; its value is a template in single braces. -/
structure RuleAction where
  type : String
  value : Option String := none
  extra : Fields := []
  deriving DecidableEq, Repr

structure Rule where
  id : String
  name : String := ""
  triggerEvent : String
  triggerConditions : Option Fields := none
  action : RuleAction
  isActive : Bool := true
  executionCount : Int := 0
  lastExecutedAt : Option String := none
  deriving DecidableEq, Repr

namespace RuleAction

def ofFields (fs : Fields) : Checked RuleAction :=
  (fun type value => ⟨type, value, extras [⟨"type", none⟩, ⟨"value", none⟩] fs⟩)
    <$> Field.required ⟨"type", none⟩ text fs
    <*> Field.withDefault ⟨"value", none⟩ none (optional text) fs

end RuleAction

namespace Rule

/-- A count; anything that counts as absent is zero. -/
def countReader : Reader Int := fun v => integer (v.orElse (.int 0))

/-- Reads a rule from a stored row. -/
def ofRow (row : Row) : Checked Rule :=
  Rule.mk
    <$> Field.required ⟨"id", none⟩ text row
    <*> Field.withDefault ⟨"name", none⟩ "" text row
    <*> Field.required ⟨"trigger_event", none⟩ text row
    <*> Field.withDefault ⟨"trigger_conditions", none⟩ none (optional object) row
    <*> Field.required ⟨"actions", none⟩ (record "RuleAction" RuleAction.ofFields) row
    <*> Field.withDefault ⟨"is_active", none⟩ true boolean row
    <*> Field.withDefault ⟨"execution_count", none⟩ 0 countReader row
    <*> Field.withDefault ⟨"last_executed_at", none⟩ none (optional text) row

end Rule

end CrmAutomation

import CrmAutomation.Value.Basic

/-!
Values as JSON brings them back.

Every key becomes a text, and what is not a number becomes one and the same datum. All else is read
as it was written.
-/

namespace CrmAutomation

open Numeric

namespace Value

mutual

/-- The value after it was written as JSON and read again. -/
def restored : Value → Value
  | .float (.nan _) => .float Binary64.noNumber
  | .list xs => .list (restoredList xs)
  | .object fs => .object (Fields.ofPairs (restoredPairs fs))
  | v => v

def restoredList : List Value → List Value
  | [] => []
  | x :: xs => restored x :: restoredList xs

def restoredPairs : List (Key × Value) → List (Key × Value)
  | [] => []
  | (k, x) :: fs => (.text k.asText, restored x) :: restoredPairs fs

end

end Value

/-- The fields after they were written as JSON and read again. -/
def Fields.restored (fs : Fields) : Fields := Fields.ofPairs (Value.restoredPairs fs)

end CrmAutomation

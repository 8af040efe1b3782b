/-!
Sets of characters as lists of code point ranges.
-/

namespace CrmAutomation.Text

/-- Inclusive code point ranges, in ascending order. -/
abbrev Ranges := List (Nat × Nat)

/-- The character lies in one of the ranges. -/
def Ranges.has (rs : Ranges) (c : Char) : Bool :=
  rs.any fun r => r.1 ≤ c.toNat && c.toNat ≤ r.2

end CrmAutomation.Text

/-!
The range of signed 64-bit integers.
-/

namespace CrmAutomation.Numeric

/-- The least magnitude beyond 64 bits with a sign. -/
def wordLimit : Nat := 9223372036854775808

/-- The integer has 64 bits with its sign. -/
def fitsWord (n : Int) : Bool := -(wordLimit : Int) ≤ n && n < wordLimit

end CrmAutomation.Numeric

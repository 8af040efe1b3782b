import CrmAutomation.Record.Filter
import CrmAutomation.Record.Insertion
import CrmAutomation.Value.Text

/-!
Rows in the order of one field.

The order is stable in both directions, and rows without the field come last. Values that have no
common order are compared by their literal texts. Where a value is not a number the order is no
order, and the rows come to what insertion makes of them.
-/

namespace CrmAutomation.Record

/-- The row has a value for the field. -/
def hasValue (field : Key) (row : Row) : Bool := row.get field != .null

/-- Any two values are less, equal or greater. -/
def allOrdered : List Value → Bool
  | [] => true
  | v :: vs => vs.all (fun w => [.less, .equal, .greater].contains (v.order w)) && allOrdered vs

/-- One value comes before another in their own order. -/
def naturallyBefore (v w : Value) : Bool := v.order w == .less

/-- One value comes before another in their own order, if they have one. -/
def naturallyBefore? (v w : Value) : Option Bool :=
  match v.order w with
  | .mismatched => none
  | c => some (c == .less)

/-- One value comes before another by their literal texts. -/
def textuallyBefore (v w : Value) : Bool :=
  Value.compareChars v.literalForm.toList w.literalForm.toList == .lt

/-- Stable sort of rows by a field; rows that neither way come first keep their order. -/
def sortBy (before : Value → Value → Bool) (field : Key) (descending : Bool)
    (rows : List Row) : List Row :=
  rows.mergeSort fun a b =>
    if descending then !before (a.get field) (b.get field)
    else !before (b.get field) (a.get field)

/-- Sorts rows by a field whose values have no common order: by insertion, from the end for a
descending order, and where that ends early by the literal texts of the values. -/
def sortUnordered (field : Key) (descending : Bool) (rows : List Row) : List Row :=
  let turned (rows : List Row) := if descending then rows.reverse else rows
  match Insertion.sort (fun a b => naturallyBefore? (a.get field) (b.get field)) (turned rows) with
  | .ok sorted => turned sorted
  | .error left => sortBy textuallyBefore field descending (turned left)

/-- Rows in the order of a field; without one, or with an empty one, as they are or reversed. -/
def sorted (rows : List Row) (field : Option Key) (descending : Bool) : List Row :=
  match field with
  | none => if descending then rows.reverse else rows
  | some f =>
    if !f.isTruthy then if descending then rows.reverse else rows
    else
      let present := rows.filter (hasValue f)
      let missing := rows.filter fun row => !hasValue f row
      let ordered :=
        if allOrdered (present.map (·.get f)) then sortBy naturallyBefore f descending present
        else sortUnordered f descending present
      ordered ++ missing

/-- The first rows up to a limit; a negative limit counts from the end. -/
def limited (limit : Option Int) (rows : List Row) : List Row :=
  match limit with
  | none => rows
  | some n => rows.take (if n < 0 then (rows.length + n).toNat else n.toNat)

end CrmAutomation.Record

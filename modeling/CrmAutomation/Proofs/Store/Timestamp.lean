import CrmAutomation.Proofs.Calendar.Layout
import CrmAutomation.Proofs.Record.Sorting
import CrmAutomation.Proofs.Store.Overwrite
import CrmAutomation.Proofs.Store.Rows
import Mathlib.Order.Monotone.Basic

/-!
Times that are stored as texts.

A store knows nothing of time: it sorts texts and compares them. The texts of years 1 to 9999 are in
the order of time, so the rows come in the order of the times that they bear, and filters that hold
the texts of times are bounds on those times.
-/

namespace CrmAutomation

open Record Calendar

namespace Record

section Keys

variable {κ : Type*} [LinearOrder κ] {text : κ → String} {s : Set κ} {x y : κ}

/-- What a relation says of two keys. -/
def Relation.Says : Relation → κ → κ → Prop
  | equals, x, y => x = y
  | notEquals, x, y => x ≠ y
  | greaterThan, x, y => y < x
  | lessThan, x, y => x < y
  | greaterThanOrEqual, x, y => y ≤ x
  | lessThanOrEqual, x, y => x ≤ y

instance (r : Relation) : DecidableRel (r.Says (κ := κ)) := fun x y =>
  match r with
  | .equals => inferInstanceAs (Decidable (x = y))
  | .notEquals => inferInstanceAs (Decidable (x ≠ y))
  | .greaterThan => inferInstanceAs (Decidable (y < x))
  | .lessThan => inferInstanceAs (Decidable (x < y))
  | .greaterThanOrEqual => inferInstanceAs (Decidable (y ≤ x))
  | .lessThanOrEqual => inferInstanceAs (Decidable (x ≤ y))

lemma Relation.holds_text (r : Relation) (t u : String) :
    r.holds (.text t) (.text u) = true ↔ r.Says t u := by
  have hnull (t : String) : Value.text t ≠ .null := nofun
  have haccepts (r : Relation) : r.accepts ((Value.text t).order (.text u)) =
      r.accepts (.ofOrdering? (some (compare t u))) := by rw [Value.order_text]
  cases r with
  | equals => rw [holds, Value.agrees_text, Value.text.injEq, Says]
  | notEquals =>
    rw [holds, Bool.not_eq_true', Bool.eq_false_iff, ne_eq, Value.agrees_text, Value.text.injEq,
      Says]
  | greaterThan | lessThan | greaterThanOrEqual | lessThanOrEqual =>
    simp only [holds, hnull, decide_false, haccepts, Says]
    rcases lt_trichotomy t u with hlt | rfl | hgt
    · simp [compare_lt_iff_lt.mpr hlt, Comparison.ofOrdering?, accepts, hlt, hlt.le, hlt.not_gt]
    · simp [Comparison.ofOrdering?, accepts]
    · simp [compare_gt_iff_gt.mpr hgt, Comparison.ofOrdering?, accepts, hgt, hgt.le, hgt.not_gt]

lemma Relation.says_text (htext : StrictMonoOn text s) (hx : x ∈ s) (hy : y ∈ s) (r : Relation) :
    r.Says (text x) (text y) ↔ r.Says x y := by
  cases r with
  | equals => exact htext.injOn.eq_iff hx hy
  | notEquals => exact (htext.injOn.eq_iff hx hy).not
  | greaterThan => exact htext.lt_iff_lt hy hx
  | lessThan => exact htext.lt_iff_lt hx hy
  | greaterThanOrEqual => exact htext.le_iff_le hy hx
  | lessThanOrEqual => exact htext.le_iff_le hx hy

lemma comparedBy_of_strictMonoOn {field : Key} {rows : List Row} {key : Row → κ}
    (htext : StrictMonoOn text s)
    (h : ∀ row ∈ rows, key row ∈ s ∧ row.get field = .text (text (key row))) :
    ComparedBy field rows key := by
  intro a ha b hb
  obtain ⟨hka, hva⟩ := h a ha
  obtain ⟨hkb, hvb⟩ := h b hb
  rw [hva, hvb, Value.order_text, ← cmp_eq_compare, ← cmp_eq_compare, htext.cmp_map_eq hka hkb]

end Keys

end Record

namespace Calendar.Instant

/-- A bound on times. -/
structure Bound where
  relation : Relation
  limit : Instant

variable {field : Key} {time : Row → Instant} {row : Row} {rows : List Row} {bounds : List Bound}

/-- The filter that compares the times of a field with the limit. -/
def Bound.filter (field : Key) (b : Bound) : Filter := ⟨field, b.relation, .text b.limit.isoText⟩

/-- The time of the row is within all bounds. -/
def Within (bounds : List Bound) (t : Instant) : Prop := ∀ b ∈ bounds, b.relation.Says t b.limit

instance (bounds : List Bound) : DecidablePred (Within bounds) := fun _ =>
  inferInstanceAs (Decidable (∀ b ∈ bounds, _))

/-- The row bears a time of years 1 to 9999 in the field. -/
structure Bears (field : Key) (time : Row → Instant) (row : Row) : Prop where
  dated : time row ∈ dated
  text : row.get field = .text (time row).isoText

lemma matchesAll_filter : matchesAll (bounds.map (Bound.filter field)) row = true ↔
    ∀ b ∈ bounds, b.relation.holds (row.get field) (.text b.limit.isoText) = true := by
  rw [matchesAll, List.all_map, List.all_eq_true]
  rfl

/-- **Filters that hold texts of times are bounds on the times.** -/
lemma matchesAll_of_bears (h : Bears field time row) (hlimits : ∀ b ∈ bounds, b.limit ∈ dated) :
    matchesAll (bounds.map (Bound.filter field)) row = true ↔ Within bounds (time row) := by
  rw [matchesAll_filter]
  refine forall₂_congr fun b hb => ?_
  rw [h.text, Relation.holds_text, Relation.says_text isoText_strictMonoOn h.dated (hlimits b hb)]

lemma matchesAll_of_null (h : row.get field = .null) :
    matchesAll (bounds.map (Bound.filter field)) row = true ↔
      ∀ b ∈ bounds, b.relation = .notEquals := by
  rw [matchesAll_filter]
  refine forall₂_congr fun b _ => ?_
  rw [h]
  cases b.relation <;> simp [Relation.holds, Value.agrees, Value.asNumber?]

lemma filter_present (h : ∀ row ∈ rows, row.get field ≠ .null → Bears field time row)
    (hlimits : ∀ b ∈ bounds, b.limit ∈ dated) :
    (rows.filter (matchesAll (bounds.map (Bound.filter field)))).filter (hasValue field) =
      rows.filter fun row => row.get field ≠ .null ∧ Within bounds (time row) := by
  rw [List.filter_filter]
  refine List.filter_congr fun row hrow => ?_
  rw [Bool.eq_iff_iff, Bool.and_eq_true, hasValue_iff, decide_eq_true_iff]
  exact and_congr_right fun hvalue => matchesAll_of_bears (h row hrow hvalue) hlimits

lemma filter_missing (rows : List Row) :
    (rows.filter (matchesAll (bounds.map (Bound.filter field)))).filter
        (fun row => !hasValue field row) =
      rows.filter fun row => row.get field = .null ∧ ∀ b ∈ bounds, b.relation = .notEquals := by
  rw [List.filter_filter]
  refine List.filter_congr fun row _ => ?_
  rw [Bool.eq_iff_iff, Bool.and_eq_true, Bool.not_eq_true', Bool.eq_false_iff, ne_eq, hasValue_iff,
    not_not, decide_eq_true_iff]
  exact and_congr_right fun hnull => matchesAll_of_null hnull

end Calendar.Instant

namespace Store

open Instant

/-- **Texts of times are in the order of time.** The text of an instant of years 1 to 9999 has six
digits of fraction or, on the second, none; even so an instant is before another exactly if its text
is. So if the rows of a table bear times in a field, as far as they have a value for it, a selection
within bounds on the times yields the rows whose times are within them, in the order of the times,
and those of one time as they are stored. Rows without a time come last; they pass only if nothing
is asked for but to differ. -/
theorem timestamps_chronological :
    (∀ t ∈ dated, (∃ stem fraction, Layout t stem fraction) ∧
      ∀ u ∈ dated, t < u ↔ isoText t < isoText u) ∧
    ∀ (s : Store) (table : String) (field : Key) (time : Row → Instant) (bounds : List Bound)
      (descending : Bool), s.Answers table → field.isTruthy = true →
      (∀ row ∈ s.rows table, row.get field ≠ .null → Bears field time row) →
      (∀ b ∈ bounds, b.limit ∈ dated) →
      ∃ arranged,
        (s.select table
            { filters := bounds.map (Bound.filter field), orderBy := some field, descending }).1 =
          .ok (arranged ++ (s.rows table).filter fun row =>
            row.get field = .null ∧ ∀ b ∈ bounds, b.relation = .notEquals) ∧
        Arranged time descending
          ((s.rows table).filter fun row => row.get field ≠ .null ∧ Within bounds (time row))
          arranged := by
  refine ⟨fun t ht => ⟨exists_layout ht, fun u hu => (isoText_strictMonoOn.lt_iff_lt ht hu).symm⟩,
    fun s table field time bounds descending hanswers hfield hbears hlimits => ?_⟩
  let present := (s.rows table).filter fun row =>
    row.get field ≠ .null ∧ Within bounds (time row)
  obtain ⟨k, hselect⟩ := select_of_answers hanswers
    { filters := bounds.map (Bound.filter field), orderBy := some field, descending }
  refine ⟨ordered field descending present, ?_, ?_⟩
  · rw [hselect, sorted_of_truthy hfield, filter_present hbears hlimits, filter_missing]
    rfl
  · refine (comparedBy_of_strictMonoOn isoText_strictMonoOn fun row hrow => ?_).ordered descending
    obtain ⟨hmem, hpassed⟩ := List.mem_filter.mp hrow
    have hrow := hbears row hmem (of_decide_eq_true hpassed).1
    exact ⟨hrow.dated, hrow.text⟩

/-- Calls just before a month starts, as it starts and within its first second, and one that bears
no time. -/
def calls : List Row := [
  [("id", .text "a"), ("at", .text (isoText 1709251199999))],
  [("id", .text "b"), ("at", .text (isoText 1709251200000))],
  [("id", .text "c")],
  [("id", .text "d"), ("at", .text (isoText 1709251200250))],
  [("id", .text "e"), ("at", .text (isoText 1709251200000))]]

def callTime (row : Row) : Instant :=
  if row.get "id" = .text "a" then 1709251199999
  else if row.get "id" = .text "d" then 1709251200250 else 1709251200000

theorem timestamps_chronological_calls :
    isoText 1709251199999 < isoText 1709251200000 ∧
      ∃ arranged,
        (select { backend := .memory [("calls", calls)] } "calls"
            { filters := [⟨"at", .greaterThanOrEqual, .text (isoText 1709251200000)⟩]
              orderBy := some "at", descending := true }).1 = .ok arranged ∧
        Arranged callTime true [calls[1], calls[3], calls[4]] arranged := by
  have hmonth : (1709251200000 : ℤ) ∈ dated := ⟨by decide, by decide⟩
  have hbefore : (1709251199999 : ℤ) ∈ dated := ⟨by decide, by decide⟩
  have hwithin : (1709251200250 : ℤ) ∈ dated := ⟨by decide, by decide⟩
  have hbears : ∀ row ∈ calls, row.get "at" ≠ .null → Bears "at" callTime row := by
    intro row hrow hvalue
    simp only [calls, List.mem_cons, List.not_mem_nil, or_false] at hrow
    rcases hrow with rfl | rfl | rfl | rfl | rfl
    · exact ⟨hbefore, rfl⟩
    · exact ⟨hmonth, rfl⟩
    · exact absurd rfl hvalue
    · exact ⟨hwithin, rfl⟩
    · exact ⟨hmonth, rfl⟩
  obtain ⟨hlayout, hselections⟩ := timestamps_chronological
  obtain ⟨arranged, hselect, harranged⟩ :=
    hselections { backend := .memory [("calls", calls)] } "calls" "at" callTime
      [⟨.greaterThanOrEqual, 1709251200000⟩] true ⟨rfl, rfl⟩ (by decide) hbears
      (List.forall_mem_singleton.mpr hmonth)
  refine ⟨((hlayout _ hbefore).2 _ hmonth).mp (by decide), arranged, ?_, harranged⟩
  exact hselect.trans (congrArg Except.ok (List.append_nil arranged))

end Store

end CrmAutomation

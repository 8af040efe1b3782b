import CrmAutomation.Proofs.Value.Order
import CrmAutomation.Record.Sorting
import Mathlib.Data.List.Sort

/-!
The order of rows.

Items are arranged by a key if the keys ascend, or descend, and the items with one key stand as they
stood before; the latter also says that none is lost and none is added. Rows that have a value for
the field are arranged by it whenever their values are compared as the keys are, which is so for
texts, and for numbers of any kind. The other rows come last, as they stood.
-/

namespace CrmAutomation.Record

open Numeric

/-! ### Arranged by a key -/

section Arranged

variable {α κ : Type*} [LinearOrder κ]

/-- The first key may stand in front of the second. -/
def directed (descending : Bool) (x y : κ) : Prop := if descending then y ≤ x else x ≤ y

instance (descending : Bool) : DecidableRel (directed (κ := κ) descending) := fun x y =>
  inferInstanceAs (Decidable (if descending then y ≤ x else x ≤ y))

instance (descending : Bool) : IsTrans κ (directed descending) where
  trans x y z hxy hyz := by
    cases descending
    · exact le_trans (α := κ) hxy hyz
    · exact le_trans (α := κ) hyz hxy

instance (descending : Bool) : Std.Total (directed (κ := κ) descending) where
  total x y := by
    cases descending
    · exact le_total x y
    · exact le_total y x

lemma directed_iff_not_lt (descending : Bool) (x y : κ) :
    directed descending x y ↔ ¬ if descending then x < y else y < x := by
  cases descending
  · exact not_lt.symm
  · exact not_lt.symm

/-- The items in the order of their keys, those with one key as they stood before. -/
structure Arranged (key : α → κ) (descending : Bool) (items arranged : List α) : Prop where
  sorted : arranged.Pairwise fun a b => directed descending (key a) (key b)
  stable : ∀ k, arranged.filter (key · = k) = items.filter (key · = k)

variable {key : α → κ} {descending : Bool} {items arranged : List α}

lemma Arranged.perm (h : Arranged key descending items arranged) : arranged.Perm items := by
  classical
  refine List.perm_iff_count.mpr fun a => ?_
  have hkey (l : List α) : (l.filter (key · = key a)).count a = l.count a := by
    apply List.count_filter
    exact decide_eq_true rfl
  calc arranged.count a
      = (arranged.filter (key · = key a)).count a := (hkey arranged).symm
    _ = (items.filter (key · = key a)).count a := by rw [h.stable]
    _ = items.count a := hkey items

lemma arranged_mergeSort (key : α → κ) (descending : Bool) (items : List α) :
    Arranged key descending items
      (items.mergeSort fun a b => decide (directed descending (key a) (key b))) := by
  let before (a b : α) : Bool := decide (directed descending (key a) (key b))
  have htrans : ∀ a b c, before a b = true → before b c = true → before a c = true := by
    intro a b c hab hbc
    exact decide_eq_true (trans_of (directed descending) (of_decide_eq_true hab)
      (of_decide_eq_true hbc))
  have htotal : ∀ a b, (before a b || before b a) = true := by
    intro a b
    rw [Bool.or_eq_true]
    exact (total_of (directed descending) (key a) (key b)).imp decide_eq_true decide_eq_true
  refine ⟨(List.pairwise_mergeSort htrans htotal items).imp of_decide_eq_true, fun k => ?_⟩
  -- Items with one key are in order as they stand, so they stay a part of the sorted items.
  have hequal : (items.filter (key · = k)).Pairwise fun a b => before a b = true := by
    refine List.pairwise_of_forall_mem_list fun a ha b hb => decide_eq_true ?_
    have hka := of_decide_eq_true (List.mem_filter.mp ha).2
    have hkb := of_decide_eq_true (List.mem_filter.mp hb).2
    rw [hka, hkb]
    exact refl_of (directed descending) k
  have hsub := (List.sublist_mergeSort htrans htotal hequal List.filter_sublist).filter (key · = k)
  rw [List.filter_filter] at hsub
  simp only [Bool.and_self] at hsub
  refine (hsub.eq_of_length ?_).symm
  exact ((List.mergeSort_perm items before).filter (key · = k)).length_eq.symm

end Arranged

/-! ### By a field -/

section Field

variable {κ : Type*} [LinearOrder κ] {field : Key} {descending : Bool} {rows : List Row}

lemma hasValue_iff {row : Row} : hasValue field row = true ↔ row.get field ≠ .null := bne_iff_ne

/-- The values of the field are compared as the keys of their rows are. -/
def ComparedBy (field : Key) (rows : List Row) (key : Row → κ) : Prop :=
  ∀ a ∈ rows, ∀ b ∈ rows,
    (a.get field).order (b.get field) = .ofOrdering? (some (compare (key a) (key b)))

lemma comparedBy_text {key : Row → String} (h : ∀ r ∈ rows, r.get field = .text (key r)) :
    ComparedBy field rows key := by
  intro a ha b hb
  rw [h a ha, h b hb, Value.order_text]

lemma comparedBy_quantity {key : Row → Quantity}
    (h : ∀ r ∈ rows, (r.get field).quantity = some (key r)) : ComparedBy field rows key :=
  fun a ha b hb => Value.order_quantity (h a ha) (h b hb)

lemma allOrdered_of_compared {vs : List Value}
    (h : ∀ v ∈ vs, ∀ w ∈ vs, ∃ o, v.order w = .ofOrdering? (some o)) : allOrdered vs = true := by
  induction vs with
  | nil => rfl
  | cons v vs ih =>
    rw [allOrdered, Bool.and_eq_true, List.all_eq_true]
    constructor
    · intro w hw
      obtain ⟨o, ho⟩ := h v (List.mem_cons_self ..) w (List.mem_cons_of_mem v hw)
      rw [ho]
      cases o <;> rfl
    · exact ih fun x hx y hy => h x (List.mem_cons_of_mem v hx) y (List.mem_cons_of_mem v hy)

lemma ComparedBy.naturallyBefore_iff {key : Row → κ} (h : ComparedBy field rows key) {a b : Row}
    (ha : a ∈ rows) (hb : b ∈ rows) :
    naturallyBefore (a.get field) (b.get field) = true ↔ key a < key b := by
  rw [naturallyBefore, h a ha b hb, beq_iff_eq, ← compare_lt_iff_lt]
  cases compare (key a) (key b) <;> simp [Comparison.ofOrdering?]

lemma ComparedBy.arranged {key : Row → κ} (h : ComparedBy field rows key) (descending : Bool) :
    Arranged key descending rows (sortBy naturallyBefore field descending rows) := by
  have hsort : sortBy naturallyBefore field descending rows =
      rows.mergeSort fun a b => decide (directed descending (key a) (key b)) := by
    have hmap := List.map_mergeSort (f := id) (l := rows)
      (r := fun a b => if descending then !naturallyBefore (a.get field) (b.get field)
        else !naturallyBefore (b.get field) (a.get field))
      (s := fun a b => decide (directed descending (key a) (key b))) ?_
    · rwa [List.map_id, List.map_id] at hmap
    · intro a ha b hb
      rw [Bool.eq_iff_iff, decide_eq_true_iff, id, id, directed_iff_not_lt]
      cases descending
      · rw [if_neg Bool.false_ne_true, if_neg Bool.false_ne_true, Bool.not_eq_true',
          ← h.naturallyBefore_iff hb ha, Bool.not_eq_true]
      · rw [if_pos rfl, if_pos rfl, Bool.not_eq_true', ← h.naturallyBefore_iff ha hb,
          Bool.not_eq_true]
  rw [hsort]
  exact arranged_mergeSort key descending rows

/-- The rows that have a value for the field, sorted by it. -/
def ordered (field : Key) (descending : Bool) (present : List Row) : List Row :=
  if allOrdered (present.map (·.get field)) then sortBy naturallyBefore field descending present
  else sortUnordered field descending present

lemma sorted_of_truthy (h : field.isTruthy = true) (rows : List Row) (descending : Bool) :
    sorted rows (some field) descending =
      ordered field descending (rows.filter (hasValue field)) ++
        rows.filter fun row => !hasValue field row := by
  rw [sorted, h]
  rfl

lemma sorted_of_not_truthy {field : Option Key} (h : ∀ f ∈ field, f.isTruthy = false)
    (rows : List Row) (descending : Bool) :
    sorted rows field descending = if descending then rows.reverse else rows := by
  cases field with
  | none => rfl
  | some f =>
    rw [sorted, h f rfl]
    rfl

lemma sortUnordered_perm (field : Key) (descending : Bool) (rows : List Row) :
    (sortUnordered field descending rows).Perm rows := by
  have hturned (rows : List Row) : (if descending then rows.reverse else rows).Perm rows := by
    split
    · exact List.reverse_perm rows
    · exact List.Perm.refl rows
  have hsort := Insertion.sort_perm
    (fun a b : Row => naturallyBefore? (a.get field) (b.get field))
    (if descending then rows.reverse else rows)
  simp only [sortUnordered]
  cases hs : Insertion.sort (fun a b : Row => naturallyBefore? (a.get field) (b.get field))
      (if descending then rows.reverse else rows) with
  | ok placed =>
    rw [hs] at hsort
    exact (hturned placed).trans (hsort.trans (hturned rows))
  | error left =>
    rw [hs] at hsort
    exact (List.mergeSort_perm _ _).trans ((hturned left).trans (hsort.trans (hturned rows)))

lemma ordered_perm (field : Key) (descending : Bool) (present : List Row) :
    (ordered field descending present).Perm present := by
  unfold ordered
  split
  · exact List.mergeSort_perm _ _
  · exact sortUnordered_perm field descending present

/-- **What is sorted by a field is arranged by the keys that its values are compared as.** -/
lemma ComparedBy.ordered {key : Row → κ} (h : ComparedBy field rows key) (descending : Bool) :
    Arranged key descending rows (ordered field descending rows) := by
  have hall : allOrdered (rows.map (·.get field)) = true := by
    refine allOrdered_of_compared fun v hv w hw => ?_
    obtain ⟨a, ha, rfl⟩ := List.mem_map.mp hv
    obtain ⟨b, hb, rfl⟩ := List.mem_map.mp hw
    exact ⟨_, h a ha b hb⟩
  rw [Record.ordered, if_pos hall]
  exact h.arranged descending

/-- **The order of rows.** Every outcome is a permutation of the rows. By a field whose name is not
empty, the rows without a value for it come last, as they stood, and the others are arranged by it
if its values are texts, or numbers that stand for something. Without a field, or by one with an
empty name, the rows stay as they are or are turned around. -/
theorem sorted_outcome (rows : List Row) (field : Option Key) (descending : Bool) :
    (sorted rows field descending).Perm rows ∧
      (∀ f ∈ field, f.isTruthy = true →
        ∃ arranged,
          sorted rows field descending =
              arranged ++ rows.filter (fun row => row.get f = .null) ∧
            arranged.Perm (rows.filter fun row => row.get f ≠ .null) ∧
            (∀ key : Row → String, (∀ row ∈ rows, row.get f ≠ .null → row.get f = .text (key row)) →
              Arranged key descending (rows.filter fun row => row.get f ≠ .null) arranged) ∧
            ∀ key : Row → Quantity,
              (∀ row ∈ rows, row.get f ≠ .null → (row.get f).quantity = some (key row)) →
              Arranged key descending (rows.filter fun row => row.get f ≠ .null) arranged) ∧
      ((∀ f ∈ field, f.isTruthy = false) →
        sorted rows field descending = if descending then rows.reverse else rows) := by
  have hpresent (f : Key) : rows.filter (hasValue f) = rows.filter fun row => row.get f ≠ .null :=
    List.filter_congr fun row _ => by
      rw [Bool.eq_iff_iff, hasValue_iff, decide_eq_true_iff]
  have hmissing (f : Key) :
      (rows.filter fun row => !hasValue f row) = rows.filter fun row => row.get f = .null :=
    List.filter_congr fun row _ => by
      rw [Bool.eq_iff_iff, Bool.not_eq_true', Bool.eq_false_iff, ne_eq, hasValue_iff, not_not,
        decide_eq_true_iff]
  refine ⟨?_, ?_, fun h => sorted_of_not_truthy h rows descending⟩
  · by_cases hfield : ∃ f ∈ field, f.isTruthy = true
    · obtain ⟨f, rfl, htruthy⟩ := hfield
      rw [sorted_of_truthy htruthy]
      exact ((ordered_perm f descending _).append_right _).trans
        (List.filter_append_perm (hasValue f) rows)
    · push Not at hfield
      rw [sorted_of_not_truthy (fun f hf => Bool.eq_false_iff.mpr (hfield f hf))]
      split
      · exact List.reverse_perm rows
      · exact List.Perm.refl rows
  · rintro f rfl htruthy
    refine ⟨ordered f descending (rows.filter (hasValue f)), ?_, ?_, fun key hkey => ?_,
      fun key hkey => ?_⟩
    · rw [sorted_of_truthy htruthy, hmissing]
    · rw [← hpresent]
      exact ordered_perm f descending _
    · rw [← hpresent]
      refine (comparedBy_text fun row hrow => ?_).ordered descending
      obtain ⟨hmem, hvalue⟩ := List.mem_filter.mp hrow
      exact hkey row hmem (hasValue_iff.mp hvalue)
    · rw [← hpresent]
      refine (comparedBy_quantity fun row hrow => ?_).ordered descending
      obtain ⟨hmem, hvalue⟩ := List.mem_filter.mp hrow
      exact hkey row hmem (hasValue_iff.mp hvalue)

/-- Numbers of three kinds and of one value, a greater one, and a row without. -/
def mixed : List Row :=
  [[("id", .text "a"), ("v", .int 1)], [("id", .text "b")], [("id", .text "c"), ("v", .bool true)],
    [("id", .text "d"), ("v", .float (.finite false Binary64.unit))],
    [("id", .text "e"), ("v", .int 2)]]

theorem sorted_outcome_mixed :
    ∃ arranged : List Row,
      sorted mixed (some "v") true = arranged ++ [mixed[1]] ∧
        Arranged (fun row => (row.get "v").quantity.getD ⊥) true
          [mixed[0], mixed[2], mixed[3], mixed[4]] arranged := by
  obtain ⟨arranged, hsorted, -, -, hnumbers⟩ :=
    (sorted_outcome mixed (some "v") true).2.1 "v" rfl (by decide)
  refine ⟨arranged, hsorted, hnumbers _ fun row hrow hvalue => ?_⟩
  simp only [mixed, List.mem_cons, List.not_mem_nil, or_false] at hrow
  rcases hrow with rfl | rfl | rfl | rfl | rfl
  · rfl
  · exact absurd rfl hvalue
  · rfl
  · rfl
  · rfl

/-- A field with an empty name counts as none: its texts are not sorted. -/
theorem empty_name_unsorted :
    ¬ ∀ (rows : List Row) (field : Key) (descending : Bool) (key : Row → String),
      (∀ row ∈ rows, row.get field ≠ .null → row.get field = .text (key row)) →
        ∃ arranged,
          sorted rows (some field) descending =
              arranged ++ rows.filter (fun row => row.get field = .null) ∧
            Arranged key descending (rows.filter fun row => row.get field ≠ .null) arranged := by
  intro h
  let second : Row := [("", .text "b")]
  let first : Row := [("", .text "a")]
  let key (row : Row) : String := if row = second then "b" else "a"
  obtain ⟨arranged, hsorted, harranged⟩ := h [second, first] "" false key (by decide)
  have hunsorted : [second, first] = arranged := hsorted.trans (List.append_nil arranged)
  have hpair := harranged.sorted
  rw [← hunsorted, List.pairwise_pair] at hpair
  exact absurd hpair (by decide)

end Field

end CrmAutomation.Record

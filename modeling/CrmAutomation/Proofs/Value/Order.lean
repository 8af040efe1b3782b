import CrmAutomation.Value.Order
import Mathlib.Algebra.Order.Field.Rat
import Mathlib.Data.Int.ConditionallyCompleteOrder
import Mathlib.Data.Rat.Cast.Order
import Mathlib.Data.String.Basic
import Mathlib.Order.Compare
import Mathlib.Order.WithBot

/-!
The order of texts and of numbers.

Texts are ordered by code point. A datum that is a number stands for a fraction or for one of the
two infinities, whether it is a truth value, a whole number or a double, and numbers are ordered as
what they stand for.
-/

namespace CrmAutomation

open Numeric

namespace Value

/-! ### Texts -/

lemma compareChars_compares (as bs : List Char) : (compareChars as bs).Compares as bs := by
  induction as generalizing bs with
  | nil =>
    cases bs with
    | nil => rfl
    | cons b bs => exact List.nil_lt_cons b bs
  | cons a as ih =>
    cases bs with
    | nil => exact List.nil_lt_cons a as
    | cons b bs =>
      have hrest := ih bs
      rw [compareChars]
      rcases lt_trichotomy a.toNat b.toNat with hlt | heq | hgt
      · rw [Nat.compare_eq_lt.mpr hlt]
        exact List.cons_lt_cons_iff.mpr (.inl hlt)
      · have hab : a = b := Char.toNat_inj.mp heq
        rw [Nat.compare_eq_eq.mpr heq, Ordering.eq_then]
        subst hab
        cases ho : compareChars as bs with
        | lt =>
          rw [ho] at hrest
          exact List.cons_lt_cons_iff.mpr (.inr ⟨rfl, hrest⟩)
        | eq =>
          rw [ho] at hrest
          exact congrArg (a :: ·) hrest
        | gt =>
          rw [ho] at hrest
          exact List.cons_lt_cons_iff.mpr (.inr ⟨rfl, hrest⟩)
      · rw [Nat.compare_eq_gt.mpr hgt]
        exact List.cons_lt_cons_iff.mpr (.inl hgt)

lemma order_text (s t : String) :
    (text s).order (.text t) = .ofOrdering? (some (compare s t)) := by
  have hchars : compareChars s.toList t.toList = compare s t := by
    have hcompares := compareChars_compares s.toList t.toList
    cases ho : compareChars s.toList t.toList with
    | lt =>
      rw [ho] at hcompares
      exact (compare_lt_iff_lt.mpr (String.lt_iff_toList_lt.mpr hcompares)).symm
    | eq =>
      rw [ho] at hcompares
      exact (compare_eq_iff_eq.mpr (String.toList_inj.mp hcompares)).symm
    | gt =>
      rw [ho] at hcompares
      exact (compare_gt_iff_gt.mpr (String.lt_iff_toList_lt.mpr hcompares)).symm
  rw [order, hchars]

end Value

/-! ### Numbers -/

/-- A fraction, or one of the infinities. -/
abbrev Quantity := WithBot (WithTop ℚ)

namespace Quantity

/-- So many units of the smallest double. -/
def ofUnits (n : ℤ) : Quantity := ((n / Binary64.unit : ℚ) : WithTop ℚ)

lemma unit_pos : 0 < (Binary64.unit : ℚ) := by
  have hunit : 0 < Binary64.unit := by decide +kernel
  exact_mod_cast hunit

lemma ofUnits_strictMono : StrictMono ofUnits := by
  intro m n hmn
  have hcast : (m : ℚ) < n := by exact_mod_cast hmn
  have hdiv : (m / Binary64.unit : ℚ) < n / Binary64.unit := div_lt_div_of_pos_right hcast unit_pos
  exact WithBot.coe_lt_coe.mpr (WithTop.coe_lt_coe.mpr hdiv)

lemma compare_ofUnits (m n : ℤ) : compare (ofUnits m) (ofUnits n) = compare m n := by
  rw [← cmp_eq_compare, ← cmp_eq_compare]
  exact ofUnits_strictMono.cmp_map_eq m n

lemma bot_lt_ofUnits (n : ℤ) : ⊥ < ofUnits n := WithBot.bot_lt_coe _

lemma ofUnits_lt_top (n : ℤ) : ofUnits n < ⊤ := WithBot.coe_lt_coe.mpr (WithTop.coe_lt_top _)

end Quantity

namespace Numeric.Binary64

/-- What a double stands for, if it is a number. -/
def quantity : Binary64 → Option Quantity
  | .nan _ => none
  | .infinite negative => some (if negative then ⊥ else ⊤)
  | .finite negative units => some (.ofUnits (signedUnits negative units))

/-- What a number stands for, a whole one or a double. -/
def quantityOf : Int ⊕ Binary64 → Option Quantity
  | .inl n => some ((n : ℚ) : WithTop ℚ)
  | .inr x => x.quantity

variable {x y : Int ⊕ Binary64} {p q : Quantity}

lemma quantityOf_whole (n : ℤ) : quantityOf (.inl n) = some (.ofUnits (n * unit)) := by
  have hunits : ((n * unit : ℤ) / unit : ℚ) = n := by
    push_cast
    exact mul_div_cancel_right₀ _ Quantity.unit_pos.ne'
  rw [quantityOf, Quantity.ofUnits, hunits]

lemma compare_whole (m n : ℤ) : compare (m * unit) (n * unit) = compare m n := by
  have hunit : (0 : ℤ) < unit := by decide +kernel
  rw [← cmp_eq_compare, ← cmp_eq_compare]
  exact (strictMono_mul_right_of_pos hunit).cmp_map_eq m n

lemma compare?_quantity {x y : Binary64} (hx : x.quantity = some p) (hy : y.quantity = some q) :
    x.compare? y = some (compare p q) := by
  cases x with
  | nan _ => cases hx
  | infinite a =>
    cases hx
    cases y with
    | nan _ => cases hy
    | infinite b =>
      cases hy
      cases a <;> cases b <;> rfl
    | finite b v =>
      cases hy
      cases a
      · exact congrArg some (compare_gt_iff_gt.mpr (Quantity.ofUnits_lt_top _)).symm
      · exact congrArg some (compare_lt_iff_lt.mpr (Quantity.bot_lt_ofUnits _)).symm
  | finite a u =>
    cases hx
    cases y with
    | nan _ => cases hy
    | infinite b =>
      cases hy
      cases b
      · exact congrArg some (compare_lt_iff_lt.mpr (Quantity.ofUnits_lt_top _)).symm
      · exact congrArg some (compare_gt_iff_gt.mpr (Quantity.bot_lt_ofUnits _)).symm
    | finite b v =>
      cases hy
      rw [compare?, Quantity.compare_ofUnits]

lemma compareInt?_quantity {x : Binary64} (hx : x.quantity = some p) (n : ℤ) :
    x.compareInt? n = some (compare p (.ofUnits (n * unit))) := by
  cases x with
  | nan _ => cases hx
  | infinite a =>
    cases hx
    cases a
    · exact congrArg some (compare_gt_iff_gt.mpr (Quantity.ofUnits_lt_top _)).symm
    · exact congrArg some (compare_lt_iff_lt.mpr (Quantity.bot_lt_ofUnits _)).symm
  | finite a u =>
    cases hx
    rw [compareInt?, Quantity.compare_ofUnits]

/-- **Numbers compare as what they stand for.** -/
lemma compareNumbers_eq (hx : quantityOf x = some p) (hy : quantityOf y = some q) :
    compareNumbers x y = some (compare p q) := by
  cases x with
  | inl m =>
    obtain rfl := Option.some.inj ((quantityOf_whole m).symm.trans hx)
    cases y with
    | inl n =>
      obtain rfl := Option.some.inj ((quantityOf_whole n).symm.trans hy)
      rw [compareNumbers, Quantity.compare_ofUnits, compare_whole]
    | inr y =>
      rw [compareNumbers, compareInt?_quantity hy]
      exact congrArg some Std.OrientedCmp.eq_swap.symm
  | inr x =>
    cases y with
    | inl n =>
      obtain rfl := Option.some.inj ((quantityOf_whole n).symm.trans hy)
      exact compareInt?_quantity hx n
    | inr y => exact compare?_quantity hx hy

end Numeric.Binary64

namespace Value

/-- What a datum stands for that is a number, and not one that stands for none. -/
def quantity (v : Value) : Option Quantity := v.asNumber?.bind Binary64.quantityOf

variable {v w : Value} {p q : Quantity}

lemma order_quantity (hv : v.quantity = some p) (hw : w.quantity = some q) :
    v.order w = .ofOrdering? (some (compare p q)) := by
  obtain ⟨x, hx, hxp⟩ := Option.bind_eq_some_iff.mp hv
  obtain ⟨y, hy, hyq⟩ := Option.bind_eq_some_iff.mp hw
  have hcompare := Binary64.compareNumbers_eq hxp hyq
  cases v with
  | null | text _ | list _ | object _ => cases hx
  | bool _ | int _ | float _ =>
    cases w with
    | null | text _ | list _ | object _ => cases hy
    | bool _ | int _ | float _ => simp only [order, hx, hy, hcompare]

end Value

end CrmAutomation

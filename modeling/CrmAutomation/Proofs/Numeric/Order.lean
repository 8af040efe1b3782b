import CrmAutomation.Numeric.Binary64
import Mathlib.Data.Int.Basic
import Mathlib.Order.Compare
import Mathlib.Tactic.Common

/-!
The order of doubles.

Any two numbers are compared by their signed counts of units, where an infinite one counts as the
limit. What is not a number has no place in the order.
-/

namespace CrmAutomation.Numeric.Binary64

variable {k u : ℕ} {x y : Binary64}

/-! ### Both ways round -/

lemma compare?_swap (x y : Binary64) : (compare? x y).map Ordering.swap = compare? y x := by
  cases x with
  | nan _ => cases y <;> rfl
  | infinite a =>
    cases y with
    | nan _ => rfl
    | infinite b => exact congrArg some Std.OrientedCmp.eq_swap.symm
    | finite _ _ => cases a <;> rfl
  | finite a u =>
    cases y with
    | nan _ => rfl
    | infinite b => cases b <;> rfl
    | finite b v => exact congrArg some Std.OrientedCmp.eq_swap.symm

lemma sameValue_comm (x y : Binary64) : x.sameValue y = y.sameValue x := by
  unfold sameValue
  rw [← compare?_swap x y]
  rcases compare? x y with _ | o
  · rfl
  · cases o <;> rfl

lemma le_of_lt (h : x.lt y = true) : x.le y = true := by
  rw [lt] at h
  rw [le, h, Bool.true_or]

lemma lt_asymm (h : x.lt y = true) : y.lt x = false := by
  rw [lt, beq_iff_eq] at h
  rw [lt, ← compare?_swap x y, h]
  rfl

lemma sameValue_of_le (hxy : x.le y = true) (hyx : y.le x = true) : x.sameValue y = true := by
  rw [le, Bool.or_eq_true] at hxy
  rcases hxy with hlt | hsame
  · have hgt : compare? y x = some .gt := by
      rw [← compare?_swap x y, beq_iff_eq.mp hlt]
      rfl
    rw [le, hgt] at hyx
    cases hyx
  · exact hsame

lemma le_of_not_lt (hx : x.isFinite = true) (hy : y.isFinite = true) (h : x.lt y = false) :
    y.le x = true := by
  rcases ho : compare? x y with _ | o
  · cases x with
    | finite a u =>
      cases y with
      | finite b v => cases ho
      | _ => cases hy
    | _ => cases hx
  · rw [lt, ho] at h
    rw [le, ← compare?_swap x y, ho]
    cases o with
    | lt => cases h
    | eq | gt => rfl

lemma sameValue_self_iff : x.sameValue x = true ↔ ∀ p, x ≠ .nan p := by
  cases x with
  | nan p => exact iff_of_false (by simp [sameValue, compare?]) fun h => h p rfl
  | infinite a => exact iff_of_true (by cases a <;> rfl) fun p => by simp
  | finite a u =>
    refine iff_of_true ?_ fun p => by simp
    have hself : compare (signedUnits a u) (signedUnits a u) = .eq := Std.ReflCmp.compare_self
    rw [sameValue, compare?, hself]
    rfl

/-! ### Signed counts -/

lemma signedUnits_mul (b : Bool) (q d : ℕ) : signedUnits b (q * d) = signedUnits b q * d := by
  cases b
  · exact Int.natCast_mul q d
  · show -((q * d : ℕ) : Int) = -(q : Int) * d
    rw [Int.natCast_mul, Int.neg_mul]

lemma signedUnits_natAbs (n : ℤ) : signedUnits (n < 0) n.natAbs = n := by
  unfold signedUnits
  split_ifs with h
  · rw [decide_eq_true_eq] at h
    omega
  · rw [decide_eq_true_eq] at h
    omega

lemma signedUnits_bounds (hu : u < k) (b : Bool) :
    -(k : ℤ) < signedUnits b u ∧ signedUnits b u < k := by
  unfold signedUnits
  split_ifs <;> omega

/-- The signed count of units of a number; that of an infinite one is the limit. -/
def extent : Binary64 → ℤ
  | .nan _ => 0
  | .infinite negative => signedUnits negative limit
  | .finite negative u => signedUnits negative u

/-- The number is infinite, or finite and within the limit. -/
inductive InRange : Binary64 → Prop
  | infinite (negative : Bool) : InRange (.infinite negative)
  | finite {u : ℕ} (negative : Bool) : u < limit → InRange (.finite negative u)

lemma limit_pos : 0 < limit := by decide +kernel

lemma extent_infinite (b : Bool) : (infinite b).extent = if b then -(limit : ℤ) else limit := rfl

lemma compare?_infinite (a b : Bool) :
    compare? (infinite a) (infinite b) =
      some (compare (infinite a).extent (infinite b).extent) := by
  have hlimit : -(limit : ℤ) < limit := by
    have hpos := limit_pos
    omega
  rw [extent_infinite, extent_infinite, compare?]
  cases a <;> cases b
  · exact congrArg some (Int.compare_eq_eq.mpr rfl).symm
  · exact congrArg some (Int.compare_eq_gt.mpr hlimit).symm
  · exact congrArg some (Int.compare_eq_lt.mpr hlimit).symm
  · exact congrArg some (Int.compare_eq_eq.mpr rfl).symm

lemma compare?_infinite_finite (a b : Bool) (hu : u < limit) :
    compare? (infinite a) (finite b u) =
      some (compare (infinite a).extent (finite b u).extent) := by
  obtain ⟨hlow, hhigh⟩ := signedUnits_bounds hu b
  rw [extent_infinite, extent, compare?]
  cases a
  · exact congrArg some (Int.compare_eq_gt.mpr hhigh).symm
  · exact congrArg some (Int.compare_eq_lt.mpr hlow).symm

/-- **Numbers are in the order of their signed counts**. -/
lemma compare?_eq (hx : x.InRange) (hy : y.InRange) :
    compare? x y = some (compare x.extent y.extent) := by
  cases hx with
  | infinite a =>
    cases hy with
    | infinite b => exact compare?_infinite a b
    | finite b hv => exact compare?_infinite_finite a b hv
  | finite a hu =>
    cases hy with
    | infinite b =>
      rw [← compare?_swap, compare?_infinite_finite b a hu]
      exact congrArg some Std.OrientedCmp.eq_swap.symm
    | finite b hv => rfl

lemma sameValue_iff (hx : x.InRange) (hy : y.InRange) :
    x.sameValue y = true ↔ x.extent = y.extent := by
  rw [sameValue, compare?_eq hx hy, beq_iff_eq, Option.some.injEq, Int.compare_eq_eq]

lemma lt_iff (hx : x.InRange) (hy : y.InRange) : x.lt y = true ↔ x.extent < y.extent := by
  rw [lt, compare?_eq hx hy, beq_iff_eq, Option.some.injEq, Int.compare_eq_lt]

lemma le_iff (hx : x.InRange) (hy : y.InRange) : x.le y = true ↔ x.extent ≤ y.extent := by
  rw [le, compare?_eq hx hy, Bool.or_eq_true, beq_iff_eq, beq_iff_eq, Option.some.injEq,
    Option.some.injEq, Int.compare_eq_lt, Int.compare_eq_eq, Int.le_iff_lt_or_eq]

end CrmAutomation.Numeric.Binary64

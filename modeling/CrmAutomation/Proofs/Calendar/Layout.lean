import CrmAutomation.Proofs.Calendar.Chronology
import CrmAutomation.Proofs.Numeric.Digits

/-!
The layout of the texts of instants.

A number is padded to its width by zeros, which do not change what is read. So nineteen characters
give the date and time up to the second, whatever the instant; only the fraction comes and goes.
-/

namespace CrmAutomation.Calendar

open Numeric

variable {w n : ℕ}

/-! ### Padded numbers -/

lemma length_padded (hw : 0 < w) (hn : n < 10 ^ w) : (padded w n).length = w := by
  induction w generalizing n with
  | zero => exact absurd hw (Nat.lt_irrefl 0)
  | succ w ih =>
    rcases w with _ | w
    · rw [Nat.zero_add, pow_one] at hn
      rw [Nat.zero_add, padded_one hn]
      rfl
    · have htens : n / 10 < 10 ^ (w + 1) := by
        rw [pow_succ] at hn
        omega
      rw [padded_succ, List.length_append, ih (Nat.succ_pos w) htens]
      rfl

lemma digits_padded (w n : ℕ) : Digits (padded w n) := by
  refine List.forall_mem_append.mpr ⟨fun c hc => ?_, digits_natDigits n⟩
  rw [List.eq_of_mem_replicate hc]
  decide

lemma natOfDigits_padded (w n : ℕ) : Decimal.natOfDigits (padded w n) = n := by
  have hzeros (k : ℕ) (ds : List Char) :
      Decimal.natOfDigits (List.replicate k '0' ++ ds) = Decimal.natOfDigits ds := by
    induction k with
    | zero => rfl
    | succ k ih => exact ih
  rw [padded, hzeros, natOfDigits_natDigits]

/-! ### Up to the second -/

namespace Civil

variable {c : Civil}

/-- The characters of a date and time up to the second. -/
def stem (c : Civil) : List Char := c.chars []

lemma chars_eq (c : Civil) (tail : List Char) : c.chars tail = c.stem ++ tail := by
  simp only [stem, chars, List.append_assoc, List.cons_append, List.append_nil]

lemma length_stem (hc : c.Written) : c.stem.length = 19 := by
  simp only [stem, chars, List.length_append, List.length_cons, List.length_nil,
    length_padded (by decide : 0 < 4) hc.year, length_padded (by decide : 0 < 2) hc.month,
    length_padded (by decide : 0 < 2) hc.day, length_padded (by decide : 0 < 2) hc.hour,
    length_padded (by decide : 0 < 2) hc.minute, length_padded (by decide : 0 < 2) hc.second]

lemma point_notMem_stem (c : Civil) : '.' ∉ c.stem := by
  have hdigits (w n : ℕ) : '.' ∉ padded w n := fun hmem =>
    absurd (digits_padded w n '.' hmem) (by decide)
  simp [stem, chars, hdigits]

end Civil

/-! ### The whole text -/

namespace Instant

/-- The zone is that of UTC. -/
def zoneChars : List Char := ['+', '0', '0', ':', '0', '0']

/-- The text of an instant has nineteen characters up to the second, none of them a point, then a
fraction, then the zone. On the second there is no fraction; within it, the fraction is a point and
six digits, which count microseconds. -/
structure Layout (t : ℤ) (stem fraction : List Char) : Prop where
  text : (isoText t).toList = stem ++ (fraction ++ zoneChars)
  /-- The text of the instant at which the second starts. -/
  second : (isoText (t - t % 1000)).toList = stem ++ zoneChars
  length : stem.length = 19
  noPoint : '.' ∉ stem
  onSecond : t % 1000 = 0 → fraction = []
  within : t % 1000 ≠ 0 → ∃ digits, fraction = '.' :: digits ∧ digits.length = 6 ∧
    Digits digits ∧ (Decimal.natOfDigits digits : ℤ) = t % 1000 * 1000

variable {t u : ℤ}

lemma toList_isoText (t : ℤ) :
    (isoText t).toList = (civil t).stem ++ tailChars (sinceYearOne t % 1000 * 1000) := by
  have hcivil : (1000 * t) / 1000 = t := Int.mul_ediv_cancel_left t (by decide)
  have hmicros : Moment.sinceYearOne (1000 * t) % 1000000 = sinceYearOne t % 1000 * 1000 := by
    simp only [Moment.sinceYearOne, sinceYearOne, epochDays, dayMs]
    omega
  rw [isoText_eq, Moment.isoText, String.toList_ofList, hcivil, hmicros, Civil.chars_eq]

lemma stem_congr (h : seconds t = seconds u) : (civil t).stem = (civil u).stem := by
  rw [civil_eq t, civil_eq u, h]
  rfl

lemma second_start (t : ℤ) :
    seconds (t - t % 1000) = seconds t ∧ sinceYearOne (t - t % 1000) % 1000 = 0 := by
  simp only [seconds, sinceYearOne, epochDays, dayMs]
  omega

lemma sinceYearOne_mod (ht : t ∈ dated) : (sinceYearOne t % 1000 : ℕ) = t % 1000 := by
  obtain ⟨hlow, -⟩ := ht
  simp only [sinceYearOne, epochDays, dayMs] at hlow ⊢
  omega

/-- **The text of an instant of years 1 to 9999 is laid out.** -/
lemma exists_layout (ht : t ∈ dated) : ∃ stem fraction, Layout t stem fraction := by
  have hmod := sinceYearOne_mod ht
  obtain ⟨hsecond, hstart⟩ := second_start t
  have hwritten : (civil t).Written := by
    have hmoment := Moment.written (moment_mem ht)
    rwa [Int.mul_ediv_cancel_left t (by decide)] at hmoment
  let micros := sinceYearOne t % 1000 * 1000
  refine ⟨(civil t).stem, if micros = 0 then [] else '.' :: padded 6 micros, toList_isoText t, ?_,
    Civil.length_stem hwritten, Civil.point_notMem_stem _, fun hwhole => ?_,
    fun hbroken => ?_⟩
  · rw [toList_isoText, stem_congr hsecond, hstart]
    rfl
  · exact if_pos (by omega)
  · refine ⟨padded 6 micros, if_neg (by omega), length_padded (by decide) (by omega),
      digits_padded 6 micros, ?_⟩
    rw [natOfDigits_padded]
    omega

end Instant

end CrmAutomation.Calendar

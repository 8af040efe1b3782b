import CrmAutomation.Proofs.Calendar.Civil
import Mathlib.Data.Int.ConditionallyCompleteOrder
import Mathlib.Data.Nat.Digits.Defs
import Mathlib.Data.String.Basic

/-!
The order of the texts of instants.

Every part of a date and time is written with a fixed number of digits, so up to the second texts
are in the order of the parts. After it comes the sign of the time zone or, if there is a fraction,
the point; the sign is the less of the two, so that an instant on the second comes before those
within it. The order of the texts is the order of time.
-/

namespace CrmAutomation.Calendar

/-! ### Digits -/

lemma digitChar_lt {m n : ℕ} (hn : n < 10) (h : m < n) : m.digitChar < n.digitChar := by
  have hdigits : ∀ n < 10, ∀ m < n, m.digitChar < n.digitChar := by decide
  exact hdigits n hn m h

lemma padded_one {n : ℕ} (hn : n < 10) : padded 1 n = [n.digitChar] := by
  rw [padded, Numeric.natDigits, Nat.toDigits_of_lt_base hn]
  rfl

lemma padded_succ (w n : ℕ) :
    padded (w + 2) n = padded (w + 1) (n / 10) ++ [(n % 10).digitChar] := by
  rw [padded, padded, Numeric.natDigits, Numeric.natDigits]
  rcases Nat.lt_or_ge n 10 with hlt | hge
  · rw [Nat.toDigits_of_lt_base hlt, Nat.div_eq_of_lt hlt, Nat.mod_eq_of_lt hlt,
      Nat.toDigits_of_lt_base (by decide : 0 < 10)]
    have hzeros : List.replicate (w + 1) '0' = List.replicate w '0' ++ ['0'] :=
      List.replicate_succ'
    exact congrArg (· ++ [n.digitChar]) hzeros
  · have hwidth (k : ℕ) : w + 2 - (k + 1) = w + 1 - k := by omega
    rw [Nat.toDigits_of_base_le (by decide) hge, List.length_append, List.length_singleton, hwidth,
      List.append_assoc]

lemma padded_append_lt {w m n : ℕ} {xs ys : List Char} (hw : 0 < w) (hm : m < 10 ^ w)
    (hn : n < 10 ^ w) (h : Leads m n (xs < ys)) : padded w m ++ xs < padded w n ++ ys := by
  induction w generalizing m n xs ys with
  | zero => exact absurd hw (Nat.lt_irrefl 0)
  | succ w ih =>
    rcases w with _ | w
    · rw [Nat.zero_add, pow_one] at hm hn
      rw [Nat.zero_add, padded_one hm, padded_one hn]
      rcases h with hlt | ⟨rfl, hrest⟩
      · exact List.cons_lt_cons_iff.mpr (.inl (digitChar_lt hn hlt))
      · exact List.cons_lt_cons_iff.mpr (.inr ⟨rfl, hrest⟩)
    · rw [padded_succ, padded_succ, List.append_assoc, List.append_assoc]
      have htens {k : ℕ} (hk : k < 10 ^ (w + 2)) : k / 10 < 10 ^ (w + 1) := by
        rw [pow_succ] at hk
        omega
      refine ih (Nat.succ_pos w) (htens hm) (htens hn) ?_
      rcases h with hlt | ⟨rfl, hrest⟩
      · exact (leads_div 10 hlt).imp fun h =>
          List.cons_lt_cons_iff.mpr (.inl (digitChar_lt (Nat.mod_lt n (by decide)) h))
      · exact .inr ⟨rfl, List.cons_lt_cons_iff.mpr (.inr ⟨rfl, hrest⟩)⟩

/-! ### Texts -/

/-- The characters behind the seconds: six digits of fraction unless it is zero, and the zone. -/
def tailChars (fraction : ℕ) : List Char :=
  (if fraction = 0 then [] else '.' :: padded 6 fraction) ++ ['+', '0', '0', ':', '0', '0']

lemma tailChars_lt {f g : ℕ} (hg : g < 1000000) (h : f < g) : tailChars f < tailChars g := by
  have hg0 : g ≠ 0 := by omega
  rw [tailChars, tailChars, if_neg hg0]
  by_cases hf0 : f = 0
  · rw [if_pos hf0]
    exact List.cons_lt_cons_iff.mpr (.inl (by decide))
  · rw [if_neg hf0]
    have hf : f < 10 ^ 6 := by omega
    exact List.cons_lt_cons_iff.mpr (.inr ⟨rfl, padded_append_lt (by decide) hf hg (.inl h)⟩)

/-- A date and time up to the second, and what stands behind it. -/
def Civil.chars (c : Civil) (tail : List Char) : List Char :=
  padded 4 c.year ++ '-' :: (padded 2 c.month ++ '-' :: (padded 2 c.day ++ 'T' ::
    (padded 2 c.hour ++ ':' :: (padded 2 c.minute ++ ':' :: (padded 2 c.second ++ tail)))))

lemma Civil.chars_lt {c c' : Civil} (hc : c.Written) (hc' : c'.Written) {tail tail' : List Char}
    (h : c.Before c' (tail < tail')) : c.chars tail < c'.chars tail' := by
  have hmark {mark : Char} {xs ys : List Char} (h : xs < ys) : mark :: xs < mark :: ys :=
    List.cons_lt_cons_iff.mpr (.inr ⟨rfl, h⟩)
  refine padded_append_lt (by decide) hc.year hc'.year (h.imp fun h => hmark ?_)
  refine padded_append_lt (by decide) hc.month hc'.month (h.imp fun h => hmark ?_)
  refine padded_append_lt (by decide) hc.day hc'.day (h.imp fun h => hmark ?_)
  refine padded_append_lt (by decide) hc.hour hc'.hour (h.imp fun h => hmark ?_)
  refine padded_append_lt (by decide) hc.minute hc'.minute (h.imp fun h => hmark ?_)
  exact padded_append_lt (by decide) hc.second hc'.second h

/-! Moments are counted in microseconds since the start of 1970, instants in milliseconds. -/

namespace Moment

/-- Microseconds since the start of year 1. -/
def sinceYearOne (u : ℤ) : ℕ := (u + epochDays * dayMs * 1000).toNat

/-- The moment as a text, such as `2024-03-01T12:00:00.250000+00:00`. -/
def isoText (u : ℤ) : String :=
  String.ofList ((Instant.civil (u / 1000)).chars (tailChars (sinceYearOne u % 1000000)))

/-- The moments of years 1 to 9999. -/
def dated : Set ℤ :=
  {u | 0 ≤ u + epochDays * dayMs * 1000 ∧ u + epochDays * dayMs * 1000 < dayLimit * dayMs * 1000}

variable {u v : ℤ}

lemma seconds_eq (u : ℤ) : Instant.seconds (u / 1000) = sinceYearOne u / 1000000 := by
  simp only [Instant.seconds, Instant.sinceYearOne, sinceYearOne, epochDays, dayMs]
  omega

lemma written (hu : u ∈ dated) : (Instant.civil (u / 1000)).Written := by
  obtain ⟨hlow, hhigh⟩ := hu
  refine Instant.written _ ?_
  rw [seconds_eq]
  simp only [sinceYearOne, epochDays, dayMs, dayLimit] at hlow hhigh ⊢
  omega

/-- **The texts of the moments of years 1 to 9999 are in the order of time.** -/
lemma isoText_strictMonoOn : StrictMonoOn isoText dated := by
  intro u hu v hv huv
  have hsince : sinceYearOne u < sinceYearOne v := by
    have hlow := hu.1
    simp only [sinceYearOne, epochDays, dayMs] at hlow ⊢
    omega
  have hleads := leads_div 1000000 hsince
  rw [← seconds_eq, ← seconds_eq] at hleads
  rw [String.lt_iff_toList_lt, isoText, isoText, String.toList_ofList, String.toList_ofList]
  exact Civil.chars_lt (written hu) (written hv) (Instant.civil_before (hleads.imp
    (tailChars_lt (Nat.mod_lt _ (by decide)))))

end Moment

namespace Instant

/-- The instants of years 1 to 9999. -/
def dated : Set ℤ :=
  {t | 0 ≤ t + epochDays * dayMs ∧ t + epochDays * dayMs < dayLimit * dayMs}

lemma isoText_eq (t : ℤ) : isoText t = Moment.isoText (1000 * t) := by
  have hcivil : (1000 * t) / 1000 = t := Int.mul_ediv_cancel_left t (by decide)
  have hmilli : (civil t).milli * 1000 = Moment.sinceYearOne (1000 * t) % 1000000 := by
    rw [civil_eq]
    simp only [sinceYearOne, Moment.sinceYearOne]
    omega
  rw [isoText, Moment.isoText, hcivil, ← hmilli, isoChars, Civil.dateChars, Civil.timeChars,
    Civil.chars, tailChars]
  simp [List.append_assoc]

lemma moment_mem {t : ℤ} (ht : t ∈ dated) : 1000 * t ∈ Moment.dated := by
  obtain ⟨hlow, hhigh⟩ := ht
  constructor
  · omega
  · omega

lemma isoText_strictMonoOn : StrictMonoOn isoText dated := by
  intro t ht t' ht' h
  rw [isoText_eq, isoText_eq]
  have hmoments : 1000 * t < 1000 * t' := Int.mul_lt_mul_of_pos_left h (by decide)
  exact Moment.isoText_strictMonoOn (moment_mem ht) (moment_mem ht') hmoments

end Instant

end CrmAutomation.Calendar

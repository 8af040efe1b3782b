import CrmAutomation.Calendar.Instant
import Mathlib.Algebra.GroupWithZero.Nat
import Mathlib.Data.Int.Notation
import Mathlib.Tactic.Common

/-!
The order of dates and times of day.

A later day has a later year, or the same year and comes later in it; there, the month is later, or
it is the same and the day of the month is later. No length of a year or a month matters for that.
Dates and times are compared from the year to the second; fractions of a second are left to those
who read them.
-/

namespace CrmAutomation.Calendar

variable {d d' : ℕ}

/-- The first number is less than the second, or they are the same and what follows holds. -/
def Leads (m n : ℕ) (follows : Prop) : Prop := m < n ∨ m = n ∧ follows

lemma Leads.imp {m n : ℕ} {P Q : Prop} (h : Leads m n P) (hPQ : P → Q) : Leads m n Q :=
  Or.imp_right (And.imp_right hPQ) h

/-! ### Days -/

lemma leads_div (b : ℕ) (h : d < d') : Leads (d / b) (d' / b) (d % b < d' % b) := by
  have hdiv : d / b ≤ d' / b := Nat.div_le_div_right (Nat.le_of_lt h)
  rcases Nat.lt_or_eq_of_le hdiv with hlt | heq
  · exact .inl hlt
  · have hd := Nat.div_add_mod d b
    have hd' := Nat.div_add_mod d' b
    rw [heq] at hd
    exact .inr ⟨heq, by omega⟩

lemma leads_capped (b c : ℕ) (h : d < d') :
    Leads (min (d / b) c) (min (d' / b) c)
      (d - min (d / b) c * b < d' - min (d' / b) c * b) := by
  have hdiv : d / b ≤ d' / b := Nat.div_le_div_right (Nat.le_of_lt h)
  have hmin : min (d / b) c ≤ min (d' / b) c := by omega
  rcases Nat.lt_or_eq_of_le hmin with hlt | heq
  · exact .inl hlt
  · have hpart : min (d / b) c * b ≤ d :=
      Nat.le_trans (Nat.mul_le_mul_right b (Nat.min_le_left _ _)) (Nat.div_mul_le_self d b)
    rw [← heq]
    exact .inr ⟨rfl, by omega⟩

lemma leads_of_parts {a a' b b' c c' y y' : ℕ} {P : Prop} (hb : b ≤ 3) (hc : c ≤ 24) (hy : y ≤ 3)
    (h : Leads a a' (Leads b b' (Leads c c' (Leads y y' P)))) :
    Leads (400 * a + 100 * b + 4 * c + y + 1) (400 * a' + 100 * b' + 4 * c' + y' + 1) P := by
  rcases h with h | ⟨rfl, h | ⟨rfl, h | ⟨rfl, h | ⟨rfl, h⟩⟩⟩⟩
  · exact .inl (by omega)
  · exact .inl (by omega)
  · exact .inl (by omega)
  · exact .inl (by omega)
  · exact .inr ⟨rfl, h⟩

lemma leads_year (h : d < d') :
    Leads (yearOfDay d).1 (yearOfDay d').1 ((yearOfDay d).2 < (yearOfDay d').2) := by
  have hfours : (d % 146097 - min (d % 146097 / 36524) 3 * 36524) / 1461 ≤ 24 := by omega
  refine leads_of_parts (Nat.min_le_right _ _) hfours (Nat.min_le_right _ _) ?_
  refine (leads_div 146097 h).imp fun h => (leads_capped 36524 3 h).imp fun h => ?_
  exact (leads_div 1461 h).imp fun h => leads_capped 365 3 h

lemma year_bounds (h : d < dayLimit) : (yearOfDay d).1 < 10000 ∧ (yearOfDay d).2 ≤ 365 := by
  simp only [dayLimit] at h
  simp only [yearOfDay]
  omega

lemma monthOfDay_ge (month : ℕ) (lengths : List ℕ) (r : ℕ) :
    month ≤ (monthOfDay month lengths r).1 := by
  induction lengths generalizing month r with
  | nil => exact Nat.le_refl month
  | cons n lengths ih =>
    rw [monthOfDay]
    split
    · exact Nat.le_refl month
    · exact Nat.le_of_succ_le (ih (month + 1) (r - n))

lemma leads_month (month : ℕ) (lengths : List ℕ) {r r' : ℕ} (h : r < r') :
    Leads (monthOfDay month lengths r).1 (monthOfDay month lengths r').1
      ((monthOfDay month lengths r).2 < (monthOfDay month lengths r').2) := by
  induction lengths generalizing month r r' with
  | nil => exact .inr ⟨rfl, Nat.succ_lt_succ h⟩
  | cons n lengths ih =>
    rw [monthOfDay, monthOfDay]
    by_cases hr : r < n
    · rw [if_pos hr]
      by_cases hr' : r' < n
      · rw [if_pos hr']
        exact .inr ⟨rfl, Nat.succ_lt_succ h⟩
      · rw [if_neg hr']
        exact .inl (monthOfDay_ge (month + 1) lengths (r' - n))
    · rw [if_neg hr, if_neg (by omega)]
      exact ih (month + 1) (by omega)

lemma monthOfDay_le (month : ℕ) (lengths : List ℕ) (r : ℕ) :
    (monthOfDay month lengths r).1 ≤ month + lengths.length := by
  induction lengths generalizing month r with
  | nil => exact Nat.le_refl month
  | cons n lengths ih =>
    rw [monthOfDay, List.length_cons]
    have hrest := ih (month + 1) (r - n)
    split
    · exact Nat.le_add_right month _
    · omega

lemma dayOfMonth_le (month : ℕ) {lengths : List ℕ} (hlengths : ∀ n ∈ lengths, n ≤ 31) {r : ℕ}
    (hr : r < lengths.sum + 31) : (monthOfDay month lengths r).2 ≤ 31 := by
  induction lengths generalizing month r with
  | nil =>
    rw [List.sum_nil] at hr
    rw [monthOfDay]
    omega
  | cons n lengths ih =>
    obtain ⟨hn, hrest⟩ := List.forall_mem_cons.mp hlengths
    rw [List.sum_cons] at hr
    rw [monthOfDay]
    split
    · exact Nat.le_trans (by omega) hn
    · exact ih (month + 1) hrest (by omega)

lemma month_bounds (leap : Bool) {r : ℕ} (h : r ≤ 365) :
    (monthOfDay 1 (monthLengths leap) r).1 ≤ 13 ∧ (monthOfDay 1 (monthLengths leap) r).2 ≤ 31 := by
  have hlengths : ∀ n ∈ monthLengths leap, n ≤ 31 := by
    cases leap <;> decide
  have hsum : 365 ≤ (monthLengths leap).sum := by
    cases leap <;> decide
  exact ⟨monthOfDay_le 1 (monthLengths leap) r, dayOfMonth_le 1 hlengths (by omega)⟩

/-! ### Dates and times -/

/-- From the year to the second, a date and time comes before another, or it is the same and what
follows holds. -/
def Civil.Before (c c' : Civil) (follows : Prop) : Prop :=
  Leads c.year c'.year <| Leads c.month c'.month <| Leads c.day c'.day <|
    Leads c.hour c'.hour <| Leads c.minute c'.minute <| Leads c.second c'.second follows

lemma leads_clock {s s' : ℕ} (h : s < s') :
    Leads (s / 3600) (s' / 3600) (Leads (s / 60 % 60) (s' / 60 % 60) (s % 60 < s' % 60)) := by
  rw [← Nat.div_div_eq_div_mul s 60 60, ← Nat.div_div_eq_div_mul s' 60 60]
  rcases leads_div 60 h with hminutes | ⟨hminutes, hsecond⟩
  · exact (leads_div 60 hminutes).imp .inl
  · rw [hminutes]
    exact .inr ⟨rfl, .inr ⟨rfl, hsecond⟩⟩

namespace Instant

/-- Seconds since the start of year 1. -/
def seconds (t : Instant) : ℕ := sinceYearOne t / 1000

variable {t t' : Instant} {P : Prop}

lemma civil_eq (t : Instant) :
    civil t =
      let y := yearOfDay (seconds t / 86400)
      let m := monthOfDay 1 (monthLengths (isLeap y.1)) y.2
      let s := seconds t % 86400
      ⟨y.1, m.1, m.2, s / 3600, s / 60 % 60, s % 60, sinceYearOne t % 1000⟩ := by
  have hday : sinceYearOne t / dayMs = seconds t / 86400 :=
    (Nat.div_div_eq_div_mul (sinceYearOne t) 1000 86400).symm
  have hclock : sinceYearOne t % dayMs / 1000 = seconds t % 86400 :=
    Nat.mod_mul_right_div_self (sinceYearOne t) 1000 86400
  have hhour : sinceYearOne t % dayMs / 3600000 = seconds t % 86400 / 3600 := by
    rw [← hclock]
    exact (Nat.div_div_eq_div_mul (sinceYearOne t % dayMs) 1000 3600).symm
  have hminute : sinceYearOne t % dayMs / 60000 = seconds t % 86400 / 60 := by
    rw [← hclock]
    exact (Nat.div_div_eq_div_mul (sinceYearOne t % dayMs) 1000 60).symm
  have hmilli : sinceYearOne t % dayMs % 1000 = sinceYearOne t % 1000 :=
    Nat.mod_mod_of_dvd (sinceYearOne t) (by decide)
  dsimp only
  rw [← hday, ← hhour, ← hminute, ← hclock, ← hmilli]
  rfl

/-- **Dates and times are in the order of their seconds.** -/
lemma civil_before (h : Leads (seconds t) (seconds t') P) : (civil t).Before (civil t') P := by
  rw [civil_eq t, civil_eq t']
  rcases h with hlt | ⟨heq, hP⟩
  · rcases leads_div 86400 hlt with hday | ⟨hday, hclock⟩
    · -- on different days the date decides
      rcases leads_year hday with hyear | ⟨hyear, hrest⟩
      · exact .inl hyear
      · have hmonth := leads_month 1 (monthLengths (isLeap (yearOfDay (seconds t / 86400)).1)) hrest
        refine .inr ⟨hyear, ?_⟩
        dsimp only
        rw [← hyear]
        exact hmonth.imp .inl
    · dsimp only [Civil.Before]
      rw [hday]
      exact .inr ⟨rfl, .inr ⟨rfl, .inr ⟨rfl, (leads_clock hclock).imp fun h => h.imp .inl⟩⟩⟩
  · dsimp only [Civil.Before]
    rw [heq]
    exact .inr ⟨rfl, .inr ⟨rfl, .inr ⟨rfl, .inr ⟨rfl, .inr ⟨rfl, .inr ⟨rfl, hP⟩⟩⟩⟩⟩⟩

end Instant

/-- The year is written with four digits at most, the other parts with two. -/
structure Civil.Written (c : Civil) : Prop where
  year : c.year < 10 ^ 4
  month : c.month < 10 ^ 2
  day : c.day < 10 ^ 2
  hour : c.hour < 10 ^ 2
  minute : c.minute < 10 ^ 2
  second : c.second < 10 ^ 2

lemma Instant.written (t : Instant) (h : seconds t / 86400 < dayLimit) : (civil t).Written := by
  obtain ⟨hyear, hrest⟩ := year_bounds h
  obtain ⟨hmonth, hday⟩ := month_bounds (isLeap (yearOfDay (seconds t / 86400)).1) hrest
  rw [civil_eq]
  exact ⟨hyear, Nat.lt_of_le_of_lt hmonth (by decide), Nat.lt_of_le_of_lt hday (by decide),
    by dsimp only; omega, by dsimp only; omega, by dsimp only; omega⟩

end CrmAutomation.Calendar

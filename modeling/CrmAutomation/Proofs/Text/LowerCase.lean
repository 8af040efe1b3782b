import CrmAutomation.Text.LowerCase
import Mathlib.Tactic.Common

/-!
Brackets and lower case.

Lower case takes no other character to a bracket and leaves brackets as they are, so that a text of
brackets is the lower case of itself only. No text but the empty one has an empty lower case.
-/

namespace CrmAutomation.Text

/-- The characters around lists and objects. -/
def brackets : List Char := ['[', ']', '\x7b', '\x7d']

variable {c m : Char} {cased : Bool} {cs ms : List Char} {r : CaseRun}

lemma mem_brackets : m ∈ brackets ↔ m = '[' ∨ m = ']' ∨ m = '\x7b' ∨ m = '\x7d' := by
  simp [brackets]

lemma lower_of_run (h : r ∈ lowerRuns) :
    0x80 ≤ r.first + r.shift ∨ (r.last = r.first ∧ r.first + r.shift = 'k'.toNat) := by
  revert r
  decide +kernel

lemma lowerChar_ascii (hm : m ∈ brackets) (hc : c.toNat < 0x80) : lowerChar c = m ↔ c = m := by
  have hall : ∀ n < 0x80, lowerChar (Char.ofNat n) = m ↔ Char.ofNat n = m := by
    rcases mem_brackets.mp hm with rfl | rfl | rfl | rfl <;> decide +kernel
  simpa using hall c.toNat hc

lemma toNat_of_mem_brackets (hm : m ∈ brackets) :
    m.toNat < 0x80 ∧ m.toNat ≠ 0 ∧ m.toNat ≠ 'k'.toNat := by
  rcases mem_brackets.mp hm with rfl | rfl | rfl | rfl <;> decide

lemma toNat_of_ofNat {n : ℕ} (h : Char.ofNat n = m) (hm : m.toNat ≠ 0) : n = m.toNat := by
  subst h
  by_cases hn : n.isValidChar
  · rw [Char.ofNat, dif_pos hn]
    rfl
  · rw [Char.ofNat, dif_neg hn] at hm
    exact absurd rfl hm

lemma lowerChar_eq_iff (hm : m ∈ brackets) : lowerChar c = m ↔ c = m := by
  rcases Nat.lt_or_ge c.toNat 0x80 with hc | hc
  · exact lowerChar_ascii hm hc
  -- beyond ASCII there is no bracket, on either side
  obtain ⟨hascii, hzero, hk⟩ := toNat_of_mem_brackets hm
  refine ⟨fun h => ?_, fun h => absurd (h ▸ hascii) (Nat.not_lt.mpr hc)⟩
  unfold lowerChar at h
  rw [if_neg (Nat.not_lt.mpr hc)] at h
  split at h
  · rename_i r hfind
    have hrun := lower_of_run (List.mem_of_find?_eq_some hfind)
    have hfits := List.find?_some hfind
    simp only [Bool.and_eq_true, decide_eq_true_eq] at hfits
    have hn := toNat_of_ofNat h hzero
    omega
  · exact h

lemma lowerFrom_cons (hm : m ∈ brackets) :
    lowerFrom cased (c :: cs) = m :: ms ↔ c = m ∧ lowerFrom (casedAfter cased c) cs = ms := by
  -- a capital sigma and a dotted capital I are no brackets, and neither is what they become
  obtain ⟨hfinal, hinner, hi, hsigma, hdotted⟩ :
      'ς' ≠ m ∧ 'σ' ≠ m ∧ 'i' ≠ m ∧ 'Σ' ≠ m ∧ 'İ' ≠ m := by
    rcases mem_brackets.mp hm with rfl | rfl | rfl | rfl <;> decide
  rw [lowerFrom]
  split
  · rename_i hc
    rw [beq_iff_eq] at hc
    subst hc
    split
    · simp [hfinal, hsigma]
    · simp [hinner, hsigma]
  split
  · rename_i hc
    rw [beq_iff_eq] at hc
    subst hc
    simp [hi, hdotted]
  · rw [List.cons.injEq, lowerChar_eq_iff hm]

lemma lowerFrom_eq_nil_iff : lowerFrom cased cs = [] ↔ cs = [] := by
  cases cs with
  | nil => simp
  | cons c cs =>
    rw [lowerFrom]
    split_ifs <;> simp

lemma lowerFrom_eq_iff (h : ms ⊆ brackets) : lowerFrom cased cs = ms ↔ cs = ms := by
  induction ms generalizing cased cs with
  | nil => exact lowerFrom_eq_nil_iff
  | cons m ms ih =>
    rw [List.cons_subset] at h
    cases cs with
    | nil => simp
    | cons c cs => rw [lowerFrom_cons h.1, ih h.2, List.cons.injEq]

/-- **A text of brackets** is the lower case of itself only. -/
lemma lower_eq_iff {s t : String} (h : t.toList ⊆ brackets) : lower s = t ↔ s = t := by
  rw [lower, ← String.toList_inj, String.toList_ofList, lowerFrom_eq_iff h, String.toList_inj]

end CrmAutomation.Text

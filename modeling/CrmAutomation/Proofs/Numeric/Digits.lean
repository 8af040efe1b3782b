import CrmAutomation.Numeric.Reading
import CrmAutomation.Numeric.Shortest
import CrmAutomation.Text.Blank
import Mathlib.Algebra.Group.Nat.Defs
import Mathlib.Data.Int.Notation
import Mathlib.Data.Nat.Notation
import Mathlib.Tactic.Common

/-!
The characters of written numbers.

Integers are written by digits of ASCII and a sign. Doubles have a point and an exponent besides,
unless they are no finite numbers and have a name.
-/

namespace CrmAutomation.Numeric

open Text

variable {c : Char} {cs ds : List Char} {n : ℤ} {style : FloatStyle}

/-! ### Digits -/

lemma exists_of_digit (hc : isAsciiDigit c = true) : ∃ k ≤ 9, c = Char.ofNat (48 + k) := by
  simp only [isAsciiDigit, Bool.and_eq_true, decide_eq_true_eq] at hc
  have hlow : '0'.toNat ≤ c.toNat := UInt32.le_iff_toNat_le.mp hc.1
  have hhigh : c.toNat ≤ '9'.toNat := UInt32.le_iff_toNat_le.mp hc.2
  have hzero : '0'.toNat = 48 := rfl
  have hnine : '9'.toNat = 57 := rfl
  refine ⟨c.toNat - 48, by omega, ?_⟩
  rw [Nat.add_sub_cancel' (by omega), Char.ofNat_toNat]

/-- Digits of ASCII alone. -/
def Digits (cs : List Char) : Prop := ∀ c ∈ cs, isAsciiDigit c = true

lemma digits_natDigits (k : ℕ) : Digits (natDigits k) := by
  intro c hc
  have hdigit : c.isDigit = true := Nat.isDigit_of_mem_toDigits (by decide) (by decide) hc
  simp only [Char.isDigit, Bool.and_eq_true, decide_eq_true_eq] at hdigit
  rw [isAsciiDigit, Bool.and_eq_true, decide_eq_true_eq, decide_eq_true_eq]
  exact hdigit

lemma natOfDigits_natDigits (k : ℕ) : Decimal.natOfDigits (natDigits k) = k := by
  have hread : Nat.ofDigitChars 10 (natDigits k) 0 = k := Nat.ofDigitChars_ten_toDigits
  rw [Nat.ofDigitChars_eq_foldl] at hread
  simp only [Nat.mul_comm 10] at hread
  exact hread

lemma hasText_iff : hasText n = true ↔ n.natAbs < 10 ^ digitLimit := by
  rw [hasText, decide_eq_true_iff, natDigits]
  exact Nat.length_toDigits_le_iff (by decide) (by decide)

lemma plain_of_digit (hc : isAsciiDigit c = true) :
    isBlank c = false ∧ isWhiteSpace c = false ∧ Binary64.asciiDigit c = c ∧
      Binary64.lowerAscii c = c ∧ c ∉ ['_', '\x7b', 'i', 'n'] := by
  obtain ⟨k, hk, rfl⟩ := exists_of_digit hc
  clear hc
  revert k
  decide +kernel

/-! ### Signed digits -/

lemma mem_intText (hc : c ∈ (intText n).toList) : c = '-' ∨ isAsciiDigit c = true := by
  rw [intText, String.toList_ofList] at hc
  split_ifs at hc
  · rcases List.mem_cons.mp hc with rfl | hc
    · exact .inl rfl
    · exact .inr (digits_natDigits _ c hc)
  · exact .inr (digits_natDigits _ c hc)

lemma plain_of_mem_intText (hc : c ∈ (intText n).toList) :
    isBlank c = false ∧ isWhiteSpace c = false ∧ Binary64.asciiDigit c = c ∧ c ≠ '_' ∧
      c ≠ '\x7b' := by
  rcases mem_intText hc with rfl | hdigit
  · decide +kernel
  · obtain ⟨hblank, hwhite, hsame, -, hmark⟩ := plain_of_digit hdigit
    simp only [List.mem_cons, not_or] at hmark
    exact ⟨hblank, hwhite, hsame, hmark.1, hmark.2.1⟩

/-! ### Doubles -/

/-- A digit, or what stands beside digits in the text of a finite double. -/
def IsFigure (c : Char) : Prop := isAsciiDigit c = true ∨ c ∈ ['-', '+', '.', 'e']

instance (c : Char) : Decidable (IsFigure c) := inferInstanceAs (Decidable (_ ∨ _))

lemma Digits.isFigure (h : Digits cs) : ∀ c ∈ cs, IsFigure c := fun c hc => .inl (h c hc)

lemma digits_significant (h : Digits ds) : Digits (significant ds) := fun c hc =>
  h c (List.mem_reverse.mp ((List.dropWhile_sublist _).subset (List.mem_reverse.mp hc)))

lemma isFigure_exponentDigits (e : ℤ) : ∀ c ∈ exponentDigits e, IsFigure c := by
  have hdigits := (digits_natDigits e.natAbs).isFigure
  unfold exponentDigits
  rw [List.forall_mem_cons]
  refine ⟨by split_ifs <;> decide, ?_⟩
  split_ifs
  · exact List.forall_mem_cons.mpr ⟨by decide, hdigits⟩
  · exact hdigits

lemma isFigure_layout (hds : Digits ds) (point : ℤ) : ∀ c ∈ style.layout ds point, IsFigure c := by
  have hzeros (k : ℕ) : ∀ c ∈ List.replicate k '0', IsFigure c := fun c hc => by
    rw [List.eq_of_mem_replicate hc]
    decide
  unfold FloatStyle.layout
  split_ifs
  · -- digits and an exponent
    cases ds with
    | nil => simp
    | cons d rest =>
      obtain ⟨hd, hrest⟩ := List.forall_mem_cons.mp hds.isFigure
      dsimp only
      rw [List.cons_append, List.forall_mem_cons, List.forall_mem_append, List.forall_mem_cons]
      refine ⟨hd, ?_, by decide, isFigure_exponentDigits _⟩
      split_ifs
      · simp
      · exact List.forall_mem_cons.mpr ⟨by decide, hrest⟩
  · rw [List.cons_append, List.cons_append, List.forall_mem_cons, List.forall_mem_cons,
      List.forall_mem_append]
    exact ⟨by decide, by decide, hzeros _, hds.isFigure⟩
  · rw [List.forall_mem_append, List.forall_mem_append]
    exact ⟨⟨hds.isFigure, hzeros _⟩, by simp [IsFigure, isAsciiDigit]⟩
  · rw [List.forall_mem_append, List.forall_mem_cons]
    exact ⟨fun c hc => .inl (hds c (List.mem_of_mem_take hc)), by decide,
      fun c hc => .inl (hds c (List.mem_of_mem_drop hc))⟩

lemma isFigure_render (negative : Bool) (u : ℕ) :
    ∀ c ∈ (style.render (.finite negative u)).toList, IsFigure c := by
  unfold FloatStyle.render
  dsimp only
  rw [String.toList_ofList]
  have hbody : ∀ c ∈ (if u = 0 then ['0', '.', '0'] else
      style.layout (significant (natDigits (Binary64.shortest u).1))
        ((natDigits (Binary64.shortest u).1).length + (Binary64.shortest u).2)), IsFigure c := by
    split_ifs
    · simp [IsFigure, isAsciiDigit]
    · exact isFigure_layout (digits_significant (digits_natDigits _)) _
  cases negative with
  | false => exact hbody
  | true => exact List.forall_mem_cons.mpr ⟨by decide, hbody⟩

lemma brace_notMem_render (x : Binary64) : '\x7b' ∉ (plainFloats.render x).toList := by
  cases x with
  | nan payload => simp [FloatStyle.render, plainFloats]
  | infinite negative => cases negative <;> decide +kernel
  | finite negative u =>
    exact fun hbrace => absurd (isFigure_render negative u _ hbrace) (by decide)

end CrmAutomation.Numeric

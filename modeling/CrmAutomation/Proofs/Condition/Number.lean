import CrmAutomation.Condition.Operator
import CrmAutomation.Proofs.Text.LetterCase
import CrmAutomation.Proofs.Value.Json

/-!
Texts that a condition reads as what is not a number.

They are the word *nan* in any case, with a sign or without, between blanks. Neither the digits of
other scripts nor the underscores that a number may hold have a part in it.
-/

namespace CrmAutomation

open Text

namespace Numeric.Binary64

/-- The word for what is not a number, in any case, with a sign or without. -/
def WritesNaN (cs : List Char) : Prop := (Decimal.splitSign cs).2.map lowerAscii = ['n', 'a', 'n']

instance (cs : List Char) : Decidable (WritesNaN cs) := inferInstanceAs (Decidable (_ = _))

variable {cs ds : List Char} {before c : Char} {n : ℕ}

/-! ### The word -/

lemma ofChars?_nan_iff : (∃ p, ofChars? cs = some (.nan p)) ↔ WritesNaN cs := by
  unfold WritesNaN ofChars?
  rcases Decimal.splitSign cs with ⟨negative, body⟩
  dsimp only
  by_cases hword : body.map lowerAscii = ['n', 'a', 'n']
  · rw [hword]
    exact iff_of_true ⟨0, rfl⟩ rfl
  · refine iff_of_false ?_ hword
    rintro ⟨p, hp⟩
    have hname : String.ofList (body.map lowerAscii) ≠ "nan" := fun hname =>
      hword (by rw [← String.toList_ofList (l := body.map lowerAscii), hname]; rfl)
    rw [beq_eq_false_iff_ne.mpr hname] at hp
    split at hp
    · cases hp
    · simp only [Bool.false_eq_true, if_false, Option.map_eq_some_iff] at hp
      obtain ⟨d, -, hd⟩ := hp
      exact Json.toBinary64_ne_nan d p hd

lemma splitSign_eq (cs : List Char) :
    ∃ sign, cs = sign ++ (Decimal.splitSign cs).2 ∧ ∀ c ∈ sign, c = '-' ∨ c = '+' := by
  unfold Decimal.splitSign
  split
  · exact ⟨['-'], rfl, by simp⟩
  · exact ⟨['+'], rfl, by simp⟩
  · exact ⟨[], rfl, by simp⟩

lemma letter_of_lowerAscii (h : lowerAscii c ∈ ['n', 'a', 'n']) : c ∈ ['n', 'N', 'a', 'A'] := by
  refine forall_char
    (P := fun c => lowerAscii c ∈ ['n', 'a', 'n'] → c ∈ ['n', 'N', 'a', 'A'])
    (by decide +kernel) (fun d hd hmem => ?_) c h
  have hsub : ['n', 'a', 'n'] ⊆ ['n', 'N', 'a', 'A'] := by decide
  rw [lowerAscii_of_ge hd] at hmem
  exact hsub hmem

lemma plain_of_writesNaN (h : WritesNaN cs) (hc : c ∈ cs) :
    isAsciiDigit c = false ∧ c ≠ '_' ∧ asciiDigit c = c := by
  have hmem : c ∈ ['-', '+', 'n', 'N', 'a', 'A'] := by
    obtain ⟨sign, heq, hsign⟩ := splitSign_eq cs
    rw [heq, List.mem_append] at hc
    rcases hc with hc | hc
    · rcases hsign c hc with rfl | rfl <;> simp
    · have hlower : lowerAscii c ∈ ['n', 'a', 'n'] := h ▸ List.mem_map_of_mem hc
      exact List.mem_append_right ['-', '+'] (letter_of_lowerAscii hlower)
  simp only [List.mem_cons, List.not_mem_nil, or_false] at hmem
  rcases hmem with rfl | rfl | rfl | rfl | rfl | rfl <;> decide

/-! ### Digits and underscores -/

lemma dropInnerUnderscores?_cons (h : c ≠ '_') (before : Char) (cs : List Char) :
    dropInnerUnderscores? before (c :: cs) = (dropInnerUnderscores? c cs).map (c :: ·) := by
  rw [dropInnerUnderscores?]
  rintro rfl
  exact h rfl

lemma dropInnerUnderscores?_of_notMem (h : '_' ∉ cs) :
    dropInnerUnderscores? before cs = some cs := by
  induction cs generalizing before with
  | nil => rfl
  | cons c cs ih =>
    rw [List.mem_cons, not_or] at h
    rw [dropInnerUnderscores?_cons (Ne.symm h.1), ih h.2]
    rfl

lemma exists_digit (h : dropInnerUnderscores? before ('_' :: cs) = some ds) :
    ∃ c ∈ ds, isAsciiDigit c = true := by
  cases cs with
  | nil => cases h
  | cons d cs =>
    rw [dropInnerUnderscores?] at h
    split at h
    · rename_i hdigits
      rw [Bool.and_eq_true] at hdigits
      have hd : d ≠ '_' := by
        rintro rfl
        exact absurd hdigits.2 (by decide)
      rw [dropInnerUnderscores?_cons hd] at h
      obtain ⟨ds', -, rfl⟩ := Option.map_eq_some_iff.mp h
      exact ⟨d, List.mem_cons_self, hdigits.2⟩
    · cases h

lemma eq_of_dropInnerUnderscores? (h : dropInnerUnderscores? before cs = some ds)
    (hds : ∀ c ∈ ds, isAsciiDigit c = false) : cs = ds := by
  induction cs generalizing before ds with
  | nil =>
    cases h
    rfl
  | cons c cs ih =>
    by_cases hc : c = '_'
    · subst hc
      obtain ⟨d, hmem, hd⟩ := exists_digit h
      rw [hds d hmem] at hd
      cases hd
    · rw [dropInnerUnderscores?_cons hc] at h
      obtain ⟨ds', hds', rfl⟩ := Option.map_eq_some_iff.mp h
      rw [List.forall_mem_cons] at hds
      rw [ih hds' hds.2]

lemma decimalValue?_le (h : decimalValue? c = some n) : n ≤ 9 := by
  unfold decimalValue? at h
  split at h
  · split at h
    · rename_i hdigit
      simp only [Bool.and_eq_true, decide_eq_true_eq] at hdigit
      have hle : c.toNat ≤ '9'.toNat := UInt32.le_iff_toNat_le.mp hdigit.2
      have hnine : '9'.toNat = 57 := rfl
      cases h
      omega
    · cases h
  · obtain ⟨z, hz, rfl⟩ := Option.map_eq_some_iff.mp h
    have hfits := List.find?_some hz
    simp only [Bool.and_eq_true, decide_eq_true_eq] at hfits
    omega

lemma eq_of_asciiDigit (h : isAsciiDigit (asciiDigit c) = false) : asciiDigit c = c := by
  rcases hn : decimalValue? c with _ | n
  · rw [asciiDigit, hn]
  · have hall : ∀ n ≤ 9, isAsciiDigit (Char.ofNat (48 + n)) = true := by decide
    rw [asciiDigit, hn, hall n (decimalValue?_le hn)] at h
    cases h

/-! ### Whole texts -/

lemma asciiDigits_eq_self (h : ∀ c ∈ cs, asciiDigit c = c) : cs.map asciiDigit = cs := by
  rw [List.map_congr_left h, List.map_id'']
  exact fun _ => rfl

end Numeric.Binary64

namespace Condition

open Numeric.Binary64

/-- **Not a number** is what a condition reads in a text exactly if, blanks aside, the text is the
word for it. -/
lemma numberOf?_nan_iff (s : String) :
    (∃ p, numberOf? s = some (.nan p)) ↔ WritesNaN (trimChars isBlank s.toList) := by
  have hwhite : ∀ c, isWhiteSpace c = true → isBlank c = true := fun c hc => by
    rw [isBlank, hc, Bool.true_or]
  unfold numberOf? ofText? trim
  rw [String.toList_ofList, trimChars_of_imp hwhite]
  generalize trimChars isBlank s.toList = cs
  constructor
  · rintro ⟨p, hp⟩
    obtain ⟨ds, hds, hnan⟩ := Option.bind_eq_some_iff.mp hp
    have hword : WritesNaN ds := ofChars?_nan_iff.mp ⟨p, hnan⟩
    have hmap : cs.map asciiDigit = ds :=
      eq_of_dropInnerUnderscores? hds fun c hc => (plain_of_writesNaN hword hc).1
    have hsame : cs.map asciiDigit = cs := asciiDigits_eq_self fun c hc =>
      eq_of_asciiDigit (plain_of_writesNaN hword (hmap ▸ List.mem_map_of_mem hc)).1
    rwa [← hsame, hmap]
  · intro hword
    have hno : '_' ∉ cs := fun hmem => (plain_of_writesNaN hword hmem).2.1 rfl
    rw [asciiDigits_eq_self fun c hc => (plain_of_writesNaN hword hc).2.2,
      dropInnerUnderscores?_of_notMem hno]
    exact ofChars?_nan_iff.mpr hword

end Condition

end CrmAutomation

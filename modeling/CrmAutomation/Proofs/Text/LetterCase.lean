import CrmAutomation.Numeric.Reading
import CrmAutomation.Text.LowerCase
import CrmAutomation.Proofs.Text.Trim

/-!
The case of ASCII letters.

No class of characters that texts are read by tells the two cases of an ASCII letter apart, and
neither does the case of the character before or after a sigma. So texts that differ in the case of
these letters only have the same lower case, and are trimmed alike.
-/

namespace CrmAutomation

open Numeric.Binary64

namespace Text

/-- Texts that differ in the case of ASCII letters only. -/
def SameLetters (s t : String) : Prop := s.toList.map lowerAscii = t.toList.map lowerAscii

instance (s t : String) : Decidable (SameLetters s t) := inferInstanceAs (Decidable (_ = _))

variable {s t : String} {c : Char} {cs ds : List Char} {p : Char → Bool} {β : Type}

/-! ### One character -/

lemma lowerAscii_of_ge (h : 0x80 ≤ c.toNat) : lowerAscii c = c := by
  unfold lowerAscii
  rw [if_neg]
  simp only [Bool.and_eq_true, decide_eq_true_eq, not_and]
  intro _ hle
  have hle' : c.toNat ≤ 'Z'.toNat := UInt32.le_iff_toNat_le.mp hle
  exact absurd hle' (by rw [Nat.not_le]; exact Nat.lt_of_lt_of_le (by decide) h)

lemma forall_char {P : Char → Prop} (hascii : ∀ n < 0x80, P (Char.ofNat n))
    (hbeyond : ∀ c : Char, 0x80 ≤ c.toNat → P c) (c : Char) : P c := by
  rcases Nat.lt_or_ge c.toNat 0x80 with hc | hc
  · have h := hascii c.toNat hc
    rwa [Char.ofNat_toNat] at h
  · exact hbeyond c hc

/-- What does not tell the cases of ASCII characters apart tells no cases of letters apart. -/
lemma blind {g : Char → β} (hascii : ∀ n < 0x80, g (lowerAscii (Char.ofNat n)) = g (Char.ofNat n))
    (c : Char) : g (lowerAscii c) = g c :=
  forall_char hascii (fun _ hd => congrArg g (lowerAscii_of_ge hd)) c

/-- The classes of ASCII: a character has another case only if it is a letter, and then so is that,
and the two differ in nothing else. -/
lemma ascii_classes : ∀ n < 0x80,
    (lowerAscii (Char.ofNat n) = Char.ofNat n ∨
      (Char.ofNat n).isAlpha = true ∧ (lowerAscii (Char.ofNat n)).isAlpha = true) ∧
    (Char.ofNat n).toNat < 0x80 ∧ (lowerAscii (Char.ofNat n)).toNat < 0x80 ∧
    lowerAscii (lowerAscii (Char.ofNat n)) = lowerAscii (Char.ofNat n) ∧
    lowerChar (lowerAscii (Char.ofNat n)) = lowerChar (Char.ofNat n) ∧
    isWhiteSpace (lowerAscii (Char.ofNat n)) = isWhiteSpace (Char.ofNat n) ∧
    isBlank (lowerAscii (Char.ofNat n)) = isBlank (Char.ofNat n) ∧
    isAsciiDigit (lowerAscii (Char.ofNat n)) = isAsciiDigit (Char.ofNat n) := by
  decide +kernel

lemma lowerAscii_lowerAscii (c : Char) : lowerAscii (lowerAscii c) = lowerAscii c :=
  blind (fun n hn => (ascii_classes n hn).2.2.2.1) c

lemma lowerChar_lowerAscii (c : Char) : lowerChar (lowerAscii c) = lowerChar c :=
  blind (fun n hn => (ascii_classes n hn).2.2.2.2.1) c

lemma isWhiteSpace_lowerAscii (c : Char) : isWhiteSpace (lowerAscii c) = isWhiteSpace c :=
  blind (fun n hn => (ascii_classes n hn).2.2.2.2.2.1) c

lemma isBlank_lowerAscii (c : Char) : isBlank (lowerAscii c) = isBlank c :=
  blind (fun n hn => (ascii_classes n hn).2.2.2.2.2.2.1) c

lemma isAsciiDigit_lowerAscii (c : Char) : isAsciiDigit (lowerAscii c) = isAsciiDigit c :=
  blind (fun n hn => (ascii_classes n hn).2.2.2.2.2.2.2) c

lemma lowerAscii_cases (c : Char) :
    lowerAscii c = c ∨ c.isAlpha = true ∧ (lowerAscii c).isAlpha = true :=
  forall_char (P := fun c => lowerAscii c = c ∨ c.isAlpha = true ∧ (lowerAscii c).isAlpha = true)
    (fun n hn => (ascii_classes n hn).1) (fun _ hc => .inl (lowerAscii_of_ge hc)) c

lemma lowerAscii_eq_iff {m : Char} (hm : m.isAlpha = false) : lowerAscii c = m ↔ c = m := by
  rcases lowerAscii_cases c with h | ⟨hc, hlower⟩
  · rw [h]
  · refine iff_of_false ?_ ?_
    · rintro rfl
      exact Bool.false_ne_true (hm.symm.trans hlower)
    · rintro rfl
      exact Bool.false_ne_true (hm.symm.trans hc)

lemma beq_lowerAscii {m : Char} (hm : m.isAlpha = false) (c : Char) :
    (lowerAscii c == m) = (c == m) := by
  rw [Bool.eq_iff_iff, beq_iff_eq, beq_iff_eq, lowerAscii_eq_iff hm]

/-! ### Sets of characters -/

lemma has_of_ascii (rs : Ranges) (hc : c.toNat < 0x80) :
    rs.has c = Ranges.has (rs.filter fun r => r.1 < 0x80) c := by
  unfold Ranges.has
  rw [List.any_filter]
  refine List.any_congr rfl fun r => ?_
  by_cases hr : r.1 ≤ c.toNat
  · simp [Nat.lt_of_le_of_lt hr hc]
  · simp [hr]

lemma has_lowerAscii {rs low : Ranges} (hlow : rs.filter (fun r => r.1 < 0x80) = low)
    (hascii : ∀ n < 0x80, low.has (lowerAscii (Char.ofNat n)) = low.has (Char.ofNat n))
    (c : Char) : rs.has (lowerAscii c) = rs.has c := by
  refine blind (fun n hn => ?_) c
  obtain ⟨-, hsame, hlower, -⟩ := ascii_classes n hn
  rw [has_of_ascii rs hlower, has_of_ascii rs hsame, hlow, hascii n hn]

lemma caseIgnorable_lowerAscii (c : Char) :
    caseIgnorable.has (lowerAscii c) = caseIgnorable.has c := by
  have hlow : caseIgnorable.filter (fun r => r.1 < 0x80) =
      [(0x27, 0x27), (0x2E, 0x2E), (0x3A, 0x3A), (0x5E, 0x5E), (0x60, 0x60)] := by
    decide +kernel
  exact has_lowerAscii hlow (by decide +kernel) c

lemma casedLetters_lowerAscii (c : Char) :
    casedLetters.has (lowerAscii c) = casedLetters.has c := by
  have hlow : casedLetters.filter (fun r => r.1 < 0x80) = [(0x41, 0x5A), (0x61, 0x7A)] := by
    decide +kernel
  exact has_lowerAscii hlow (by decide +kernel) c

/-! ### Classes along a text -/

/-- A class that tells no cases apart. -/
def Blind (p : Char → Bool) : Prop := ∀ c, p (lowerAscii c) = p c

lemma Blind.comp (h : Blind p) : p ∘ lowerAscii = p := funext h

lemma takeWhile_letters (h : Blind p) (cs : List Char) :
    (cs.map lowerAscii).takeWhile p = (cs.takeWhile p).map lowerAscii := by
  rw [List.takeWhile_map, h.comp]

lemma dropWhile_letters (h : Blind p) (cs : List Char) :
    (cs.map lowerAscii).dropWhile p = (cs.dropWhile p).map lowerAscii := by
  rw [List.dropWhile_map, h.comp]

lemma trimChars_letters (h : Blind p) (cs : List Char) :
    trimChars p (cs.map lowerAscii) = (trimChars p cs).map lowerAscii := by
  unfold trimChars
  rw [dropWhile_letters h, ← List.map_reverse, dropWhile_letters h, ← List.map_reverse]

/-! ### Lower case -/

lemma startsCased_letters (cs : List Char) : startsCased (cs.map lowerAscii) = startsCased cs := by
  unfold startsCased
  rw [dropWhile_letters caseIgnorable_lowerAscii]
  rcases cs.dropWhile caseIgnorable.has with _ | ⟨c, rest⟩
  · rfl
  · exact casedLetters_lowerAscii c

lemma casedAfter_letter (cased : Bool) (c : Char) :
    casedAfter cased (lowerAscii c) = casedAfter cased c := by
  rw [casedAfter, casedAfter, caseIgnorable_lowerAscii, casedLetters_lowerAscii]

/-- **The lower case of a text** is that of its letters in either case, be there sigmas among them
or not. -/
lemma lowerFrom_letters (cased : Bool) (cs : List Char) :
    lowerFrom cased (cs.map lowerAscii) = lowerFrom cased cs := by
  induction cs generalizing cased with
  | nil => rfl
  | cons c cs ih =>
    rw [List.map_cons, lowerFrom, lowerFrom, beq_lowerAscii (by decide), beq_lowerAscii (by decide),
      casedAfter_letter, startsCased_letters, lowerChar_lowerAscii, ih]

/-! ### Texts -/

lemma SameLetters.eq_of {β : Type} {g : List Char → β} (hg : ∀ cs, g (cs.map lowerAscii) = g cs)
    (h : SameLetters s t) : g s.toList = g t.toList := by
  rw [← hg s.toList, h, hg]

lemma SameLetters.lowerFrom (h : SameLetters s t) :
    lowerFrom false s.toList = lowerFrom false t.toList :=
  h.eq_of (lowerFrom_letters false)

lemma SameLetters.lower (h : SameLetters s t) : lower s = lower t := by
  rw [Text.lower, h.lowerFrom, Text.lower]

lemma SameLetters.trim (h : SameLetters s t) : SameLetters (trim s) (trim t) := by
  unfold SameLetters Text.trim
  rw [String.toList_ofList, String.toList_ofList, ← trimChars_letters isBlank_lowerAscii, h,
    trimChars_letters isBlank_lowerAscii]

end Text

end CrmAutomation

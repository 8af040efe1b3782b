import CrmAutomation.Proofs.Condition.Variable
import CrmAutomation.Proofs.Numeric.Digits

/-!
Empty variables.

A field is taken to be missing where its token is left as it is, and so is a field whose text is its
token. No value but a text is written with two opening braces at its start. So a variable is empty
if its value is empty, and in one more case: its value is the text of its own token.
-/

namespace CrmAutomation

open Numeric Text

namespace Value

variable {v : Value} {x : Binary64} {rest : List Char}

lemma brace_notMem_float (x : Binary64) : '\x7b' ∉ (Value.float x).insertedForm.toList := by
  rw [insertedForm]
  rcases (if x.isWhole then x.truncate? else none) with _ | n
  · exact brace_notMem_render x
  · exact fun hbrace => (plain_of_mem_intText hbrace).2.2.2.2 rfl

/-- **Only a text** is inserted with two opening braces at its start. -/
lemma exists_text_of_braced (h : v.insertedForm.toList = '\x7b' :: '\x7b' :: rest) :
    ∃ s, v = .text s := by
  have hbrace : '\x7b' ∈ v.insertedForm.toList := by simp [h]
  cases v with
  | null => exact absurd hbrace (by decide +kernel)
  | bool b => cases b <;> exact absurd hbrace (by decide +kernel)
  | int n => exact absurd rfl (plain_of_mem_intText hbrace).2.2.2.2
  | float x => exact absurd hbrace (brace_notMem_float x)
  | text s => exact ⟨s, rfl⟩
  | list xs => simp [insertedForm, Json.render] at h
  | object fs =>
    -- after the brace of the object stands the other one or the quote of a key
    cases fs with
    | nil => simp [insertedForm, Json.render, Json.renderFields] at h
    | cons field fs => simp [insertedForm, Json.render, Json.renderFields, Json.quoted] at h

lemma insertedForm_eq_written_iff {a : List Char} :
    v.insertedForm = String.ofList (Template.written a) ↔
      v = .text (String.ofList (Template.written a)) := by
  constructor
  · intro h
    have hbraced : v.insertedForm.toList = '\x7b' :: '\x7b' :: (a ++ ['\x7d', '\x7d']) := by
      rw [h, String.toList_ofList]
      rfl
    obtain ⟨s, rfl⟩ := exists_text_of_braced hbraced
    exact congrArg Value.text h
  · rintro rfl
    rfl

end Value

namespace Condition

/-- Nothing, an empty list or object, or what is written like nothing. -/
def IsBlankValue (v : Value) : Prop :=
  v = .null ∨ IsHollow v ∨ ∃ t, v.inserted = .ok t ∧ lower (trim t) ∈ emptyMarkers

variable {scope v value : Value} {a : List Char}

lemma exists_inserted_iff {P : String → Prop} :
    (∃ t, v.inserted = .ok t ∧ P t) ↔ v.hasText = true ∧ P v.insertedForm := by
  simp only [Value.inserted_eq_ok_iff, and_assoc, exists_and_left, exists_eq_left']

instance (v : Value) : Decidable (IsBlankValue v) :=
  haveI : Decidable (∃ t, v.inserted = .ok t ∧ lower (trim t) ∈ emptyMarkers) :=
    decidable_of_iff _ exists_inserted_iff.symm
  inferInstanceAs (Decidable (_ ∨ _))

lemma IsBlankValue.hasText (h : IsBlankValue v) : v.hasText = true := by
  rcases h with rfl | h | h
  · rfl
  · exact h.hasText
  · exact (exists_inserted_iff.mp h).1

lemma looksEmpty_shown? (htext : v.hasText = true) :
    looksEmpty (shown? a v) = true ↔
      IsBlankValue v ∨ v = .text (String.ofList (Template.written a)) := by
  unfold shown? IsBlankValue
  rw [exists_inserted_iff, and_iff_right htext, ← Value.insertedForm_eq_written_iff]
  by_cases hhollow : IsHollow v
  · rw [if_pos hhollow]
    exact iff_of_true (by decide +kernel) (.inl (.inr (.inl hhollow)))
  · rw [if_neg hhollow]
    by_cases hmissing : v = .null ∨ v.insertedForm = String.ofList (Template.written a)
    · rw [if_pos hmissing]
      exact iff_of_true rfl (hmissing.imp .inl id)
    · rw [if_neg hmissing, looksEmpty, List.contains_iff_mem]
      rw [not_or] at hmissing
      simp only [hmissing.1, hmissing.2, hhollow, false_or, or_false]

/-- The value can be read: it has a text, and so has the value of each of its tokens. -/
def Reads (scope value : Value) : Prop :=
  value.hasText = true ∧ ¬Template.Fails scope (authored value)

lemma reads_iff : Reads scope value ↔ ∃ t, target scope value = .ok t := by
  rcases htarget : target scope value with fault | t
  · have hnot := target_error_iff.mp ⟨fault, htarget⟩
    refine iff_of_false (fun hreads => ?_) (by simp)
    exact hnot.elim (Bool.eq_false_iff.mp · hreads.1) hreads.2
  · have hno : ¬∃ fault, target scope value = .error fault := by simp [htarget]
    rw [target_error_iff, not_or, Bool.not_eq_false] at hno
    exact iff_of_true hno ⟨t, rfl⟩

/-- **A variable is empty** exactly if its value is blank or the text of its own token, as long as
the value that it is not compared with can be read. -/
theorem holds_isEmpty_iff (ha : IsVariable a) (h : scope.lookupChars a = .ok v) (value : Value) :
    (onVariable a .isEmpty value).holds scope = true ↔
      Reads scope value ∧ (IsBlankValue v ∨ v = .text (String.ofList (Template.written a))) := by
  rcases htext : v.hasText with _ | _
  · rw [not_holds_of_textless ha h htext]
    refine iff_of_false Bool.false_ne_true ?_
    rintro ⟨-, hblank | rfl⟩
    · exact Bool.eq_false_iff.mp htext hblank.hasText
    · cases htext
  rcases htarget : target scope value with fault | t
  · have hnot : (onVariable a .isEmpty value).holds scope = false :=
      holds_of_error (.inr ⟨fault, htarget⟩)
    rw [hnot, reads_iff, htarget]
    exact iff_of_false Bool.false_ne_true (by simp)
  · rw [holds_onVariable ha h htext htarget, and_iff_right (reads_iff.mpr ⟨t, htarget⟩)]
    exact looksEmpty_shown? htext

lemma reads_null : Reads scope .null := reads_iff.mpr ⟨"", rfl⟩

/-- A text that is its own token, a text that writes nothing, a text that is another token, and a
list. -/
def doubtful : Value := .object [
  ("x", .text "\x7b\x7bx\x7d\x7d"), ("u", .text " Undefined "), ("y", .text "\x7b\x7bx\x7d\x7d"),
  ("l", .list [])]

/-- The token of the variable itself counts as empty, that of another does not. Nothing counts as
empty beside a value that cannot be read. -/
theorem holds_isEmpty_iff_doubtful :
    (onVariable ['x'] .isEmpty .null).holds doubtful = true ∧
      (onVariable ['u'] .isEmpty .null).holds doubtful = true ∧
      (onVariable ['y'] .isEmpty .null).holds doubtful = false ∧
      (onVariable ['u'] .isEmpty (.text "\x7b\x7bl.²\x7d\x7d")).holds doubtful = false := by
  have hx : IsVariable ['x'] := isVariable_char (by decide) (by decide) (by decide)
  have hu : IsVariable ['u'] := isVariable_char (by decide) (by decide) (by decide)
  have hy : IsVariable ['y'] := isVariable_char (by decide) (by decide) (by decide)
  have hself : doubtful.lookupChars ['x'] =
      .ok (.text (String.ofList (Template.written ['x']))) := by decide +kernel
  have hwritten : doubtful.lookupChars ['u'] = .ok (.text " Undefined ") := by decide +kernel
  have hother : doubtful.lookupChars ['y'] = .ok (.text "\x7b\x7bx\x7d\x7d") := by decide +kernel
  refine ⟨?_, ?_, ?_, ?_⟩
  · exact (holds_isEmpty_iff hx hself .null).mpr ⟨reads_null, .inr rfl⟩
  · exact (holds_isEmpty_iff hu hwritten .null).mpr
      ⟨reads_null, .inl (.inr (.inr ⟨_, rfl, by decide +kernel⟩))⟩
  · rw [Bool.eq_false_iff, Ne, holds_isEmpty_iff hy hother]
    rintro ⟨-, hblank | hown⟩
    · exact absurd hblank (by decide +kernel)
    · exact absurd hown (by decide +kernel)
  · rw [Bool.eq_false_iff, Ne, holds_isEmpty_iff hu hwritten]
    rintro ⟨hreads, -⟩
    obtain ⟨t, ht⟩ := reads_iff.mp hreads
    have hfault : target doubtful (.text "\x7b\x7bl.²\x7d\x7d") =
        .error (.path (.notDecimal "²")) := by decide +kernel
    rw [hfault] at ht
    cases ht

end Condition

end CrmAutomation

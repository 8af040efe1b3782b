import CrmAutomation.Proofs.Condition.Sides
import CrmAutomation.Proofs.Template.Segment

/-!
Conditions on one variable.

Where the path of the variable can be read, and its value has a text, the field of the condition
shows the value by a text, or by none. An empty list or object shows as an empty text. A missing
value shows as none, and so does a text that is the token of the path itself: the field is taken to
be missing where its token is left as it is. No condition holds of a value without a text.
-/

namespace CrmAutomation

open Text

namespace Template

variable {scope : Value} {cs : List Char} {s : String}

/-- Two opening braces stand somewhere in the text. -/
def Opened (cs : List Char) : Prop := ['\x7b', '\x7b'] <:+: cs

instance (cs : List Char) : Decidable (Opened cs) := inferInstanceAs (Decidable (_ <:+: _))

lemma Opened.of_infix {ds : List Char} (h : Opened cs) (hds : cs <:+: ds) : Opened ds :=
  List.IsInfix.trans h hds

lemma scans_of_not_opened (h : ¬Opened cs) : Scans cs (cs.map .char) := by
  induction cs with
  | nil => exact .done
  | cons c cs ih =>
    refine .char (fun path rest _ heq => h ?_) (ih fun hopen =>
      h (hopen.of_infix (List.suffix_cons c cs).isInfix))
    rw [written_append] at heq
    exact ⟨[], _, heq.symm⟩

lemma expand_of_not_opened (h : ¬Opened s.toList) : expand scope s = .ok s := by
  unfold expand
  rw [pieces_of_scans (scans_of_not_opened h), expandAll_chars, Except.map, String.ofList_toList]

end Template

namespace Condition

/-- A condition on the variable at a path. -/
def onVariable (path : List Char) (op : Operator) (value : Value) : Condition :=
  asking (.text (String.ofList path)) op value

/-- A path without braces and outer blanks. -/
structure IsVariable (path : List Char) : Prop where
  notEmpty : path ≠ []
  bare : Template.Bare path
  trimmed : trimChars isBlank path = path

/-- The text by which the field shows a value, none where the value counts as missing. -/
def shown? (path : List Char) (v : Value) : Option String :=
  if IsHollow v then some ""
  else if v = .null ∨ v.insertedForm = String.ofList (Template.written path) then none
  else some v.insertedForm

variable {scope v value : Value} {a : List Char} {op : Operator} {t : String}

/-! ### The two sides -/

lemma isVariable_char {c : Char} (hopen : c ≠ '\x7b') (hclose : c ≠ '\x7d')
    (hblank : isBlank c = false) : IsVariable [c] := by
  refine ⟨by simp, fun d hd => ?_, by simp [trimChars, hblank]⟩
  rw [List.mem_singleton.mp hd]
  exact ⟨hopen, hclose⟩

lemma path_variable (ha : IsVariable a) : fieldPath (.text (String.ofList a)) = a := by
  have hpresent : (Value.text (String.ofList a)).isTruthy = true := by
    simpa [Value.isTruthy] using ha.notEmpty
  rw [fieldPath, Value.orElse, if_pos hpresent, Value.literalForm, String.toList_ofList, ha.trimmed]

lemma expand_token (ha : IsVariable a) (h : scope.lookupChars a = .ok v) :
    Template.expand scope (String.ofList (Template.written a)) =
      (Template.replacement a v).map String.ofList := by
  have hpieces : Template.pieces (Template.written a) = [.token a] := by
    have hone := Template.pieces_written (ha.bare.isPath ha.notEmpty) []
    rwa [List.append_nil] at hone
  rw [Template.expand, String.toList_ofList, hpieces, Template.expandAll_token,
    Template.expand_of_ok h]

lemma expand_variable (ha : IsVariable a) (h : scope.lookupChars a = .ok v)
    (htext : v.hasText = true) :
    Template.expand scope (String.ofList (Template.written a)) =
      .ok (if v = .null then String.ofList (Template.written a) else v.insertedForm) := by
  rw [expand_token ha h]
  by_cases hv : v = .null
  · rw [if_pos hv, hv, Template.replacement, Except.map]
  · rw [if_neg hv, Template.replacement_of_hasText hv htext, Except.map, String.ofList_toList]

lemma expand_variable_of_textless (ha : IsVariable a) (h : scope.lookupChars a = .ok v)
    (htext : v.hasText = false) :
    Template.expand scope (String.ofList (Template.written a)) = .error (.text {}) := by
  rw [expand_token ha h, Template.replacement_of_textless htext, Except.map]

lemma fieldToken_variable (ha : IsVariable a) :
    fieldToken (.text (String.ofList a)) = String.ofList (Template.written a) := by
  rw [fieldToken, path_variable ha]

lemma actual?_variable (ha : IsVariable a) (h : scope.lookupChars a = .ok v)
    (htext : v.hasText = true) : actual? scope (.text (String.ofList a)) = .ok (shown? a v) := by
  have htoken := fieldToken_variable ha
  have hexpand := expand_variable ha h htext
  rw [← htoken] at hexpand
  rw [actual?_of_hasText rfl, shownAt?_of_ok hexpand ((path_variable ha).symm ▸ h), htoken, shown?]
  by_cases hv : IsHollow v
  · rw [if_pos hv, if_pos hv]
  · rw [if_neg hv, if_neg hv]
    by_cases hnull : v = .null
    · rw [if_pos hnull, if_pos rfl, if_pos (.inl hnull)]
    · rw [if_neg hnull]
      simp only [hnull, false_or]

/-- **A condition on a variable** tests the text by which the field shows its value. -/
lemma holds_onVariable (ha : IsVariable a) (h : scope.lookupChars a = .ok v)
    (htext : v.hasText = true) (ht : target scope value = .ok t) :
    (onVariable a op value).holds scope = op.holds (shown? a v) t :=
  holds_of_ok (actual?_variable ha h htext) ht

lemma not_holds_of_textless (ha : IsVariable a) (h : scope.lookupChars a = .ok v)
    (htext : v.hasText = false) : (onVariable a op value).holds scope = false := by
  have htoken : Template.Fails scope (fieldToken (.text (String.ofList a))) := by
    rw [fieldToken_variable ha, ← Template.expand_error_iff_fails]
    exact ⟨_, expand_variable_of_textless ha h htext⟩
  exact holds_of_error (.inl (actual?_error_iff.mpr (.inr (.inr htoken))))

lemma not_holds_beside_textless (htext : value.hasText = false) :
    (onVariable a op value).holds scope = false :=
  holds_of_error (.inr (target_error_iff.mpr (.inl htext)))

/-! ### Values that show by their text -/

lemma shown?_of_not_opened (hv : ¬IsHollow v) (hnull : v ≠ .null)
    (h : ¬Template.Opened v.insertedForm.toList) : shown? a v = some v.insertedForm := by
  have hne : v.insertedForm ≠ String.ofList (Template.written a) := by
    intro heq
    refine h ⟨[], a ++ ['\x7d', '\x7d'], ?_⟩
    rw [heq, String.toList_ofList]
    rfl
  rw [shown?, if_neg hv, if_neg (by simp [hnull, hne])]

lemma target_of_not_opened (hvalue : value ≠ .null) (htext : value.hasText = true)
    (h : ¬Template.Opened value.literalForm.toList) :
    target scope value = .ok value.literalForm := by
  rw [target_of_hasText htext, authored, if_neg hvalue, Template.expand_of_not_opened h]

end Condition

end CrmAutomation

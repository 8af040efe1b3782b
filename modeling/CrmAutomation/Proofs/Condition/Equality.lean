import CrmAutomation.Proofs.Condition.Number
import CrmAutomation.Proofs.Condition.Variable
import CrmAutomation.Proofs.Numeric.Order
import CrmAutomation.Proofs.Text.LowerCase

/-!
Equality of two variables.

The comparison of texts is symmetric, and reflexive but for what is not a number. The two sides of a
condition do not show a value by the same text, though: an empty list or object is an empty text as
the field, and its brackets as what the field is compared with. So the two laws of equality hold for
variables as far as no empty list or object interferes, and every value has a text: a value that has
none equals nothing, and nothing equals it.
-/

namespace CrmAutomation

open Text

namespace Condition

open Numeric.Binary64

/-- One variable compared for equality with another. -/
def between (a b : List Char) : Condition where
  field := .text (String.ofList a)
  operator := .text "equals"
  value := .text (String.ofList (Template.written b))

/-- The variable has a value, and the text of the value starts no token. -/
structure Shows (scope : Value) (path : List Char) (v : Value) : Prop where
  found : scope.lookupChars path = .ok v
  present : v ≠ .null
  unopened : ¬['\x7b', '\x7b'] <:+: v.insertedForm.toList

/-- The text of a value as the field of a condition. -/
def fieldText (v : Value) : String := if IsHollow v then "" else v.insertedForm

/-- An empty list or object beside another value that has an empty text or the text of its
brackets. -/
def Skewed (v w : Value) : Prop :=
  IsHollow v ∧ ¬IsHollow w ∧ (w.inserted = .ok "" ∨ w.inserted = v.inserted)

instance (v w : Value) : Decidable (Skewed v w) := inferInstanceAs (Decidable (_ ∧ _ ∧ _))

variable {scope v w : Value} {a b : List Char} {s t : String}

/-! ### Texts -/

lemma looselyEqual_comm (s t : String) : looselyEqual (some s) t = looselyEqual (some t) s := by
  unfold looselyEqual
  dsimp only
  rcases numberOf? s with _ | x
  · rcases numberOf? t with _ | y
    · exact Bool.beq_comm
    · exact Bool.beq_comm
  · rcases numberOf? t with _ | y
    · exact Bool.beq_comm
    · exact sameValue_comm x y

lemma looselyEqual_self_iff :
    looselyEqual (some s) s = true ↔ ¬WritesNaN (trimChars isBlank s.toList) := by
  rw [← numberOf?_nan_iff, not_exists]
  unfold looselyEqual
  dsimp only
  rcases numberOf? s with _ | x
  · simp
  · simp only [sameValue_self_iff, ne_eq, Option.some.injEq]

lemma looselyEqual_brackets (hnum : numberOf? t = none) (h : t.toList ⊆ brackets) :
    looselyEqual (some s) t = true ↔ s = t := by
  have hlower : looselyEqual (some s) t = (lower s == lower t) := by
    unfold looselyEqual
    dsimp only
    rw [hnum]
    rcases numberOf? s <;> rfl
  rw [hlower, beq_iff_eq, (lower_eq_iff h).mpr rfl, lower_eq_iff h]

lemma looselyEqual_hollow (h : IsHollow v) :
    looselyEqual (some s) v.insertedForm = true ↔ s = v.insertedForm := by
  rcases h with rfl | rfl
  · exact looselyEqual_brackets (by decide +kernel) (by decide +kernel)
  · exact looselyEqual_brackets (by decide +kernel) (by decide +kernel)

lemma looselyEqual_empty : looselyEqual (some "") t = true ↔ t = "" := by
  rw [looselyEqual_comm]
  exact looselyEqual_brackets (by decide +kernel) (by simp)

/-! ### The two sides of a condition -/

lemma shown?_of_shows (h : Shows scope a v) : shown? a v = some (fieldText v) := by
  unfold fieldText
  by_cases hv : IsHollow v
  · rw [shown?, if_pos hv, if_pos hv]
  · rw [if_neg hv, shown?_of_not_opened hv h.present h.unopened]

lemma between_eq (a b : List Char) :
    between a b = onVariable a .equals (.text (String.ofList (Template.written b))) := rfl

lemma target_token (b : List Char) :
    target scope (.text (String.ofList (Template.written b))) =
      Template.expand scope (String.ofList (Template.written b)) :=
  target_of_hasText rfl

lemma holds_between (ha : IsVariable a) (hb : IsVariable b) (hv : Shows scope a v)
    (hw : Shows scope b w) (hvtext : v.hasText = true) (hwtext : w.hasText = true) :
    (between a b).holds scope = looselyEqual (some (fieldText v)) w.insertedForm := by
  have htarget := (target_token b).trans (expand_variable hb hw.found hwtext)
  rw [if_neg hw.present] at htarget
  rw [between_eq, holds_onVariable ha hv.found hvtext htarget, shown?_of_shows hv, Operator.holds]

lemma not_holds_between_left (ha : IsVariable a) (hv : Shows scope a v) (h : v.hasText = false) :
    (between a b).holds scope = false := by
  rw [between_eq, not_holds_of_textless ha hv.found h]

lemma not_holds_between_right (hb : IsVariable b) (hw : Shows scope b w) (h : w.hasText = false) :
    (between a b).holds scope = false := by
  rw [between_eq]
  refine holds_of_error (.inr ⟨.text {}, ?_⟩)
  exact (target_token b).trans (expand_variable_of_textless hb hw.found h)

/-! ### The laws -/

lemma insertedForm_ne_empty (h : IsHollow v) : v.insertedForm ≠ "" := by
  rcases h with rfl | rfl <;> decide +kernel

lemma fieldText_of_hollow (h : IsHollow v) : fieldText v = "" := if_pos h

lemma fieldText_of_not_hollow (h : ¬IsHollow v) : fieldText v = v.insertedForm := if_neg h

lemma looselyEqual_of_hollow (hv : IsHollow v) :
    looselyEqual (some (fieldText v)) t = true ↔ t = "" := by
  rw [fieldText_of_hollow hv, looselyEqual_empty]

lemma not_looselyEqual_of_hollow (hv : IsHollow v) (hw : IsHollow w) :
    looselyEqual (some (fieldText v)) w.insertedForm = false :=
  Bool.eq_false_iff.mpr fun h => insertedForm_ne_empty hw ((looselyEqual_of_hollow hv).mp h)

lemma looselyEqual_field_self_iff (v : Value) :
    looselyEqual (some (fieldText v)) v.insertedForm = true ↔
      ¬IsHollow v ∧ ¬WritesNaN (trimChars isBlank v.insertedForm.toList) := by
  by_cases hv : IsHollow v
  · rw [not_looselyEqual_of_hollow hv hv]
    exact iff_of_false Bool.false_ne_true fun h => h.1 hv
  · rw [fieldText_of_not_hollow hv, looselyEqual_self_iff, and_iff_right hv]

lemma skewed_iff (htext : w.hasText = true) (hv : IsHollow v) :
    Skewed v w ↔ ¬IsHollow w ∧ (w.insertedForm = "" ∨ w.insertedForm = v.insertedForm) := by
  rw [Skewed, and_iff_right hv, Value.inserted_of_hasText htext,
    Value.inserted_of_hasText hv.hasText, Except.ok.injEq, Except.ok.injEq]

/-- Beside another value, an empty list or object equals it in at most one of the two orders. -/
lemma looselyEqual_swap_of_hollow (hv : IsHollow v) (hw : ¬IsHollow w) (htext : w.hasText = true) :
    looselyEqual (some (fieldText v)) w.insertedForm = looselyEqual (some (fieldText w)) v.insertedForm ↔
      ¬Skewed v w := by
  have hleft : looselyEqual (some (fieldText v)) w.insertedForm = true ↔ w.insertedForm = "" :=
    looselyEqual_of_hollow hv
  have hright : looselyEqual (some (fieldText w)) v.insertedForm = true ↔ w.insertedForm = v.insertedForm := by
    rw [fieldText_of_not_hollow hw, looselyEqual_hollow hv]
  have hne := insertedForm_ne_empty hv
  rw [Bool.eq_iff_iff, hleft, hright, skewed_iff htext hv]
  constructor
  · rintro hiff ⟨-, hempty | hsame⟩
    · exact hne ((hiff.mp hempty).symm.trans hempty)
    · exact hne (hsame.symm.trans (hiff.mpr hsame))
  · intro hskew
    exact iff_of_false (fun hempty => hskew ⟨hw, .inl hempty⟩)
      (fun hsame => hskew ⟨hw, .inr hsame⟩)

lemma not_skewed_of_full (hv : ¬IsHollow v) : ¬Skewed v w := fun h => hv h.1

lemma not_skewed_of_hollow (hw : IsHollow w) : ¬Skewed v w := fun h => h.2.1 hw

lemma looselyEqual_field_swap_iff (hvtext : v.hasText = true) (hwtext : w.hasText = true) :
    looselyEqual (some (fieldText v)) w.insertedForm = looselyEqual (some (fieldText w)) v.insertedForm ↔
      ¬Skewed v w ∧ ¬Skewed w v := by
  by_cases hv : IsHollow v
  · by_cases hw : IsHollow w
    · refine iff_of_true ?_ ⟨not_skewed_of_hollow hw, not_skewed_of_hollow hv⟩
      rw [not_looselyEqual_of_hollow hv hw, not_looselyEqual_of_hollow hw hv]
    · rw [looselyEqual_swap_of_hollow hv hw hwtext, and_iff_left (not_skewed_of_full hw)]
  · by_cases hw : IsHollow w
    · rw [eq_comm, looselyEqual_swap_of_hollow hw hv hvtext, and_iff_right (not_skewed_of_full hv)]
    · refine iff_of_true ?_ ⟨not_skewed_of_full hv, not_skewed_of_full hw⟩
      rw [fieldText_of_not_hollow hv, fieldText_of_not_hollow hw, looselyEqual_comm]

lemma Skewed.hasText (h : Skewed v w) : v.hasText = true ∧ w.hasText = true := by
  obtain ⟨hv, -, hempty | hsame⟩ := h
  · exact ⟨hv.hasText, (Value.inserted_eq_ok_iff.mp hempty).1⟩
  · rw [Value.inserted_of_hasText hv.hasText] at hsame
    exact ⟨hv.hasText, (Value.inserted_eq_ok_iff.mp hsame).1⟩

lemma holds_between_self_iff (ha : IsVariable a) (hv : Shows scope a v) :
    (between a a).holds scope = true ↔
      v.hasText = true ∧ ¬IsHollow v ∧ ¬WritesNaN (trimChars isBlank v.insertedForm.toList) := by
  rcases htext : v.hasText with _ | _
  · rw [not_holds_between_left ha hv htext]
    simp
  · rw [holds_between ha ha hv hv htext htext, looselyEqual_field_self_iff, and_iff_right rfl]

lemma holds_between_swap_iff (ha : IsVariable a) (hb : IsVariable b) (hv : Shows scope a v)
    (hw : Shows scope b w) :
    (between a b).holds scope = (between b a).holds scope ↔ ¬Skewed v w ∧ ¬Skewed w v := by
  rcases hvtext : v.hasText with _ | _
  · rw [not_holds_between_left ha hv hvtext, not_holds_between_right ha hv hvtext]
    exact iff_of_true rfl ⟨fun h => Bool.eq_false_iff.mp hvtext h.hasText.1,
      fun h => Bool.eq_false_iff.mp hvtext h.hasText.2⟩
  rcases hwtext : w.hasText with _ | _
  · rw [not_holds_between_left hb hw hwtext, not_holds_between_right hb hw hwtext]
    exact iff_of_true rfl ⟨fun h => Bool.eq_false_iff.mp hwtext h.hasText.2,
      fun h => Bool.eq_false_iff.mp hwtext h.hasText.1⟩
  rw [holds_between ha hb hv hw hvtext hwtext, holds_between hb ha hw hv hwtext hvtext]
  exact looselyEqual_field_swap_iff hvtext hwtext

/-- **Equality of two variables**. A variable equals itself exactly if its value has a text, is no
empty list or object and is not written like what is not a number. Two variables compare alike in
both orders exactly unless one is an empty list or object and the other is not, but has an empty
text or the text of its brackets. -/
theorem equals_laws (ha : IsVariable a) (hb : IsVariable b) (hv : Shows scope a v)
    (hw : Shows scope b w) :
    ((between a a).holds scope = true ↔
        v.hasText = true ∧ ¬IsHollow v ∧
          ¬WritesNaN (trimChars isBlank v.insertedForm.toList)) ∧
      ((between a b).holds scope = (between b a).holds scope ↔ ¬Skewed v w ∧ ¬Skewed w v) :=
  ⟨holds_between_self_iff ha hv, holds_between_swap_iff ha hb hv hw⟩

/-- A number, its text in another form, an empty list, a text without characters, and a name. -/
def compared : Value := .object [
  ("n", .int 80), ("t", .text " 8E1 "), ("l", .list []), ("e", .text ""), ("p", .text "Nan")]

/-- A number and its text in another form equal each other in either order, and both themselves. -/
theorem equals_laws_compared :
    (between ['n'] ['n']).holds compared = true ∧ (between ['t'] ['t']).holds compared = true ∧
      (between ['n'] ['t']).holds compared = true ∧
      (between ['t'] ['n']).holds compared = true := by
  have hn : Shows compared ['n'] (.int 80) := ⟨by decide +kernel, by simp, by decide +kernel⟩
  have ht : Shows compared ['t'] (.text " 8E1 ") := ⟨by decide +kernel, by simp, by decide +kernel⟩
  have hn' : IsVariable ['n'] := isVariable_char (by decide) (by decide) (by decide)
  have ht' : IsVariable ['t'] := isVariable_char (by decide) (by decide) (by decide)
  obtain ⟨hself, hswap⟩ := equals_laws hn' ht' hn ht
  obtain ⟨hself', -⟩ := equals_laws ht' hn' ht hn
  have hforth : (between ['n'] ['t']).holds compared = true := by decide +kernel
  rw [← hswap.mpr (by decide +kernel)]
  exact ⟨hself.mpr (by decide +kernel), hself'.mpr (by decide +kernel), hforth, hforth⟩

/-- Neither law holds of all values: an empty list is not equal to itself, nor is a name that is
written like what is not a number, and an empty list equals an empty text that does not equal it. -/
theorem equals_not_lawful :
    (¬∀ scope v a, IsVariable a → Shows scope a v → (between a a).holds scope = true) ∧
      (¬∀ scope v a, IsVariable a → Shows scope a v → ¬IsHollow v →
        (between a a).holds scope = true) ∧
      ¬∀ scope v w a b, IsVariable a → IsVariable b → Shows scope a v → Shows scope b w →
        (between a b).holds scope = (between b a).holds scope := by
  have hl : Shows compared ['l'] (.list []) := ⟨by decide +kernel, by simp, by decide +kernel⟩
  have he : Shows compared ['e'] (.text "") := ⟨by decide +kernel, by simp, by decide +kernel⟩
  have hp : Shows compared ['p'] (.text "Nan") := ⟨by decide +kernel, by simp, by decide +kernel⟩
  have hl' : IsVariable ['l'] := isVariable_char (by decide) (by decide) (by decide)
  have he' : IsVariable ['e'] := isVariable_char (by decide) (by decide) (by decide)
  have hp' : IsVariable ['p'] := isVariable_char (by decide) (by decide) (by decide)
  refine ⟨fun hall => ?_, fun hall => ?_, fun hall => ?_⟩
  · exact absurd (hall _ _ _ hl' hl) (by decide +kernel)
  · exact absurd (hall _ _ _ hp' hp (by decide)) (by decide +kernel)
  · exact absurd (hall _ _ _ _ _ hl' he' hl he) (by decide +kernel)

end Condition

end CrmAutomation

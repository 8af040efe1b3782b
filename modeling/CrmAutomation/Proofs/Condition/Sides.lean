import CrmAutomation.Condition.Evaluation
import CrmAutomation.Proofs.Template.Expansion

/-!
The two sides of a condition.

The field is read as a path and as the token of this path, and the other value is a template.
A condition is decided unless one of these derails or comes to a value without a text. So operators
that are complements of each other disagree about all that can be read, and neither of them holds of
what cannot.
-/

namespace CrmAutomation.Condition

open CrmAutomation.Path Text

/-- A condition that asks about a field by one of the operators. -/
def asking (field : Value) (op : Operator) (value : Value) : Condition where
  field := field
  operator := .text op.name
  value := value

/-- The path that a field with a text names. -/
def fieldPath (field : Value) : List Char :=
  trimChars isBlank (field.orElse (.text "")).literalForm.toList

/-- The token of the path that the field names. -/
def fieldToken (field : Value) : String := String.ofList (Template.written (fieldPath field))

/-- An empty list or object. -/
def IsHollow (v : Value) : Prop := v = .list [] ∨ v = .object []

instance (v : Value) : Decidable (IsHollow v) := inferInstanceAs (Decidable (_ ∨ _))

lemma IsHollow.hasText {v : Value} (h : IsHollow v) : v.hasText = true := by
  rcases h with rfl | rfl <;> rfl

/-- The template that the field is compared with, as a value with a text writes it. -/
def authored (value : Value) : String := if value = .null then "" else value.literalForm

/-- A side of a condition has no text, its path leads to a list and on by digits that write no
position, or one of its tokens does so or leads to a value without a text. -/
inductive Unreadable (scope field value : Value) : Prop
  | field : field.hasText = false → Unreadable scope field value
  | path : Derails scope (parts (fieldPath field)) → Unreadable scope field value
  | token : Template.Fails scope (fieldToken field) → Unreadable scope field value
  | value : value.hasText = false → Unreadable scope field value
  | template : Template.Fails scope (authored value) → Unreadable scope field value

/-- The second operator is to hold where the first does not. -/
inductive Complementary : Operator → Operator → Prop
  | equals : Complementary .equals .notEquals
  | contains : Complementary .contains .notContains
  | isEmpty : Complementary .isEmpty .isNotEmpty

variable {scope field value : Value} {c : Condition} {op op' : Operator} {t : String}
  {shown : Option String}

/-! ### What is decided -/

lemma operator?_name (op : Operator) : operator? (.text op.name) = some op := by
  have hname : op.name.isEmpty = false := by cases op <;> decide +kernel
  rw [operator?, Value.orElse, Value.isTruthy, hname]
  exact Operator.ofName?_name op

lemma holds_of_ok (hfield : actual? scope field = .ok shown) (ht : target scope value = .ok t) :
    (asking field op value).holds scope = op.holds shown t := by
  rw [holds, evaluate, asking, hfield, ht]
  dsimp only
  rw [operator?_name, Verdict.holds]

lemma holds_of_error (h : (∃ fault, actual? scope c.field = .error fault) ∨
    ∃ fault, target scope c.value = .error fault) : c.holds scope = false := by
  rw [holds, evaluate]
  rcases hfield : actual? scope c.field with fault | shown
  · rfl
  · rcases htarget : target scope c.value with fault | t
    · rfl
    · rw [hfield, htarget] at h
      simp at h

/-! ### What can be read -/

lemma template_of_hasText (h : value.hasText = true) : template value = .ok (authored value) := by
  rw [template, authored, Value.literal_of_hasText h]
  exact (apply_ite Except.ok _ _ _).symm

lemma target_of_hasText (h : value.hasText = true) :
    target scope value = Template.expand scope (authored value) := by
  rw [target, template_of_hasText h]
  rfl

lemma target_of_textless (h : value.hasText = false) : target scope value = .error (.text {}) := by
  rw [target, template, if_neg (Template.ne_null_of_textless h), Value.literal_of_textless h]
  rfl

lemma target_error_iff :
    (∃ fault, target scope value = .error fault) ↔
      value.hasText = false ∨ Template.Fails scope (authored value) := by
  rcases htext : value.hasText with _ | _
  · rw [target_of_textless htext]
    exact iff_of_true ⟨_, rfl⟩ (.inl rfl)
  · rw [target_of_hasText htext, Template.expand_error_iff_fails]
    simp

lemma hasText_orElse (field : Value) : (field.orElse (.text "")).hasText = field.hasText := by
  rw [Value.orElse]
  split_ifs with htrue
  · rfl
  · cases field with
    | int n =>
      have hzero : n = 0 := by simpa [Value.isTruthy] using htrue
      rw [hzero]
      decide
    | list xs =>
      have hnone : xs = [] := by simpa [Value.isTruthy] using htrue
      rw [hnone]
      rfl
    | object fs =>
      have hnone : fs = [] := by simpa [Value.isTruthy] using htrue
      rw [hnone]
      rfl
    | _ => rfl

lemma path_of_hasText (h : field.hasText = true) : path field = .ok (fieldPath field) := by
  rw [path, Value.literal_of_hasText ((hasText_orElse field).trans h)]
  rfl

lemma actual?_of_hasText (h : field.hasText = true) :
    actual? scope field = shownAt? scope (fieldPath field) := by
  simp only [actual?, path_of_hasText h, Except.mapError, bind, Except.bind]

lemma actual?_of_textless (h : field.hasText = false) :
    actual? scope field = .error (.text {}) := by
  rw [actual?, path, Value.literal_of_textless ((hasText_orElse field).trans h)]
  rfl

lemma shownAt?_of_ok {s : String} {v : Value}
    (hs : Template.expand scope (fieldToken field) = .ok s)
    (hv : scope.lookupChars (fieldPath field) = .ok v) :
    shownAt? scope (fieldPath field) =
      .ok (if IsHollow v then some "" else if s = fieldToken field then none else some s) := by
  rw [shownAt?, ← fieldToken, hs, hv]
  by_cases hhollow : IsHollow v
  · rw [if_pos hhollow]
    exact if_pos (by simpa [IsHollow] using hhollow)
  · rw [if_neg hhollow]
    exact if_neg (by simpa [IsHollow] using hhollow)

lemma shownAt?_error_iff :
    (∃ fault, shownAt? scope (fieldPath field) = .error fault) ↔
      Derails scope (parts (fieldPath field)) ∨ Template.Fails scope (fieldToken field) := by
  rw [← Template.lookupChars_error_iff, ← Template.expand_error_iff_fails]
  rcases hs : Template.expand scope (fieldToken field) with fault | s
  · refine iff_of_true ⟨fault, ?_⟩ (.inr ⟨fault, rfl⟩)
    rw [shownAt?, ← fieldToken, hs]
    rfl
  · rcases hv : scope.lookupChars (fieldPath field) with fault | v
    · refine iff_of_true ⟨.path fault, ?_⟩ (.inl ⟨fault, rfl⟩)
      rw [shownAt?, ← fieldToken, hs, hv]
      rfl
    · rw [shownAt?_of_ok hs hv]
      exact iff_of_false (by simp) (by simp)

lemma actual?_error_iff :
    (∃ fault, actual? scope field = .error fault) ↔
      field.hasText = false ∨ Derails scope (parts (fieldPath field)) ∨
        Template.Fails scope (fieldToken field) := by
  rcases htext : field.hasText with _ | _
  · rw [actual?_of_textless htext]
    exact iff_of_true ⟨_, rfl⟩ (.inl rfl)
  · rw [actual?_of_hasText htext, shownAt?_error_iff]
    simp

lemma unreadable_iff :
    Unreadable scope field value ↔
      (∃ fault, actual? scope field = .error fault) ∨
        ∃ fault, target scope value = .error fault := by
  rw [actual?_error_iff, target_error_iff]
  constructor
  · rintro (h | h | h | h | h)
    · exact .inl (.inl h)
    · exact .inl (.inr (.inl h))
    · exact .inl (.inr (.inr h))
    · exact .inr (.inl h)
    · exact .inr (.inr h)
  · rintro ((h | h | h) | h | h)
    · exact .field h
    · exact .path h
    · exact .token h
    · exact .value h
    · exact .template h

lemma readable_iff :
    ¬Unreadable scope field value ↔
      ∃ shown t, actual? scope field = .ok shown ∧ target scope value = .ok t := by
  rw [unreadable_iff]
  rcases actual? scope field with fault | shown
  · simp
  · rcases target scope value with fault | t
    · simp
    · simp

/-! ### Complements -/

lemma Complementary.holds (h : Complementary op op') (shown : Option String) (t : String) :
    op.holds shown t = !op'.holds shown t := by
  cases h <;> simp [Operator.holds]

/-- **Complements disagree** exactly if both sides of the condition can be read. If not, neither
holds. -/
theorem complements_disagree (h : Complementary op op') (scope field value : Value) :
    ((asking field op value).holds scope = !(asking field op' value).holds scope ↔
        ¬Unreadable scope field value) ∧
      (Unreadable scope field value → (asking field op value).holds scope = false ∧
        (asking field op' value).holds scope = false) := by
  have hneither (hunread : Unreadable scope field value) (op : Operator) :
      (asking field op value).holds scope = false := holds_of_error (unreadable_iff.mp hunread)
  refine ⟨⟨fun hdisagree hunread => ?_, fun hread => ?_⟩,
    fun hunread => ⟨hneither hunread op, hneither hunread op'⟩⟩
  · rw [hneither hunread op, hneither hunread op'] at hdisagree
    cases hdisagree
  · obtain ⟨shown, t, hfield, ht⟩ := readable_iff.mp hread
    rw [holds_of_ok hfield ht, holds_of_ok hfield ht, h.holds]

/-- A list of one number, a text that is a token, and nothing. -/
def surveyed : Value := .object [("l", .list [.int 1]), ("t", .text "\x7b\x7bl.²\x7d\x7d")]

/-- At a superscript digit a list is neither empty nor not empty. What is inserted is not read
again: the text that writes the same token is one or the other. -/
theorem complements_disagree_surveyed :
    (asking (.text "l.²") .isEmpty .null).holds surveyed = false ∧
      (asking (.text "l.²") .isNotEmpty .null).holds surveyed = false ∧
      (asking (.text "t") .contains (.text "²")).holds surveyed =
        !(asking (.text "t") .notContains (.text "²")).holds surveyed := by
  have hunread : Unreadable surveyed (.text "l.²") .null := by
    have hparts : parts (fieldPath (.text "l.²")) = [['l'], ['²']] := by decide +kernel
    have hsuper : Unwritable ['²'] := ⟨by decide +kernel, .inl ⟨'²', by simp, by decide +kernel⟩⟩
    have hlist : Enters surveyed ['l'] (.list [.int 1]) := .key (by decide +kernel)
    refine .path ?_
    rw [hparts]
    exact .enter hlist (.here hsuper)
  have hread : ¬Unreadable surveyed (.text "t") (.text "²") :=
    readable_iff.mpr ⟨some "\x7b\x7bl.²\x7d\x7d", "²", by decide +kernel, by decide +kernel⟩
  obtain ⟨-, hneither⟩ := complements_disagree .isEmpty surveyed (.text "l.²") .null
  obtain ⟨hdisagree, -⟩ := complements_disagree .contains surveyed (.text "t") (.text "²")
  exact ⟨(hneither hunread).1, (hneither hunread).2, hdisagree.mpr hread⟩

end CrmAutomation.Condition

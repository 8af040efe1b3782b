import CrmAutomation.Proofs.Condition.Equality

/-!
The order of two variables.

Each side of a condition shows a variable by a text of its own, but both texts write the same number
or none. What shows as no number, or cannot be read at all, is in no order with anything. So the
operators that compare in order are laws of the doubles at the two variables, whichever side of the
condition a variable stands on.
-/

namespace CrmAutomation

open Numeric Text

variable {scope v : Value} {a b cs : List Char} {op : Condition.Operator} {s t : String}
  {x y : Binary64} {test : Binary64 → Binary64 → Bool}

namespace Text

lemma exists_trimChars_cons {p : Char → Bool} {c : Char} (hc : p c = false) (cs : List Char) :
    ∃ ds, trimChars p (c :: cs) = c :: ds := by
  obtain ⟨lead, trail, hlead, htrail, heq⟩ := exists_around p (c :: cs)
  cases lead with
  | cons d lead =>
    rw [← (List.cons.inj heq).1, List.forall_mem_cons, hc] at hlead
    cases hlead.1
  | nil =>
    rw [List.nil_append] at heq
    rcases hrest : trimChars p (c :: cs) with _ | ⟨d, ds⟩
    · rw [hrest, List.nil_append] at heq
      rw [← heq, List.forall_mem_cons, hc] at htrail
      cases htrail.1
    · rw [hrest] at heq
      exact ⟨ds, by rw [(List.cons.inj heq).1]⟩

end Text

namespace Numeric.Binary64

lemma ofChars?_brace (cs : List Char) : ofChars? ('\x7b' :: cs) = none := by
  have hname (s : String) (hs : s.toList.head? ≠ some '\x7b') :
      (String.ofList (('\x7b' :: cs).map lowerAscii) == s) = false := by
    rw [beq_eq_false_iff_ne]
    rintro rfl
    exact hs (by rw [String.toList_ofList]; rfl)
  have hsplit : Decimal.splitSign ('\x7b' :: cs) = (false, '\x7b' :: cs) := rfl
  rw [ofChars?, hsplit]
  dsimp only
  rw [hname _ (by decide), hname _ (by decide), hname _ (by decide)]
  rfl

end Numeric.Binary64

namespace Condition

open Numeric.Binary64

/-- One variable compared with another by an operator. -/
def comparing (a : List Char) (op : Operator) (b : List Char) : Condition :=
  onVariable a op (.text (String.ofList (Template.written b)))

/-- The number that the text of a variable's value writes. -/
def numberAt? (scope : Value) (path : List Char) : Option Binary64 :=
  (scope.lookupChars path).toOption.bind fun v => v.inserted.toOption.bind numberOf?

/-! ### The number of a side -/

lemma numberOf?_written (a : List Char) : numberOf? (String.ofList (Template.written a)) = none := by
  have hwritten : Template.written a = '\x7b' :: ('\x7b' :: a ++ ['\x7d', '\x7d']) := rfl
  obtain ⟨ds, hds⟩ := exists_trimChars_cons (p := isBlank) (c := '\x7b') (by decide)
    ('\x7b' :: a ++ ['\x7d', '\x7d'])
  obtain ⟨es, hes⟩ := exists_trimChars_cons (p := isWhiteSpace) (c := '\x7b') (by decide) ds
  have hdigit : asciiDigit '\x7b' = '\x7b' := by decide
  rw [numberOf?, trim, String.toList_ofList, hwritten, hds, ofText?, String.toList_ofList, hes,
    List.map_cons, hdigit, dropInnerUnderscores?_cons (by decide)]
  rcases dropInnerUnderscores? '\x7b' (es.map asciiDigit) with _ | fs
  · rfl
  · exact ofChars?_brace fs

/-- No number is written by the empty text, or by what stands for nothing or for what is empty. -/
lemma numberOf?_nothing : numberOf? "" = none ∧ numberOf? (Value.insertedForm .null) = none ∧
    numberOf? (Value.insertedForm (.list [])) = none ∧
    numberOf? (Value.insertedForm (.object [])) = none := by
  decide +kernel

lemma numberOf?_hollow (h : IsHollow v) : numberOf? v.insertedForm = none := by
  obtain ⟨-, -, hlist, hobject⟩ := numberOf?_nothing
  rcases h with rfl | rfl
  · exact hlist
  · exact hobject

lemma shown?_bind_numberOf? (a : List Char) (v : Value) :
    (shown? a v).bind numberOf? = numberOf? v.insertedForm := by
  rw [shown?]
  split_ifs with hhollow habsent
  · rw [numberOf?_hollow hhollow, Option.bind_some, numberOf?_nothing.1]
  · rcases habsent with rfl | htoken
    · exact numberOf?_nothing.2.1.symm
    · rw [htoken, numberOf?_written, Option.bind_none]
  · rw [Option.bind_some]

lemma exists_target (hb : IsVariable b) (h : scope.lookupChars b = .ok v)
    (htext : v.hasText = true) :
    ∃ t, target scope (.text (String.ofList (Template.written b))) = .ok t ∧
      numberOf? t = numberOf? v.insertedForm := by
  have htarget := (target_token b).trans (expand_variable hb h htext)
  by_cases hv : v = .null
  · rw [if_pos hv] at htarget
    refine ⟨_, htarget, ?_⟩
    rw [numberOf?_written, hv, numberOf?_nothing.2.1]
  · rw [if_neg hv] at htarget
    exact ⟨_, htarget, rfl⟩

/-! ### What cannot be read -/

lemma actual?_of_derails (ha : IsVariable a) {fault : PathFault}
    (h : scope.lookupChars a = .error fault) :
    ∃ fault, actual? scope (.text (String.ofList a)) = .error fault := by
  rw [actual?_error_iff, path_variable ha, ← Template.lookupChars_error_iff]
  exact .inr (.inl ⟨fault, h⟩)

lemma target_of_breaks (hb : IsVariable b) (h : Template.Breaks scope b) :
    ∃ fault, target scope (.text (String.ofList (Template.written b))) = .error fault := by
  rw [target_token, Template.expand_error_iff_fails]
  refine ⟨[.token b], ?_, b, List.mem_singleton.mpr rfl, h⟩
  rw [String.toList_ofList]
  have htoken := Template.scans_segments [.token b hb.notEmpty hb.bare]
  simpa [Template.Segment.source, Template.Segment.pieces] using htoken

/-- The variable can be read, and its value has a text. -/
structure Found (scope : Value) (path : List Char) (v : Value) : Prop where
  found : scope.lookupChars path = .ok v
  hasText : v.hasText = true

lemma found_of_holds (ha : IsVariable a) (hb : IsVariable b)
    (h : (comparing a op b).holds scope = true) :
    ∃ v w t, Found scope a v ∧ Found scope b w ∧ numberOf? t = numberOf? w.insertedForm ∧
      op.holds (shown? a v) t = true := by
  have hread : ¬((∃ fault, actual? scope (comparing a op b).field = .error fault) ∨
      ∃ fault, target scope (comparing a op b).value = .error fault) := fun herror => by
    rw [holds_of_error herror] at h
    cases h
  rcases hv : scope.lookupChars a with fault | v
  · exact absurd (.inl (actual?_of_derails ha hv)) hread
  rcases hvtext : v.hasText with _ | _
  · rw [comparing, not_holds_of_textless ha hv hvtext] at h
    cases h
  rcases hw : scope.lookupChars b with fault | w
  · have hbreaks := Template.Breaks.derails (Template.lookupChars_error_iff.mp ⟨fault, hw⟩)
    exact absurd (.inr (target_of_breaks hb hbreaks)) hread
  rcases hwtext : w.hasText with _ | _
  · have hleads := (Template.lookup_eq_ok_iff hb.notEmpty (Template.ne_null_of_textless hwtext)).mp hw
    exact absurd (.inr (target_of_breaks hb (.textless hleads hwtext))) hread
  obtain ⟨t, htarget, hnumber⟩ := exists_target hb hw hwtext
  rw [comparing, holds_onVariable ha hv hvtext htarget] at h
  exact ⟨v, w, t, ⟨hv, hvtext⟩, ⟨hw, hwtext⟩, hnumber, h⟩

/-! ### Operators on two numbers -/

lemma numberAt?_of_found (h : Found scope a v) : numberAt? scope a = numberOf? v.insertedForm := by
  rw [numberAt?, h.found, Except.toOption, Option.bind_some, Value.inserted_of_hasText h.hasText,
    Except.toOption, Option.bind_some]

lemma found_of_number (h : numberAt? scope a = some x) : ∃ v, Found scope a v := by
  rw [numberAt?, Option.bind_eq_some_iff] at h
  obtain ⟨v, hv, hnumber⟩ := h
  rcases hl : scope.lookupChars a with fault | w
  · rw [hl] at hv
    cases hv
  rcases htext : v.hasText with _ | _
  · rw [Value.inserted_of_textless htext] at hnumber
    cases hnumber
  · rw [hl] at hv
    cases hv
    exact ⟨_, hl, htext⟩

lemma holds_comparing (op : Operator) (ha : IsVariable a) (hb : IsVariable b)
    (hx : numberAt? scope a = some x) (hy : numberAt? scope b = some y) :
    ∃ s t, numberOf? s = some x ∧ numberOf? t = some y ∧
      (comparing a op b).holds scope = op.holds (some s) t := by
  obtain ⟨v, hv⟩ := found_of_number hx
  obtain ⟨w, hw⟩ := found_of_number hy
  rw [numberAt?_of_found hv, ← shown?_bind_numberOf? a v] at hx
  obtain ⟨s, hshown, hs⟩ := Option.bind_eq_some_iff.mp hx
  obtain ⟨t, htarget, ht⟩ := exists_target hb hw.found hw.hasText
  rw [numberAt?_of_found hw, ← ht] at hy
  exact ⟨s, t, hs, hy,
    by rw [comparing, holds_onVariable ha hv.found hv.hasText htarget, hshown]⟩

/-- **A comparison in order** holds exactly if both variables write numbers in this order. -/
lemma compared_iff (ha : IsVariable a) (hb : IsVariable b)
    (hop : ∀ shown t, op.holds shown t = compareAsNumbers test shown t) (scope : Value) :
    (comparing a op b).holds scope = true ↔
      ∃ x y, numberAt? scope a = some x ∧ numberAt? scope b = some y ∧ test x y = true := by
  constructor
  · intro h
    obtain ⟨v, w, t, hv, hw, hnumber, htest⟩ := found_of_holds ha hb h
    rw [hop, compareAsNumbers, shown?_bind_numberOf?, hnumber] at htest
    rw [numberAt?_of_found hv, numberAt?_of_found hw]
    rcases hx : numberOf? v.insertedForm with _ | x
    · rw [hx] at htest
      cases htest
    rcases hy : numberOf? w.insertedForm with _ | y
    · rw [hx, hy] at htest
      cases htest
    rw [hx, hy] at htest
    exact ⟨x, y, rfl, rfl, htest⟩
  · rintro ⟨x, y, hx, hy, htest⟩
    obtain ⟨s, t, hs, ht, hholds⟩ := holds_comparing op ha hb hx hy
    rw [hholds, hop, compareAsNumbers, Option.bind_some, hs, ht]
    exact htest

lemma greaterThan_iff (ha : IsVariable a) (hb : IsVariable b) (scope : Value) :
    (comparing a .greaterThan b).holds scope = true ↔
      ∃ x y, numberAt? scope a = some x ∧ numberAt? scope b = some y ∧ y.lt x = true :=
  compared_iff ha hb (fun _ _ => rfl) scope

lemma lessThan_iff (ha : IsVariable a) (hb : IsVariable b) (scope : Value) :
    (comparing a .lessThan b).holds scope = true ↔
      ∃ x y, numberAt? scope a = some x ∧ numberAt? scope b = some y ∧ x.lt y = true :=
  compared_iff ha hb (fun _ _ => rfl) scope

lemma greaterThanOrEqual_iff (ha : IsVariable a) (hb : IsVariable b) (scope : Value) :
    (comparing a .greaterThanOrEqual b).holds scope = true ↔
      ∃ x y, numberAt? scope a = some x ∧ numberAt? scope b = some y ∧ y.le x = true :=
  compared_iff ha hb (fun _ _ => rfl) scope

lemma lessThanOrEqual_iff (ha : IsVariable a) (hb : IsVariable b) (scope : Value) :
    (comparing a .lessThanOrEqual b).holds scope = true ↔
      ∃ x y, numberAt? scope a = some x ∧ numberAt? scope b = some y ∧ x.le y = true :=
  compared_iff ha hb (fun _ _ => rfl) scope

lemma equals_of_numbers (ha : IsVariable a) (hb : IsVariable b) (hx : numberAt? scope a = some x)
    (hy : numberAt? scope b = some y) :
    (comparing a .equals b).holds scope = x.sameValue y := by
  obtain ⟨s, t, hs, ht, hholds⟩ := holds_comparing .equals ha hb hx hy
  rw [hholds, Operator.holds, looselyEqual, hs, ht]

/-! ### The laws -/

lemma greaterThan_swap (ha : IsVariable a) (hb : IsVariable b) (scope : Value) :
    (comparing a .greaterThan b).holds scope = (comparing b .lessThan a).holds scope := by
  rw [Bool.eq_iff_iff, greaterThan_iff ha hb, lessThan_iff hb ha]
  constructor
  · rintro ⟨x, y, hx, hy, hlt⟩
    exact ⟨y, x, hy, hx, hlt⟩
  · rintro ⟨y, x, hy, hx, hlt⟩
    exact ⟨x, y, hx, hy, hlt⟩

lemma greaterThanOrEqual_swap (ha : IsVariable a) (hb : IsVariable b) (scope : Value) :
    (comparing a .greaterThanOrEqual b).holds scope =
      (comparing b .lessThanOrEqual a).holds scope := by
  rw [Bool.eq_iff_iff, greaterThanOrEqual_iff ha hb, lessThanOrEqual_iff hb ha]
  constructor
  · rintro ⟨x, y, hx, hy, hle⟩
    exact ⟨y, x, hy, hx, hle⟩
  · rintro ⟨y, x, hy, hx, hle⟩
    exact ⟨x, y, hx, hy, hle⟩

lemma lessThan_weaken (ha : IsVariable a) (hb : IsVariable b)
    (h : (comparing a .lessThan b).holds scope = true) :
    (comparing a .lessThanOrEqual b).holds scope = true := by
  obtain ⟨x, y, hx, hy, hlt⟩ := (lessThan_iff ha hb scope).mp h
  exact (lessThanOrEqual_iff ha hb scope).mpr ⟨x, y, hx, hy, Binary64.le_of_lt hlt⟩

lemma greaterThan_weaken (ha : IsVariable a) (hb : IsVariable b)
    (h : (comparing a .greaterThan b).holds scope = true) :
    (comparing a .greaterThanOrEqual b).holds scope = true := by
  rw [greaterThan_swap ha hb] at h
  rw [greaterThanOrEqual_swap ha hb]
  exact lessThan_weaken hb ha h

lemma not_lessThan_of_greaterThan (ha : IsVariable a) (hb : IsVariable b)
    (h : (comparing a .greaterThan b).holds scope = true) :
    (comparing a .lessThan b).holds scope = false := by
  rw [Bool.eq_false_iff]
  intro hless
  obtain ⟨x, y, hx, hy, hyx⟩ := (greaterThan_iff ha hb scope).mp h
  obtain ⟨x', y', hx', hy', hxy⟩ := (lessThan_iff ha hb scope).mp hless
  cases hx.symm.trans hx'
  cases hy.symm.trans hy'
  rw [Binary64.lt_asymm hyx] at hxy
  cases hxy

lemma equals_of_both (ha : IsVariable a) (hb : IsVariable b)
    (hge : (comparing a .greaterThanOrEqual b).holds scope = true)
    (hle : (comparing a .lessThanOrEqual b).holds scope = true) :
    (comparing a .equals b).holds scope = true := by
  obtain ⟨x, y, hx, hy, hyx⟩ := (greaterThanOrEqual_iff ha hb scope).mp hge
  obtain ⟨x', y', hx', hy', hxy⟩ := (lessThanOrEqual_iff ha hb scope).mp hle
  cases hx.symm.trans hx'
  cases hy.symm.trans hy'
  rw [equals_of_numbers ha hb hx hy]
  exact sameValue_of_le hxy hyx

/-- **The order of two variables**. One is greater than another exactly if both write numbers in
this order, and so for the other operators. Hence each operator is its mirror image with the
variables exchanged, no variable is both greater and less than another, the strict operators imply
the others, and variables that are at least and at most each other are equal. -/
theorem order_laws (ha : IsVariable a) (hb : IsVariable b) (scope : Value) :
    ((comparing a .greaterThan b).holds scope = true ↔
        ∃ x y, numberAt? scope a = some x ∧ numberAt? scope b = some y ∧ y.lt x = true) ∧
      ((comparing a .greaterThanOrEqual b).holds scope = true ↔
        ∃ x y, numberAt? scope a = some x ∧ numberAt? scope b = some y ∧ y.le x = true) ∧
      (comparing a .greaterThan b).holds scope = (comparing b .lessThan a).holds scope ∧
      (comparing a .greaterThanOrEqual b).holds scope =
        (comparing b .lessThanOrEqual a).holds scope ∧
      ¬((comparing a .greaterThan b).holds scope = true ∧
        (comparing a .lessThan b).holds scope = true) ∧
      ((comparing a .greaterThan b).holds scope = true →
        (comparing a .greaterThanOrEqual b).holds scope = true) ∧
      ((comparing a .lessThan b).holds scope = true →
        (comparing a .lessThanOrEqual b).holds scope = true) ∧
      ((comparing a .greaterThanOrEqual b).holds scope = true →
        (comparing a .lessThanOrEqual b).holds scope = true →
        (comparing a .equals b).holds scope = true) := by
  refine ⟨greaterThan_iff ha hb scope, greaterThanOrEqual_iff ha hb scope,
    greaterThan_swap ha hb scope, greaterThanOrEqual_swap ha hb scope, ?_,
    greaterThan_weaken ha hb, lessThan_weaken ha hb, equals_of_both ha hb⟩
  rintro ⟨hgreater, hless⟩
  rw [not_lessThan_of_greaterThan ha hb hgreater] at hless
  cases hless

/-- An integer, texts of numbers in other forms, and a list of one number. -/
def weighed : Value := .object [
  ("n", .int 80), ("t", .text " 8E1 "), ("u", .text "-7_9.5"), ("l", .list [.int 80])]

/-- The integer is greater than one text and the same as another, and in no order with the list. -/
theorem order_laws_weighed :
    (comparing ['u'] .lessThan ['n']).holds weighed = true ∧
      (comparing ['n'] .greaterThanOrEqual ['u']).holds weighed = true ∧
      (comparing ['n'] .equals ['t']).holds weighed = true ∧
      (comparing ['n'] .greaterThanOrEqual ['l']).holds weighed = false := by
  have hn : IsVariable ['n'] := isVariable_char (by decide) (by decide) (by decide)
  have ht : IsVariable ['t'] := isVariable_char (by decide) (by decide) (by decide)
  have hu : IsVariable ['u'] := isVariable_char (by decide) (by decide) (by decide)
  have hl : IsVariable ['l'] := isVariable_char (by decide) (by decide) (by decide)
  obtain ⟨hgreater, -, hswap, -, -, hweaken, -, -⟩ := order_laws hn hu weighed
  obtain ⟨-, hatLeast, -, -, -, -, -, hequal⟩ := order_laws hn ht weighed
  obtain ⟨-, hlist, -, -, -, -, -, -⟩ := order_laws hn hl weighed
  have hover : (comparing ['n'] .greaterThan ['u']).holds weighed = true := hgreater.mpr
    ⟨.ofInt 80, (numberOf? "-79.5").get (by decide +kernel), by decide +kernel, by decide +kernel,
      by decide +kernel⟩
  refine ⟨hswap ▸ hover, hweaken hover, hequal ?_ (by decide +kernel), ?_⟩
  · exact hatLeast.mpr ⟨.ofInt 80, .ofInt 80, by decide +kernel, by decide +kernel,
      by decide +kernel⟩
  · rw [Bool.eq_false_iff]
    intro h
    obtain ⟨x, y, -, hy, -⟩ := hlist.mp h
    have hnone : numberAt? weighed ['l'] = none := by decide +kernel
    rw [hnone] at hy
    cases hy

end Condition

end CrmAutomation

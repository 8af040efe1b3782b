import CrmAutomation.Proofs.Condition.Affix
import CrmAutomation.Proofs.Condition.Number
import CrmAutomation.Proofs.Text.LetterCase

/-!
Conditions on texts in other letter case.

Numbers are read without regard to the case of their letters: those of an exponent and those of the
words for what is infinite or not a number. All else is compared in lower case. So every operator
says the same of texts that differ in the case of ASCII letters only.
-/

namespace CrmAutomation

open Text

namespace Numeric

open Binary64

variable {cs ds : List Char} {c : Char}

/-! ### Decimals -/

/-- What is read of a number in ASCII: digits have one case, marks of an exponent have two, and to
be the digit of a script goes with neither. -/
lemma ascii_numerals : ∀ n < 0x80,
    (isAsciiDigit (Char.ofNat n) = true → lowerAscii (Char.ofNat n) = Char.ofNat n) ∧
    (lowerAscii (Char.ofNat n) == 'e' || lowerAscii (Char.ofNat n) == 'E') =
      (Char.ofNat n == 'e' || Char.ofNat n == 'E') ∧
    asciiDigit (lowerAscii (Char.ofNat n)) = lowerAscii (asciiDigit (Char.ofNat n)) := by
  decide +kernel

lemma lowerAscii_of_digit (h : isAsciiDigit c = true) : lowerAscii c = c :=
  forall_char (P := fun c => isAsciiDigit c = true → lowerAscii c = c)
    (fun n hn => (ascii_numerals n hn).1) (fun _ hd _ => lowerAscii_of_ge hd) c h

lemma letters_of_digits (h : ∀ c ∈ cs, isAsciiDigit c = true) : cs.map lowerAscii = cs := by
  rw [List.map_congr_left fun c hc => lowerAscii_of_digit (h c hc), List.map_id']

lemma takeWhile_digits_letters (cs : List Char) :
    (cs.map lowerAscii).takeWhile isAsciiDigit = cs.takeWhile isAsciiDigit := by
  rw [takeWhile_letters isAsciiDigit_lowerAscii]
  exact letters_of_digits fun c hc => List.mem_takeWhile_imp hc

lemma splitSign_letters (cs : List Char) :
    Decimal.splitSign (cs.map lowerAscii) =
      ((Decimal.splitSign cs).1, (Decimal.splitSign cs).2.map lowerAscii) := by
  have hminus {c : Char} : lowerAscii c = '-' ↔ c = '-' := lowerAscii_eq_iff (by decide)
  have hplus {c : Char} : lowerAscii c = '+' ↔ c = '+' := lowerAscii_eq_iff (by decide)
  cases cs with
  | nil => rfl
  | cons c cs =>
    by_cases h : c = '-' ∨ c = '+'
    · rcases h with rfl | rfl <;> rfl
    · rw [not_or] at h
      have hplain {d : Char} {ds : List Char} (hd : ¬d = '-' ∧ ¬d = '+') :
          Decimal.splitSign (d :: ds) = (false, d :: ds) := by
        unfold Decimal.splitSign
        split
        · rename_i heq
          exact absurd (List.cons.inj heq).1 hd.1
        · rename_i heq
          exact absurd (List.cons.inj heq).1 hd.2
        · rfl
      rw [List.map_cons, hplain h, hplain ⟨mt hminus.mp h.1, mt hplus.mp h.2⟩, List.map_cons]

lemma exponentPart?_letters (cs : List Char) :
    Decimal.exponentPart? (cs.map lowerAscii) = Decimal.exponentPart? cs := by
  cases cs with
  | nil => rfl
  | cons c cs =>
    have hmark : (lowerAscii c == 'e' || lowerAscii c == 'E') = (c == 'e' || c == 'E') :=
      blind (g := fun c => c == 'e' || c == 'E') (fun n hn => (ascii_numerals n hn).2.1) c
    have hall (ds : List Char) : (ds.map lowerAscii).all isAsciiDigit = ds.all isAsciiDigit := by
      rw [List.all_map, Blind.comp isAsciiDigit_lowerAscii]
    rw [List.map_cons, Decimal.exponentPart?, Decimal.exponentPart?, hmark, splitSign_letters]
    rcases Decimal.splitSign cs with ⟨negative, ds⟩
    dsimp only
    rw [List.isEmpty_map, hall]
    by_cases hds : ds.all isAsciiDigit = true
    · rw [letters_of_digits (List.all_eq_true.mp hds)]
    · rw [Bool.not_eq_true] at hds
      rw [hds, Bool.and_false, if_neg Bool.false_ne_true, if_neg Bool.false_ne_true]

lemma ofParts?_plain {negative : Bool} {whole : List Char} (h : cs.head? ≠ some '.') :
    Decimal.ofParts? negative whole cs =
      if whole.isEmpty then none
      else (Decimal.exponentPart? cs).map fun e =>
        ⟨negative, Decimal.natOfDigits whole, e⟩ := by
  rw [Decimal.ofParts?]
  · simp
  · rintro ds rfl
    exact h rfl

lemma ofParts?_letters (negative : Bool) (whole cs : List Char) :
    Decimal.ofParts? negative whole (cs.map lowerAscii) =
      Decimal.ofParts? negative whole cs := by
  have hpoint {c : Char} : lowerAscii c = '.' ↔ c = '.' := lowerAscii_eq_iff (by decide)
  cases cs with
  | nil => rfl
  | cons c cs =>
    by_cases hc : c = '.'
    · subst hc
      rw [List.map_cons, hpoint.mpr rfl, Decimal.ofParts?, Decimal.ofParts?,
        takeWhile_digits_letters, dropWhile_letters isAsciiDigit_lowerAscii, exponentPart?_letters]
    · have hhead : (c :: cs).head? ≠ some '.' := by simpa using hc
      have hhead' : ((c :: cs).map lowerAscii).head? ≠ some '.' := by simpa [hpoint] using hc
      rw [ofParts?_plain hhead, ofParts?_plain hhead', exponentPart?_letters]

lemma decimal_letters (cs : List Char) :
    Decimal.ofChars? (cs.map lowerAscii) = Decimal.ofChars? cs := by
  rw [Decimal.ofChars?, Decimal.ofChars?, splitSign_letters]
  rcases Decimal.splitSign cs with ⟨negative, body⟩
  dsimp only
  rw [takeWhile_digits_letters, dropWhile_letters isAsciiDigit_lowerAscii, ofParts?_letters]

/-! ### Numbers -/

lemma ofChars?_letters (cs : List Char) : ofChars? (cs.map lowerAscii) = ofChars? cs := by
  have hname (body : List Char) : (body.map lowerAscii).map lowerAscii = body.map lowerAscii := by
    rw [List.map_map]
    exact List.map_congr_left fun c _ => lowerAscii_lowerAscii c
  rw [ofChars?, ofChars?, decimal_letters, splitSign_letters]
  dsimp only
  rw [hname]

lemma asciiDigit_lowerAscii (c : Char) :
    asciiDigit (lowerAscii c) = lowerAscii (asciiDigit c) := by
  refine forall_char (P := fun c => asciiDigit (lowerAscii c) = lowerAscii (asciiDigit c))
    (fun n hn => (ascii_numerals n hn).2.2) (fun c hc => ?_) c
  rw [lowerAscii_of_ge hc]
  rcases hn : decimalValue? c with _ | n
  · rw [asciiDigit, hn, lowerAscii_of_ge hc]
  · have hdigit : ∀ n ≤ 9, isAsciiDigit (Char.ofNat (48 + n)) = true := by decide
    rw [asciiDigit, hn, lowerAscii_of_digit (hdigit n (decimalValue?_le hn))]

lemma dropInnerUnderscores?_letters (before : Char) (cs : List Char) :
    dropInnerUnderscores? (lowerAscii before) (cs.map lowerAscii) =
      (dropInnerUnderscores? before cs).map (List.map lowerAscii) := by
  have hunderscore {c : Char} : lowerAscii c = '_' ↔ c = '_' := lowerAscii_eq_iff (by decide)
  induction cs generalizing before with
  | nil => rfl
  | cons c cs ih =>
    by_cases hc : c = '_'
    · subst hc
      have hmark : lowerAscii '_' = '_' := hunderscore.mpr rfl
      have hrest := ih '_'
      rw [hmark] at hrest
      rw [List.map_cons, hmark]
      cases cs with
      | nil => rfl
      | cons d cs =>
        rw [List.map_cons] at hrest ⊢
        rw [dropInnerUnderscores?, dropInnerUnderscores?, isAsciiDigit_lowerAscii,
          isAsciiDigit_lowerAscii, hrest]
        split_ifs <;> rfl
    · rw [List.map_cons, dropInnerUnderscores?_cons hc,
        dropInnerUnderscores?_cons (mt hunderscore.mp hc), ih, Option.map_map, Option.map_map]
      rfl

lemma ofText?_of_sameLetters {s t : String} (h : SameLetters s t) : ofText? s = ofText? t := by
  refine h.eq_of (g := fun cs =>
    (dropInnerUnderscores? ' ' ((trimChars isWhiteSpace cs).map asciiDigit)).bind ofChars?)
    fun cs => ?_
  have hdigits (ds : List Char) :
      (ds.map lowerAscii).map asciiDigit = (ds.map asciiDigit).map lowerAscii := by
    rw [List.map_map, List.map_map]
    exact List.map_congr_left fun c _ => asciiDigit_lowerAscii c
  have hblank : lowerAscii ' ' = ' ' := by decide
  have hdrop := dropInnerUnderscores?_letters ' ' ((trimChars isWhiteSpace cs).map asciiDigit)
  rw [hblank] at hdrop
  rw [trimChars_letters isWhiteSpace_lowerAscii, hdigits, hdrop, Option.bind_map]
  exact congrArg _ (funext ofChars?_letters)

end Numeric

namespace Condition

variable {s s' t t' : String} {op : Operator}

/-! ### Operators -/

/-- **A number is read in either case**. -/
lemma numberOf?_of_sameLetters (h : SameLetters s t) : numberOf? s = numberOf? t := by
  rw [numberOf?, numberOf?, Numeric.ofText?_of_sameLetters h.trim]

lemma looselyEqual_of_sameLetters (hs : SameLetters s s') (ht : SameLetters t t') :
    looselyEqual (some s) t = looselyEqual (some s') t' := by
  rw [looselyEqual, looselyEqual, numberOf?_of_sameLetters hs, numberOf?_of_sameLetters ht,
    hs.lower, ht.lower]

lemma compareAsNumbers_of_sameLetters (test : Numeric.Binary64 → Numeric.Binary64 → Bool)
    (hs : SameLetters s s') (ht : SameLetters t t') :
    compareAsNumbers test (some s) t = compareAsNumbers test (some s') t' := by
  rw [compareAsNumbers, compareAsNumbers, Option.bind_some, Option.bind_some,
    numberOf?_of_sameLetters hs, numberOf?_of_sameLetters ht]

lemma compareLowered_of_sameLetters (test : List Char → List Char → Bool) (hs : SameLetters s s')
    (ht : SameLetters t t') :
    compareLowered test (some s) t = compareLowered test (some s') t' := by
  rw [compareLowered, compareLowered, Option.getD_some, Option.getD_some, hs.lowerFrom,
    ht.lowerFrom]

lemma looksEmpty_of_sameLetters (hs : SameLetters s s') :
    looksEmpty (some s) = looksEmpty (some s') := by
  rw [looksEmpty, looksEmpty, hs.trim.lower]

lemma Operator.holds_of_sameLetters (op : Operator) (hs : SameLetters s s')
    (ht : SameLetters t t') : op.holds (some s) t = op.holds (some s') t' := by
  cases op with
  | equals | notEquals =>
    rw [Operator.holds, Operator.holds, looselyEqual_of_sameLetters hs ht]
  | greaterThan | lessThan | greaterThanOrEqual | lessThanOrEqual =>
    rw [Operator.holds, Operator.holds, compareAsNumbers_of_sameLetters _ hs ht]
  | contains | notContains | startsWith | endsWith =>
    rw [Operator.holds, Operator.holds, compareLowered_of_sameLetters _ hs ht]
  | isEmpty | isNotEmpty =>
    rw [Operator.holds, Operator.holds, looksEmpty_of_sameLetters hs]

/-! ### Conditions -/

lemma not_opened_of_sameLetters (h : SameLetters s s') (hopen : ¬Template.Opened s.toList) :
    ¬Template.Opened s'.toList := by
  have hbrace {c : Char} : Numeric.Binary64.lowerAscii c = '\x7b' ↔ c = '\x7b' :=
    lowerAscii_eq_iff (by decide)
  rintro ⟨before, after, heq⟩
  rw [SameLetters, ← heq, List.map_append, List.map_append, List.map_eq_append_iff] at h
  obtain ⟨front, after', hs, hfront, -⟩ := h
  obtain ⟨before', braces, hfront', -, hbraces⟩ := List.map_eq_append_iff.mp hfront
  obtain ⟨c, rest, hcons, hc, hrest⟩ := List.map_eq_cons_iff.mp hbraces
  obtain ⟨d, hsingle, hd⟩ := List.map_eq_singleton_iff.mp hrest
  rw [hbrace.mp hc, hsingle, hbrace.mp hd] at hcons
  exact hopen ⟨before', after', by rw [hs, hfront', hcons]⟩

/-- A condition on the variable `x`, by an operator of any name. -/
def onText (operator value : String) : Condition where
  field := .text "x"
  operator := .text operator
  value := .text value

/-- The variable `x` and its text. -/
def holding (s : String) : Value := .object [("x", .text s)]

lemma evaluate_onText (hs : ¬Template.Opened s.toList) (ht : ¬Template.Opened t.toList)
    (name : String) :
    (onText name t).evaluate (holding s) =
      match operator? (.text name) with
      | some op => .decided (op.holds (some s) t)
      | none => .unknownOperator := by
  have hx : IsVariable ['x'] := isVariable_char (by decide) (by decide) (by decide)
  have hlookup : (holding s).lookupChars ['x'] = .ok (.text s) := rfl
  have hshown : shown? ['x'] (.text s) = some s :=
    shown?_of_not_opened (by simp [IsHollow]) (by simp) hs
  have hactual : actual? (holding s) (.text "x") = .ok (shown? ['x'] (.text s)) :=
    actual?_variable hx hlookup rfl
  have htarget : target (holding s) (.text t) = .ok t := target_of_not_opened (by simp) rfl ht
  rw [hshown] at hactual
  rcases hop : operator? (.text name) with _ | op
  · simp only [evaluate, onText, hactual, htarget, hop]
  · simp only [evaluate, onText, hactual, htarget, hop]

/-- **Letter case makes no difference**: whatever the operator, texts that differ in the case of
ASCII letters only are in the same relation to texts that do, as long as there are no tokens. -/
theorem evaluate_of_sameLetters (hs : SameLetters s s') (ht : SameLetters t t')
    (hopen : ¬Template.Opened s.toList) (hopen' : ¬Template.Opened t.toList) (name : String) :
    (onText name t).evaluate (holding s) = (onText name t').evaluate (holding s') ∧
      (onText name t).holds (holding s) = (onText name t').holds (holding s') := by
  have heval : (onText name t).evaluate (holding s) = (onText name t').evaluate (holding s') := by
    rw [evaluate_onText hopen hopen', evaluate_onText (not_opened_of_sameLetters hs hopen)
      (not_opened_of_sameLetters ht hopen')]
    rcases operator? (.text name) with _ | op
    · rfl
    · dsimp only
      rw [Operator.holds_of_sameLetters op hs ht]
  exact ⟨heval, congrArg Verdict.holds heval⟩

/-- An exponent, the word for what is infinite, and a word with a letter after a capital sigma. -/
theorem evaluate_of_sameLetters_mixed :
    (onText "less_than" "Infinity").holds (holding "1E2") = true ∧
      (onText "less_than" "iNFINITY").holds (holding "1e2") = true ∧
      (onText "starts_with" "ος").holds (holding "ΟΣa") =
        (onText "starts_with" "ος").holds (holding "ΟΣA") := by
  have hnumber : SameLetters "1E2" "1e2" := by decide +kernel
  have hword : SameLetters "Infinity" "iNFINITY" := by decide +kernel
  have hmixed : SameLetters "ΟΣa" "ΟΣA" := by decide +kernel
  have hsame : SameLetters "ος" "ος" := rfl
  obtain ⟨-, hless⟩ := evaluate_of_sameLetters hnumber hword (by decide +kernel)
    (by decide +kernel) "less_than"
  obtain ⟨-, hstarts⟩ := evaluate_of_sameLetters hmixed hsame (by decide +kernel)
    (by decide +kernel) "starts_with"
  have hfirst : (onText "less_than" "Infinity").holds (holding "1E2") = true := by decide +kernel
  exact ⟨hfirst, hless ▸ hfirst, hstarts⟩

end Condition

end CrmAutomation

import CrmAutomation.Proofs.Condition.Number
import CrmAutomation.Proofs.Condition.Variable
import CrmAutomation.Proofs.Numeric.Digits
import CrmAutomation.Proofs.Numeric.Rounding

/-!
Integers in conditions.

An integer is written in decimal and read back as the double nearest to it. So the operators that
compare numbers compare these doubles: they take different integers for the same if they have the
same nearest double, and are exact otherwise. An integer of too many digits is not written, and no
operator holds of it.
-/

namespace CrmAutomation

open Numeric Text

variable {cs ds : List Char} {m n : ℤ}

namespace Numeric

/-! ### Reading digits -/

lemma splitSign_digits (h : Digits cs) : Decimal.splitSign cs = (false, cs) := by
  unfold Decimal.splitSign
  split
  · exact absurd (h '-' List.mem_cons_self) (by decide)
  · exact absurd (h '+' List.mem_cons_self) (by decide)
  · rfl

lemma splitSign_intText (n : ℤ) :
    Decimal.splitSign (intText n).toList = (decide (n < 0), natDigits n.natAbs) := by
  rw [intText, String.toList_ofList]
  split_ifs with h
  · rw [decide_eq_true h, Decimal.splitSign]
  · rw [decide_eq_false h, splitSign_digits (digits_natDigits _)]

lemma decimal_of_digits {negative : Bool} (hsplit : Decimal.splitSign cs = (negative, ds))
    (hds : Digits ds) (hne : ds ≠ []) :
    Decimal.ofChars? cs = some ⟨negative, Decimal.natOfDigits ds, 0⟩ := by
  have hempty : ds.isEmpty = false := by simpa using hne
  rw [Decimal.ofChars?, hsplit]
  dsimp only
  rw [List.takeWhile_eq_self_iff.mpr hds, List.dropWhile_eq_nil_iff.mpr hds]
  unfold Decimal.ofParts?
  dsimp only
  rw [hempty, List.append_nil]
  rfl

lemma ofChars?_of_digits {negative : Bool} (hsplit : Decimal.splitSign cs = (negative, ds))
    (hds : Digits ds) (hne : ds ≠ []) :
    Binary64.ofChars? cs =
      some (Decimal.toBinary64 ⟨negative, Decimal.natOfDigits ds, 0⟩) := by
  have hlower : ds.map Binary64.lowerAscii = ds := by
    rw [List.map_congr_left fun c hc => (plain_of_digit (hds c hc)).2.2.2.1, List.map_id']
  have hname {name : String} (hmark : ∃ c ∈ name.toList, c = 'i' ∨ c = 'n') :
      (String.ofList ds == name) = false := by
    rw [beq_eq_false_iff_ne]
    rintro rfl
    obtain ⟨c, hc, hin⟩ := hmark
    rw [String.toList_ofList] at hc
    have hplain := (plain_of_digit (hds c hc)).2.2.2.2
    rcases hin with rfl | rfl <;> simp at hplain
  rw [Binary64.ofChars?, hsplit]
  dsimp only
  rw [hlower, hname ⟨'i', by decide, .inl rfl⟩, hname ⟨'i', by decide, .inl rfl⟩,
    hname ⟨'n', by decide, .inr rfl⟩, decimal_of_digits hsplit hds hne]
  rfl

/-! ### Integers -/

lemma ofInt_of_long {e : ℕ} (he : Binary64.limit ≤ 10 ^ e * Binary64.unit)
    (h : 10 ^ e ≤ n.natAbs) : Binary64.ofInt n = .infinite (n < 0) := by
  have hlong : Binary64.limit ≤ n.natAbs * Binary64.unit :=
    he.trans (Nat.mul_le_mul_right _ h)
  rcases Binary64.ofInt_cases n with ⟨hshort, -⟩ | ⟨-, hn⟩
  · have hreach := Binary64.limit_le_rounded hlong
    omega
  · exact hn

lemma toBinary64_integer (n : ℤ) :
    Decimal.toBinary64 ⟨n < 0, n.natAbs, 0⟩ = Binary64.ofInt n := by
  unfold Decimal.toBinary64
  dsimp only
  split_ifs with hzero hlong hshort hexponent
  · rw [Int.natAbs_eq_zero.mp hzero]
    decide +kernel
  · have hdigits : 10 ^ 400 ≤ n.natAbs := by
      have hlength : ¬(Nat.toDigits 10 n.natAbs).length ≤ 400 := by
        rw [Decimal.reach] at hlong
        omega
      rw [Nat.length_toDigits_le_iff (by decide) (by decide)] at hlength
      omega
    rw [ofInt_of_long (by decide +kernel) hdigits]
  · rw [Decimal.reach] at hshort
    omega
  · have hpow : n.natAbs * Nat.pow 10 (Int.toNat 0) = n.natAbs := Nat.mul_one _
    rw [hpow, Binary64.ofInt]
  · exact absurd (Int.le_refl 0) hexponent

end Numeric

namespace Condition

open Binary64

/-- **An integer is read back as the nearest double**. -/
lemma numberOf?_intText (n : ℤ) : numberOf? (intText n) = some (ofInt n) := by
  have hblank : trimChars isBlank (intText n).toList = (intText n).toList :=
    trimChars_eq_self fun c hc => (plain_of_mem_intText hc).1
  have hwhite : trimChars isWhiteSpace (intText n).toList = (intText n).toList :=
    trimChars_eq_self fun c hc => (plain_of_mem_intText hc).2.1
  have hdigits : (intText n).toList.map asciiDigit = (intText n).toList :=
    asciiDigits_eq_self fun c hc => (plain_of_mem_intText hc).2.2.1
  have hunderscore : '_' ∉ (intText n).toList := fun hc =>
    (plain_of_mem_intText hc).2.2.2.1 rfl
  rw [numberOf?, trim, hblank, String.ofList_toList, ofText?, hwhite, hdigits,
    dropInnerUnderscores?_of_notMem hunderscore, Option.bind_some,
    ofChars?_of_digits (splitSign_intText n) (digits_natDigits _) Nat.toDigits_ne_nil,
    natOfDigits_natDigits, toBinary64_integer]

/-! ### The order of the nearest doubles -/

/-- Different integers with the same nearest double. -/
def Conflated (m n : ℤ) : Prop := m ≠ n ∧ ofInt m = ofInt n

instance (m n : ℤ) : Decidable (Conflated m n) := inferInstanceAs (Decidable (_ ∧ _))

lemma Conflated.symm (h : Conflated m n) : Conflated n m := ⟨h.1.symm, h.2.symm⟩

lemma not_conflated_of_le (hm : m.natAbs ≤ 2 ^ 53) (hn : n.natAbs ≤ 2 ^ 53) : ¬Conflated m n :=
  fun h => h.1 (eq_of_ofInt_eq hm hn h.2)

lemma extent_eq_iff : (ofInt m).extent = (ofInt n).extent ↔ m = n ∨ Conflated m n := by
  rw [← ofInt_eq_iff]
  constructor
  · intro h
    by_cases hmn : m = n
    · exact .inl hmn
    · exact .inr ⟨hmn, h⟩
  · rintro (rfl | h)
    · rfl
    · exact h.2

lemma extent_lt_iff : (ofInt m).extent < (ofInt n).extent ↔ m < n ∧ ¬Conflated m n := by
  constructor
  · intro h
    refine ⟨?_, fun hsame => ?_⟩
    · by_contra hle
      have hmono := extent_mono (Int.not_lt.mp hle)
      omega
    · have heq := congrArg extent hsame.2
      omega
  · rintro ⟨hlt, hapart⟩
    have hmono := extent_mono (Int.le_of_lt hlt)
    have hne : (ofInt m).extent ≠ (ofInt n).extent := fun heq => by
      rcases extent_eq_iff.mp heq with rfl | hsame
      · exact Int.lt_irrefl _ hlt
      · exact hapart hsame
    omega

lemma sameValue_ofInt : (ofInt m).sameValue (ofInt n) = true ↔ m = n ∨ Conflated m n := by
  rw [sameValue_iff (inRange_ofInt m) (inRange_ofInt n), extent_eq_iff]

lemma lt_ofInt : (ofInt m).lt (ofInt n) = true ↔ m < n ∧ ¬Conflated m n := by
  rw [lt_iff (inRange_ofInt m) (inRange_ofInt n), extent_lt_iff]

lemma le_ofInt : (ofInt m).le (ofInt n) = true ↔ m ≤ n ∨ Conflated m n := by
  rw [le_iff (inRange_ofInt m) (inRange_ofInt n), Int.le_iff_lt_or_eq, extent_lt_iff,
    extent_eq_iff, Int.le_iff_lt_or_eq]
  by_cases h : Conflated m n
  · simp [h]
  · simp [h]

/-! ### Conditions -/

namespace Operator

/-- The operators that compare two numbers as numbers. -/
def numeric : List Operator :=
  [equals, notEquals, greaterThan, lessThan, greaterThanOrEqual, lessThanOrEqual]

/-- What an operator on numbers says of two integers. -/
def Relates : Operator → ℤ → ℤ → Prop
  | equals, m, n => m = n
  | notEquals, m, n => m ≠ n
  | greaterThan, m, n => n < m
  | lessThan, m, n => m < n
  | greaterThanOrEqual, m, n => n ≤ m
  | lessThanOrEqual, m, n => m ≤ n
  | _, _, _ => False

end Operator

variable {op : Operator} {scope : Value} {a : List Char}

lemma looselyEqual_intText (m n : ℤ) :
    looselyEqual (some (intText m)) (intText n) = (ofInt m).sameValue (ofInt n) := by
  rw [looselyEqual, numberOf?_intText, numberOf?_intText]

lemma compareAsNumbers_intText (test : Binary64 → Binary64 → Bool) (m n : ℤ) :
    compareAsNumbers test (some (intText m)) (intText n) = test (ofInt m) (ofInt n) := by
  rw [compareAsNumbers, Option.bind_some, numberOf?_intText, numberOf?_intText]

lemma holds_of_not_conflated (hop : op ∈ Operator.numeric) (h : ¬Conflated m n) :
    op.holds (some (intText m)) (intText n) = true ↔ op.Relates m n := by
  have hswap : ¬Conflated n m := fun hsame => h hsame.symm
  cases op <;> simp only [Operator.numeric, List.mem_cons, List.not_mem_nil, reduceCtorEq,
    or_false, or_true, or_self] at hop <;> unfold Operator.holds Operator.Relates <;> dsimp only
  · rw [looselyEqual_intText, sameValue_ofInt, or_iff_left h]
  · rw [looselyEqual_intText, Bool.not_eq_true', ← Bool.not_eq_true, sameValue_ofInt,
      or_iff_left h]
  · rw [compareAsNumbers_intText, lt_ofInt, and_iff_left hswap]
  · rw [compareAsNumbers_intText, lt_ofInt, and_iff_left h]
  · rw [compareAsNumbers_intText, le_ofInt, or_iff_left hswap]
  · rw [compareAsNumbers_intText, le_ofInt, or_iff_left h]

lemma holds_congr {k : ℤ} (hop : op ∈ Operator.numeric) (h : ofInt n = ofInt k) :
    op.holds (some (intText m)) (intText n) = op.holds (some (intText m)) (intText k) := by
  cases op <;> simp only [Operator.numeric, List.mem_cons, List.not_mem_nil, reduceCtorEq,
    or_false, or_true, or_self] at hop <;> unfold Operator.holds <;> dsimp only
  iterate 2 rw [looselyEqual_intText, looselyEqual_intText, h]
  iterate 4 rw [compareAsNumbers_intText, compareAsNumbers_intText, h]

lemma holds_integer (ha : IsVariable a) (hm : scope.lookupChars a = .ok (.int m))
    (hmtext : hasText m = true) (hntext : hasText n = true) :
    (onVariable a op (.int n)).holds scope = op.holds (some (intText m)) (intText n) := by
  have hclosed (k : ℤ) : ¬Template.Opened (intText k).toList := fun hopen =>
    (plain_of_mem_intText (hopen.subset List.mem_cons_self)).2.2.2.2 rfl
  have htarget : target scope (.int n) = .ok (intText n) :=
    target_of_not_opened (by simp) hntext (hclosed n)
  have hshown : shown? a (.int m) = some (intText m) :=
    shown?_of_not_opened (by simp [IsHollow]) (by simp) (hclosed m)
  rw [holds_onVariable ha hm hmtext htarget, hshown]

/-- Both integers have no more digits than are written. -/
def Written (m n : ℤ) : Prop := m.natAbs < 10 ^ digitLimit ∧ n.natAbs < 10 ^ digitLimit

lemma written_iff : Written m n ↔ hasText m = true ∧ hasText n = true :=
  and_congr hasText_iff.symm hasText_iff.symm

lemma written_of_le (hm : m.natAbs ≤ 2 ^ 53) (hn : n.natAbs ≤ 2 ^ 53) : Written m n := by
  have hreach : 2 ^ 53 < 10 ^ digitLimit :=
    calc 2 ^ 53 < 10 ^ 16 := by decide
      _ ≤ 10 ^ digitLimit := Nat.pow_le_pow_right (by decide) (by decide)
  exact ⟨hm.trans_lt hreach, hn.trans_lt hreach⟩

lemma not_holds_of_not_written (ha : IsVariable a) (hm : scope.lookupChars a = .ok (.int m))
    (h : ¬Written m n) (op : Operator) : (onVariable a op (.int n)).holds scope = false := by
  rw [written_iff, not_and_or, Bool.not_eq_true, Bool.not_eq_true] at h
  rcases h with hmtext | hntext
  · exact not_holds_of_textless ha hm hmtext
  · exact not_holds_beside_textless hntext

lemma exists_relates (m n : ℤ) : ∃ op ∈ Operator.numeric, op.Relates m n := by
  by_cases hmn : m = n
  · exact ⟨.equals, by decide, hmn⟩
  · exact ⟨.notEquals, by decide, hmn⟩

lemma holds_of_conflated (hop : op ∈ Operator.numeric) (h : Conflated m n) :
    op.holds (some (intText m)) (intText n) = true ↔ op.Relates m m := by
  rw [holds_congr hop h.2.symm]
  exact holds_of_not_conflated hop fun hself => hself.1 rfl

/-- **Integers are compared exactly** by all the operators on numbers, unless one of them has too
many digits to be written, or they are different and have the same nearest double. In the first case
no operator holds, in the second each operator takes them for equal. Integers of a magnitude up to
`2 ^ 53` are compared exactly. -/
theorem integers_compared (ha : IsVariable a) (hm : scope.lookupChars a = .ok (.int m)) (n : ℤ) :
    ((∀ op ∈ Operator.numeric,
        ((onVariable a op (.int n)).holds scope = true ↔ op.Relates m n)) ↔
        Written m n ∧ ¬Conflated m n) ∧
      (Written m n → Conflated m n → ∀ op ∈ Operator.numeric,
        ((onVariable a op (.int n)).holds scope = true ↔ op.Relates m m)) ∧
      (¬Written m n → ∀ op ∈ Operator.numeric, (onVariable a op (.int n)).holds scope = false) ∧
      (m.natAbs ≤ 2 ^ 53 → n.natAbs ≤ 2 ^ 53 → Written m n ∧ ¬Conflated m n) := by
  have hnever (h : ¬Written m n) (op : Operator) := not_holds_of_not_written ha hm h op
  have hholds (h : Written m n) (op : Operator) :
      (onVariable a op (.int n)).holds scope = op.holds (some (intText m)) (intText n) :=
    holds_integer ha hm (written_iff.mp h).1 (written_iff.mp h).2
  refine ⟨⟨fun hall => ?_, fun ⟨hw, hapart⟩ op hop => ?_⟩, fun hw hsame op hop => ?_,
    fun hw op _ => hnever hw op, fun hm hn => ⟨written_of_le hm hn, not_conflated_of_le hm hn⟩⟩
  · have hw : Written m n := by
      by_contra hw
      obtain ⟨op, hop, hrelates⟩ := exists_relates m n
      have hholds := (hall op hop).mpr hrelates
      rw [hnever hw op] at hholds
      cases hholds
    -- conflated integers are equal by the operator, and are not
    have hop : Operator.equals ∈ Operator.numeric := List.mem_cons_self
    refine ⟨hw, fun hsame => hsame.1 ((hall _ hop).mp ?_)⟩
    rw [hholds hw, holds_of_conflated hop hsame]
    rfl
  · rw [hholds hw]
    exact holds_of_not_conflated hop hapart
  · rw [hholds hw]
    exact holds_of_conflated hop hsame

/-- The least natural number that is no double. -/
def numbered : Value := .object [("x", .int 9007199254740993)]

/-- The number is taken for its neighbour below, and told apart from the number below that. -/
theorem integers_compared_numbered :
    (onVariable ['x'] .equals (.int 9007199254740992)).holds numbered = true ∧
      (onVariable ['x'] .greaterThan (.int 9007199254740991)).holds numbered = true := by
  have hx : IsVariable ['x'] := isVariable_char (by decide) (by decide) (by decide)
  have hm : numbered.lookupChars ['x'] = .ok (.int 9007199254740993) := by decide +kernel
  obtain ⟨-, hequal, -, -⟩ := integers_compared hx hm 9007199254740992
  obtain ⟨hexact, -, -, -⟩ := integers_compared hx hm 9007199254740991
  have hless : Operator.greaterThan.Relates 9007199254740993 9007199254740991 := by
    rw [Operator.Relates]
    decide
  have hwritten : Written 9007199254740993 9007199254740992 := written_iff.mpr (by decide)
  have hwritten' : Written 9007199254740993 9007199254740991 := written_iff.mpr (by decide)
  exact ⟨(hequal hwritten (by decide +kernel) .equals (by decide)).mpr rfl,
    (hexact.mpr ⟨hwritten', by decide +kernel⟩ .greaterThan (by decide)).mpr hless⟩

end Condition

end CrmAutomation

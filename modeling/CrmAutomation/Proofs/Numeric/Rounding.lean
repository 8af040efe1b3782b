import CrmAutomation.Proofs.Numeric.Order
import Mathlib.Algebra.Group.Nat.Defs

/-!
Integers as doubles.

Rounding keeps the order of magnitudes, so the doubles nearest to two integers are never in the
opposite order: they are in the order of the integers, or the same. Two integers of a magnitude up
to `2 ^ 53` never have the same.
-/

namespace CrmAutomation.Numeric.Binary64

variable {a b d k u v : ℕ} {m n : ℤ} {x : Binary64}

/-! ### Quotients -/

lemma roundQuotient_cases (a d : ℕ) :
    (roundQuotient a d = a / d ∧ 2 * (a % d) ≤ d) ∨
      (roundQuotient a d = a / d + 1 ∧ d ≤ 2 * (a % d)) := by
  unfold roundQuotient
  dsimp only
  split_ifs with hless htie
  · exact .inl ⟨rfl, hless.le⟩
  · rcases Nat.mod_two_eq_zero_or_one (a / d) with heven | hodd
    · exact .inl ⟨by rw [heven, Nat.add_zero], htie.le⟩
    · exact .inr ⟨by rw [hodd], htie.ge⟩
  · exact .inr ⟨rfl, Nat.le_of_not_lt hless⟩

lemma roundQuotient_of_dvd (hd : 0 < d) (h : d ∣ a) : roundQuotient a d = a / d := by
  rcases roundQuotient_cases a d with ⟨hdown, -⟩ | ⟨-, hhalf⟩
  · exact hdown
  · rw [Nat.mod_eq_zero_of_dvd h] at hhalf
    omega

lemma roundQuotient_mono (h : a ≤ b) : roundQuotient a d ≤ roundQuotient b d := by
  have hquotient : a / d ≤ b / d := Nat.div_le_div_right h
  rcases hquotient.lt_or_eq with hless | hsame
  · -- another multiple of the divisor lies between
    have ha : roundQuotient a d ≤ a / d + 1 := by
      rcases roundQuotient_cases a d with ⟨ha, -⟩ | ⟨ha, -⟩ <;> omega
    have hb : b / d ≤ roundQuotient b d := by
      rcases roundQuotient_cases b d with ⟨hb, -⟩ | ⟨hb, -⟩ <;> omega
    omega
  · have hrest : a % d ≤ b % d := by
      have hsplita := Nat.div_add_mod a d
      have hsplitb := Nat.div_add_mod b d
      rw [hsame] at hsplita
      omega
    unfold roundQuotient
    dsimp only
    rw [hsame]
    split_ifs <;> omega

lemma step_le (q : ℕ) : step q ≤ q + 1 := by
  rcases Nat.eq_zero_or_pos q with rfl | hq
  · decide
  · calc 2 ^ (q.log2 - 52) ≤ 2 ^ q.log2 := Nat.pow_le_pow_right Nat.two_pos (Nat.sub_le _ _)
      _ ≤ q := Nat.log2_self_le hq.ne'
      _ ≤ q + 1 := Nat.le_succ q

lemma roundUnits_le (a d : ℕ) : roundUnits a d ≤ 2 * (a / d) + 1 := by
  have hstep := step_le (a / d)
  have hround : roundQuotient a (d * step (a / d)) ≤ a / d / step (a / d) + 1 := by
    rw [Nat.div_div_eq_div_mul]
    rcases roundQuotient_cases a (d * step (a / d)) with ⟨h, -⟩ | ⟨h, -⟩ <;> omega
  calc roundQuotient a (d * step (a / d)) * step (a / d)
      ≤ (a / d / step (a / d) + 1) * step (a / d) := Nat.mul_le_mul_right _ hround
    _ = a / d / step (a / d) * step (a / d) + step (a / d) := by
      rw [Nat.add_mul, Nat.one_mul]
    _ ≤ a / d + step (a / d) := Nat.add_le_add_right (Nat.div_mul_le_self _ _) _
    _ ≤ 2 * (a / d) + 1 := by omega

/-! ### Counts of units -/

/-- A count of units rounded to one of at most 53 significant bits. -/
def rounded (u : ℕ) : ℕ := roundUnits u 1

lemma step_eq (u : ℕ) : step u = 2 ^ (u.log2 - 52) := rfl

lemma step_pos (u : ℕ) : 0 < step u := Nat.two_pow_pos _

lemma rounded_eq (u : ℕ) : rounded u = roundQuotient u (step u) * step u := by
  rw [rounded, roundUnits, Nat.div_one, Nat.one_mul]

lemma rounded_of_dvd (h : step u ∣ u) : rounded u = u := by
  rw [rounded_eq, roundQuotient_of_dvd (step_pos u) h, Nat.div_mul_cancel h]

lemma rounded_of_short (h : 2 ^ k ∣ u) (hu : u < 2 ^ (k + 53)) : rounded u = u := by
  rcases Nat.eq_zero_or_pos u with rfl | hpos
  · rfl
  have hlog : u.log2 < k + 53 := (Nat.log2_lt hpos.ne').mpr hu
  have hstep : step u ∣ 2 ^ k := Nat.pow_dvd_pow 2 (by omega)
  exact rounded_of_dvd (Nat.dvd_trans hstep h)

lemma rounded_bounds (hu : 0 < u) : 2 ^ u.log2 ≤ rounded u ∧ rounded u ≤ 2 ^ (u.log2 + 1) := by
  have hlow : step u ∣ 2 ^ u.log2 := Nat.pow_dvd_pow 2 (Nat.sub_le _ _)
  have hhigh : step u ∣ 2 ^ (u.log2 + 1) := Nat.pow_dvd_pow 2 (by omega)
  have hround (k : ℕ) (h : step u ∣ 2 ^ k) : roundQuotient (2 ^ k) (step u) * step u = 2 ^ k := by
    rw [roundQuotient_of_dvd (step_pos u) h, Nat.div_mul_cancel h]
  rw [rounded_eq]
  constructor
  · calc 2 ^ u.log2 = roundQuotient (2 ^ u.log2) (step u) * step u := (hround _ hlow).symm
      _ ≤ roundQuotient u (step u) * step u :=
        Nat.mul_le_mul_right _ (roundQuotient_mono (Nat.log2_self_le hu.ne'))
  · calc roundQuotient u (step u) * step u
        ≤ roundQuotient (2 ^ (u.log2 + 1)) (step u) * step u :=
        Nat.mul_le_mul_right _ (roundQuotient_mono Nat.lt_log2_self.le)
      _ = 2 ^ (u.log2 + 1) := hround _ hhigh

lemma rounded_pos (hu : 0 < u) : 0 < rounded u :=
  (Nat.two_pow_pos _).trans_le (rounded_bounds hu).1

/-- **Rounding keeps the order**. -/
lemma rounded_mono (h : u ≤ v) : rounded u ≤ rounded v := by
  rcases Nat.eq_zero_or_pos u with rfl | hu
  · exact Nat.zero_le _
  have hlog : u.log2 ≤ v.log2 :=
    (Nat.le_log2 (hu.trans_le h).ne').mpr ((Nat.log2_self_le hu.ne').trans h)
  rcases hlog.lt_or_eq with hless | hsame
  · -- a power of two lies between
    calc rounded u ≤ 2 ^ (u.log2 + 1) := (rounded_bounds hu).2
      _ ≤ 2 ^ v.log2 := Nat.pow_le_pow_right Nat.two_pos hless
      _ ≤ rounded v := (rounded_bounds (hu.trans_le h)).1
  · have hstep : step u = step v := by rw [step_eq, step_eq, hsame]
    rw [rounded_eq, rounded_eq, hstep]
    exact Nat.mul_le_mul_right _ (roundQuotient_mono h)

/-! ### Integers -/

/-- The limit is `2 ^ 1024`, in units. -/
lemma exists_exponent : ∃ p, unit = 2 ^ p ∧ limit = 2 ^ (1024 + p) :=
  ⟨1074, by decide +kernel, by decide +kernel⟩

lemma unit_pos : 0 < unit := by decide +kernel

/-- The count of units of the double nearest to a natural number, up to the limit. -/
def nearest (k : ℕ) : ℕ := min (rounded (k * unit)) limit

lemma nearest_pos (hk : 0 < k) : 0 < nearest k :=
  Nat.lt_min.mpr ⟨rounded_pos (Nat.mul_pos hk unit_pos), limit_pos⟩

lemma nearest_mono (h : u ≤ v) : nearest u ≤ nearest v := by
  have hmono : rounded (u * unit) ≤ rounded (v * unit) := rounded_mono (Nat.mul_le_mul_right _ h)
  unfold nearest
  omega

lemma nearest_of_le (hk : k ≤ 2 ^ 53) : nearest k = k * unit := by
  obtain ⟨p, hunit, hlimit⟩ := exists_exponent
  have hexact : rounded (k * unit) = k * unit := by
    rw [hunit]
    rcases hk.lt_or_eq with hless | rfl
    · refine rounded_of_short (k := p) (Nat.dvd_mul_left _ _) ?_
      rw [Nat.pow_add, Nat.mul_comm]
      exact Nat.mul_lt_mul_of_pos_left hless (Nat.two_pow_pos _)
    · rw [← Nat.pow_add]
      exact rounded_of_short (Nat.dvd_refl _) (Nat.pow_lt_pow_right Nat.one_lt_two (by omega))
  have hsmall : k * unit ≤ limit := by
    calc k * unit ≤ 2 ^ 53 * unit := Nat.mul_le_mul_right _ hk
      _ ≤ limit := by
        rw [hunit, hlimit, ← Nat.pow_add]
        exact Nat.pow_le_pow_right Nat.two_pos (by omega)
  rw [nearest, hexact, Nat.min_eq_left hsmall]

lemma limit_le_rounded (h : limit ≤ u) : limit ≤ rounded u := by
  obtain ⟨p, -, hlimit⟩ := exists_exponent
  have hexact : rounded limit = limit := by
    rw [hlimit]
    exact rounded_of_short (Nat.dvd_refl _) (Nat.pow_lt_pow_right Nat.one_lt_two (by omega))
  calc limit = rounded limit := hexact.symm
    _ ≤ rounded u := rounded_mono h

lemma ofInt_cases (n : ℤ) :
    (rounded (n.natAbs * unit) < limit ∧
        ofInt n = .finite (n < 0) (rounded (n.natAbs * unit))) ∨
      (limit ≤ rounded (n.natAbs * unit) ∧ ofInt n = .infinite (n < 0)) := by
  unfold ofInt ofRatio ofUnits rounded
  dsimp only
  by_cases h : roundUnits (n.natAbs * unit) 1 < limit
  · exact .inl ⟨h, if_pos h⟩
  · exact .inr ⟨Nat.le_of_not_lt h, if_neg h⟩

/-- The least natural number to which no finite double is nearest: half a step below `2 ^ 1024`. -/
def hugeFrom : ℕ := 2 ^ 1024 - 2 ^ 970

lemma isFinite_ofInt_iff : (ofInt n).isFinite = true ↔ n.natAbs < hugeFrom := by
  have hlast : rounded ((hugeFrom - 1) * unit) < limit := by decide +kernel
  have hfirst : limit ≤ rounded (hugeFrom * unit) := by decide +kernel
  have hpos : 0 < hugeFrom := by decide +kernel
  have hmono (i j : ℕ) (h : i ≤ j) : rounded (i * unit) ≤ rounded (j * unit) :=
    rounded_mono (Nat.mul_le_mul_right _ h)
  rcases ofInt_cases n with ⟨h, hn⟩ | ⟨h, hn⟩
  · rw [hn]
    refine iff_of_true rfl ?_
    by_contra hge
    have hle := hmono hugeFrom n.natAbs (Nat.le_of_not_lt hge)
    omega
  · rw [hn]
    refine iff_of_false (by simp [isFinite]) fun hlt => ?_
    have hle := hmono n.natAbs (hugeFrom - 1) (by omega)
    omega

lemma inRange_ofInt (n : ℤ) : (ofInt n).InRange := by
  rcases ofInt_cases n with ⟨h, hn⟩ | ⟨-, hn⟩
  · rw [hn]
    exact .finite _ h
  · rw [hn]
    exact .infinite _

lemma extent_ofInt (n : ℤ) : (ofInt n).extent = signedUnits (n < 0) (nearest n.natAbs) := by
  rcases ofInt_cases n with ⟨h, hn⟩ | ⟨h, hn⟩
  · rw [hn, extent, nearest, Nat.min_eq_left h.le]
  · rw [hn, extent, nearest, Nat.min_eq_right h]

lemma extent_cases (n : ℤ) :
    (n < 0 ∧ (ofInt n).extent = -(nearest n.natAbs : ℤ) ∧ 0 < nearest n.natAbs) ∨
      (0 ≤ n ∧ (ofInt n).extent = nearest n.natAbs) := by
  rw [extent_ofInt]
  rcases Int.lt_or_le n 0 with h | h
  · have hpos : 0 < n.natAbs := Int.natAbs_pos.mpr (Int.ne_of_lt h)
    exact .inl ⟨h, by rw [decide_eq_true h, signedUnits, if_pos rfl], nearest_pos hpos⟩
  · refine .inr ⟨h, ?_⟩
    rw [decide_eq_false (Int.not_lt.mpr h), signedUnits, if_neg Bool.false_ne_true]

lemma isFinite_ofQuotient (h : n.natAbs ≤ 2 ^ 53 * d) : (ofQuotient n d).isFinite = true := by
  have hquotient : n.natAbs * unit / d ≤ 2 ^ 53 * unit := by
    refine Nat.div_le_of_le_mul ?_
    calc n.natAbs * unit ≤ 2 ^ 53 * d * unit := Nat.mul_le_mul_right _ h
      _ = d * (2 ^ 53 * unit) := by rw [Nat.mul_comm (2 ^ 53) d, Nat.mul_assoc]
  have hlimit : 2 * (2 ^ 53 * unit) + 1 < limit := by decide +kernel
  have hbelow : roundUnits (n.natAbs * unit) d < limit := by
    have hround := roundUnits_le (n.natAbs * unit) d
    omega
  rw [ofQuotient, ofRatio, ofUnits, if_pos hbelow]
  rfl

/-- **The doubles nearest to integers are in the order of the integers**, or the same. -/
lemma extent_mono (h : m ≤ n) : (ofInt m).extent ≤ (ofInt n).extent := by
  rcases extent_cases m with ⟨hm, hem, -⟩ | ⟨hm, hem⟩
  · rcases extent_cases n with ⟨hn, hen, -⟩ | ⟨hn, hen⟩
    · have hmono : nearest n.natAbs ≤ nearest m.natAbs := nearest_mono (by omega)
      omega
    · omega
  · rcases extent_cases n with ⟨hn, -, -⟩ | ⟨hn, hen⟩
    · omega
    · have hmono : nearest m.natAbs ≤ nearest n.natAbs := nearest_mono (by omega)
      omega

lemma ofInt_eq_iff : ofInt m = ofInt n ↔ (ofInt m).extent = (ofInt n).extent := by
  refine ⟨congrArg extent, fun h => ?_⟩
  have hsame : (m < 0 ↔ n < 0) ∧ nearest m.natAbs = nearest n.natAbs := by
    rcases extent_cases m with ⟨hm, hem, hpm⟩ | ⟨hm, hem⟩ <;>
      rcases extent_cases n with ⟨hn, hen, hpn⟩ | ⟨hn, hen⟩ <;> omega
  have hsign : decide (m < 0) = decide (n < 0) := decide_eq_decide.mpr hsame.1
  have hnearest := hsame.2
  unfold nearest at hnearest
  rcases ofInt_cases m with ⟨hm, hm'⟩ | ⟨hm, hm'⟩
  · rcases ofInt_cases n with ⟨hn, hn'⟩ | ⟨hn, hn'⟩
    · have hunits : rounded (m.natAbs * unit) = rounded (n.natAbs * unit) := by omega
      rw [hm', hn', hsign, hunits]
    · omega
  · rcases ofInt_cases n with ⟨hn, hn'⟩ | ⟨hn, hn'⟩
    · omega
    · rw [hm', hn', hsign]

lemma eq_of_ofInt_eq (hm : m.natAbs ≤ 2 ^ 53) (hn : n.natAbs ≤ 2 ^ 53) (h : ofInt m = ofInt n) :
    m = n := by
  have hunits (k : ℤ) (hk : k.natAbs ≤ 2 ^ 53) : (ofInt k).extent = k * unit := by
    rw [extent_ofInt, nearest_of_le hk, signedUnits_mul, signedUnits_natAbs]
  rw [ofInt_eq_iff, hunits m hm, hunits n hn] at h
  exact (Int.mul_eq_mul_right_iff (Int.natCast_ne_zero.mpr unit_pos.ne')).mp h

/-! ### Products -/

lemma zero_le_finite_iff {b : Bool} : zero.le (.finite b u) = true ↔ b = false ∨ u = 0 := by
  have hcompare : compare? zero (.finite b u) = some (compare 0 (signedUnits b u)) := rfl
  have hle : zero.le (.finite b u) = true ↔ 0 ≤ signedUnits b u := by
    rw [le, hcompare, Bool.or_eq_true, beq_iff_eq, beq_iff_eq, Option.some.injEq,
      Option.some.injEq, Int.compare_eq_lt, Int.compare_eq_eq, Int.le_iff_lt_or_eq]
  rw [hle, signedUnits]
  cases b with
  | false => simp
  | true => simp

lemma signedUnits_nonneg {b : Bool} (h : b = false ∨ u = 0) : 0 ≤ signedUnits b u := by
  rcases h with rfl | rfl
  · exact Int.natCast_nonneg u
  · cases b <;> exact Int.le_refl 0

lemma truncate_eq_ok : x.truncate = .ok n ↔ x.truncate? = some n := by
  cases x <;> simp [truncate, toIntegerBy, truncate?]

lemma truncate?_mul_nonneg (hx : zero.le x = true)
    (h : (x.mul (.ofInt k)).truncate? = some n) : 0 ≤ n := by
  have hnan : zero.le x = true → ∀ p, x ≠ .nan p := by
    rintro hle p rfl
    cases hle
  rcases ofInt_cases k with ⟨-, hk⟩ | ⟨-, hk⟩
  · rw [hk, decide_eq_false (by omega : ¬(k : ℤ) < 0)] at h
    cases x with
    | nan p => exact absurd rfl (hnan hx p)
    | infinite b =>
      rw [mul] at h
      split_ifs at h <;> cases h
    | finite b u =>
      rw [mul, ofUnits] at h
      split_ifs at h
      · cases h
        rw [Bool.bne_false]
        refine signedUnits_nonneg ((zero_le_finite_iff.mp hx).imp_right ?_)
        rintro rfl
        rw [Nat.zero_mul]
        decide +kernel
      · cases h
  · rw [hk] at h
    cases x with
    | nan p => exact absurd rfl (hnan hx p)
    | infinite b => cases h
    | finite b u =>
      rw [mul] at h
      split_ifs at h <;> cases h

end CrmAutomation.Numeric.Binary64

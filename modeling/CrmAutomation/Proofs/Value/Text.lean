import CrmAutomation.Proofs.Numeric.Digits
import CrmAutomation.Proofs.Value.Fields
import CrmAutomation.Value.Reading
import CrmAutomation.Value.Text

/-!
Which values have a text.

A value has a text if none of the integers in it has too many digits, be it an item, the value of a
field or a key. JSON reads no integer of more digits, so that all that it reads has a text: a value
without one is given to the program, or made by it, and never read.
-/

namespace CrmAutomation

open Numeric Text

namespace Value

/-- The integer stands in the value. -/
inductive Occurs (n : ℤ) : Value → Prop
  | here : Occurs n (.int n)
  | item {xs : List Value} {x : Value} : x ∈ xs → Occurs n x → Occurs n (.list xs)
  | field {fs : Fields} {k : Key} {x : Value} : (k, x) ∈ fs → Occurs n x → Occurs n (.object fs)
  | key {fs : Fields} {x : Value} : (.int n, x) ∈ fs → Occurs n (.object fs)

variable {v : Value} {xs : List Value} {fs : Fields} {n : ℤ}

/-! ### The integers of a value -/

lemma haveText_iff : haveText xs = true ↔ ∀ x ∈ xs, x.hasText = true := by
  induction xs with
  | nil => simp [haveText]
  | cons x xs ih => simp [haveText, ih]

lemma fieldsHaveText_iff :
    fieldsHaveText fs = true ↔ ∀ p ∈ fs, p.1.hasText = true ∧ p.2.hasText = true := by
  induction fs with
  | nil => simp [fieldsHaveText]
  | cons p fs ih => simp [fieldsHaveText, ih]

lemma hasText_list_iff : (list xs).hasText = true ↔ ∀ x ∈ xs, x.hasText = true := haveText_iff

lemma hasText_object_iff :
    (object fs).hasText = true ↔ ∀ p ∈ fs, p.1.hasText = true ∧ p.2.hasText = true :=
  fieldsHaveText_iff

lemma hasText_of_occurs (h : Occurs n v) (hv : v.hasText = true) : Numeric.hasText n = true := by
  induction h with
  | here => exact hv
  | item hx _ ih => exact ih (hasText_list_iff.mp hv _ hx)
  | field hx _ ih => exact ih (hasText_object_iff.mp hv _ hx).2
  | key hx => exact (hasText_object_iff.mp hv _ hx).1

lemma mem_of_key {p : Key × Value} (hk : p.1 = .int n) (hp : p ∈ fs) : (.int n, p.2) ∈ fs :=
  hk ▸ hp

lemma hasText_of_key {k : Key} (h : ∀ n, k = .int n → Numeric.hasText n = true) :
    k.hasText = true := by
  cases k with
  | int n => exact h n rfl
  | _ => rfl

mutual

theorem hasText_of_forall :
    ∀ v : Value, (∀ n, Occurs n v → Numeric.hasText n = true) → v.hasText = true
  | .int n, h => h n .here
  | .list xs, h => hasText_list_iff.mpr
      (hasText_of_items xs fun _ hx n hn => h n (.item hx hn))
  | .object fs, h => hasText_object_iff.mpr fun p hp =>
      ⟨hasText_of_key fun n hn => h n (.key (mem_of_key hn hp)),
        hasText_of_fields fs (fun _ hp n hn => h n (.field hp hn)) p hp⟩
  | .null, _ | .bool _, _ | .float _, _ | .text _, _ => rfl

theorem hasText_of_items : ∀ xs : List Value,
    (∀ x ∈ xs, ∀ n, Occurs n x → Numeric.hasText n = true) → ∀ x ∈ xs, x.hasText = true
  | [], _ => by simp
  | x :: xs, h => by
    rw [List.forall_mem_cons] at h ⊢
    exact ⟨hasText_of_forall x h.1, hasText_of_items xs h.2⟩

theorem hasText_of_fields : ∀ fs : Fields,
    (∀ p ∈ fs, ∀ n, Occurs n p.2 → Numeric.hasText n = true) → ∀ p ∈ fs, p.2.hasText = true
  | [], _ => by simp
  | (k, x) :: fs, h => by
    rw [List.forall_mem_cons] at h ⊢
    exact ⟨hasText_of_forall x h.1, hasText_of_fields fs h.2⟩

end

/-- **Which values have a text**: those in which all integers are within the limit. -/
theorem hasText_iff : v.hasText = true ↔ ∀ n, Occurs n v → n.natAbs < 10 ^ digitLimit := by
  simp only [← Numeric.hasText_iff]
  exact ⟨fun hv n hn => hasText_of_occurs hn hv, hasText_of_forall v⟩

end Value

/-! ### What JSON reads -/

namespace Json

variable {cs : List Char} {v : Value} {stack : List Frame} {m m' : Machine} {t : Token}
  {ts : List Token} {st st' : Scan × Machine}

/-- What a container under construction holds has a text. -/
def Frame.HasText : Frame → Prop
  | .list items => ∀ x ∈ items, x.hasText = true
  | .object fields _ => ∀ p ∈ fields, p.1.hasText = true ∧ p.2.hasText = true

/-- All that the machine has read has a text. -/
structure Machine.HasText (m : Machine) : Prop where
  stack : ∀ f ∈ m.stack, f.HasText
  result : ∀ v, m.expect = .nothing v → v.hasText = true

/-! ### Numbers -/

lemma natOfDigits_lt (hdigits : Digits cs) : Decimal.natOfDigits cs < 10 ^ cs.length := by
  suffices h : ∀ n, cs.foldl (fun n c => n * 10 + (c.toNat - 48)) n < (n + 1) * 10 ^ cs.length by
    have hzero := h 0
    rwa [Nat.zero_add, Nat.one_mul] at hzero
  induction cs with
  | nil => simp
  | cons c cs ih =>
    intro n
    obtain ⟨hc, hcs⟩ := List.forall_mem_cons.mp hdigits
    obtain ⟨k, hk, rfl⟩ := exists_of_digit hc
    have hvalue : (Char.ofNat (48 + k)).toNat - 48 ≤ 9 := by
      clear hc hdigits
      revert k
      decide
    rw [List.foldl_cons, List.length_cons, Nat.pow_succ', ← Nat.mul_assoc]
    exact Nat.lt_of_lt_of_le (ih hcs _) (Nat.mul_le_mul_right _ (by omega))

lemma hasText_of_digits {n : ℤ} (hdigits : Digits cs) (h : ¬digitLimit < cs.length)
    (hn : n.natAbs = Decimal.natOfDigits cs) : Numeric.hasText n = true := by
  rw [Numeric.hasText_iff, hn]
  exact Nat.lt_of_lt_of_le (natOfDigits_lt hdigits)
    (Nat.pow_le_pow_right (by decide) (Nat.not_lt.mp h))

lemma hasText_of_word (h : wordValue? cs = some v) : v.hasText = true := by
  unfold wordValue? at h
  dsimp only at h
  split_ifs at h with h₁ h₂ h₃ h₄ h₅ h₆ hnumber hdigits hlong hnegative
  iterate 6
    cases h
    rfl
  · cases h
    exact hasText_of_digits (List.all_eq_true.mp hdigits) hlong (by simp)
  · cases h
    exact hasText_of_digits (List.all_eq_true.mp hdigits) hlong (by simp)
  · obtain ⟨d, -, rfl⟩ := Option.map_eq_some_iff.mp h
    rfl

/-! ### The machine -/

lemma hasText_deliver (hstack : ∀ f ∈ stack, f.HasText) (hv : v.hasText = true) :
    (Machine.deliver stack v).HasText := by
  rcases stack with _ | ⟨items | ⟨fields, key⟩, rest⟩
  · exact ⟨by simp [Machine.deliver], fun w hw => by cases hw; exact hv⟩
  · obtain ⟨hitems, hrest⟩ := List.forall_mem_cons.mp hstack
    refine ⟨List.forall_mem_cons.mpr ⟨?_, hrest⟩, fun w hw => by cases hw⟩
    exact List.forall_mem_cons.mpr ⟨hv, hitems⟩
  · obtain ⟨hfields, hrest⟩ := List.forall_mem_cons.mp hstack
    refine ⟨List.forall_mem_cons.mpr ⟨fun p hp => ?_, hrest⟩, fun w hw => by cases hw⟩
    rcases Fields.mem_insert hp with rfl | hp
    · exact ⟨rfl, hv⟩
    · exact hfields p hp

lemma hasText_goesOn {expect : Expect} (hstack : ∀ f ∈ stack, f.HasText)
    (hexpect : ∀ v, expect ≠ .nothing v) : Machine.HasText ⟨stack, expect⟩ :=
  ⟨hstack, fun v hv => absurd hv (hexpect v)⟩

lemma hasText_open {f : Frame} {expect : Expect} (hm : m.HasText) (hf : f.HasText)
    (hexpect : ∀ v, expect ≠ .nothing v) : Machine.HasText ⟨f :: m.stack, expect⟩ :=
  hasText_goesOn (List.forall_mem_cons.mpr ⟨hf, hm.stack⟩) hexpect

lemma Machine.HasText.top {f : Frame} {rest : List Frame} (hm : m.HasText)
    (hstack : m.stack = f :: rest) : f.HasText ∧ ∀ g ∈ rest, g.HasText := by
  have hall := hm.stack
  rwa [hstack, List.forall_mem_cons] at hall

/-- The name of the next key is no value yet. -/
lemma hasText_named {fields : Fields} {key s : String} {rest : List Frame} (hm : m.HasText)
    (hstack : m.stack = .object fields key :: rest) :
    Machine.HasText ⟨.object fields s :: rest, .colon⟩ := by
  obtain ⟨hfields, hrest⟩ := hm.top hstack
  exact hasText_goesOn (List.forall_mem_cons.mpr ⟨hfields, hrest⟩) (by simp)

/-- **A token keeps the machine to values with a text.** -/
lemma hasText_step (hm : m.HasText) (h : m.step t = some m') : m'.HasText := by
  have htail : ∀ f ∈ m.stack.tail, f.HasText := fun f hf => hm.stack f (List.mem_of_mem_tail hf)
  unfold Machine.step at h
  split at h
  -- a single datum
  iterate 2
    obtain ⟨v, hv, rfl⟩ := Option.map_eq_some_iff.mp h
    exact hasText_deliver hm.stack (hasText_of_word hv)
  iterate 2
    cases h
    exact hasText_deliver hm.stack rfl
  -- a container begins
  iterate 2
    cases h
    exact hasText_open hm (f := .list []) (by simp [Frame.HasText]) (by simp)
  iterate 2
    cases h
    exact hasText_open hm (f := .object [] "") (by simp [Frame.HasText]) (by simp)
  -- an empty one ends
  iterate 2
    cases h
    exact hasText_deliver htail rfl
  -- inside a container
  iterate 2
    split at h
    · rename_i hstack
      cases h
      exact hasText_named hm hstack
    · cases h
  · cases h
    exact hasText_goesOn hm.stack (by simp)
  · split at h
    · cases h
      exact hasText_goesOn hm.stack (by simp)
    · cases h
      exact hasText_goesOn hm.stack (by simp)
    · cases h
  -- it ends
  · split at h
    · rename_i items rest hstack
      cases h
      obtain ⟨hitems, hrest⟩ := hm.top hstack
      refine hasText_deliver hrest (Value.hasText_list_iff.mpr fun x hx => ?_)
      exact hitems x (List.mem_reverse.mp hx)
    · cases h
  · split at h
    · rename_i fields _ rest hstack
      cases h
      obtain ⟨hfields, hrest⟩ := hm.top hstack
      exact hasText_deliver hrest (Value.hasText_object_iff.mpr hfields)
    · cases h
  · cases h

lemma hasText_steps (hm : m.HasText) (h : ts.foldlM Machine.step m = some m') : m'.HasText := by
  induction ts generalizing m with
  | nil =>
    cases h
    exact hm
  | cons t ts ih =>
    obtain ⟨k, hk, hrest⟩ := Option.bind_eq_some_iff.mp ((List.foldlM_cons ..).symm.trans h)
    exact ih (hasText_step hm hk) hrest

lemma hasText_feed {c : Char} (hm : st.2.HasText) (h : feed st c = some st') :
    st'.2.HasText := by
  unfold feed at h
  split at h
  · cases h
  · obtain ⟨k, hk, rfl⟩ := Option.map_eq_some_iff.mp h
    exact hasText_steps hm hk

lemma hasText_fed (hm : st.2.HasText) (h : cs.foldlM feed st = some st') : st'.2.HasText := by
  induction cs generalizing st with
  | nil =>
    cases h
    exact hm
  | cons c cs ih =>
    obtain ⟨k, hk, hrest⟩ := Option.bind_eq_some_iff.mp ((List.foldlM_cons ..).symm.trans h)
    exact ih (hasText_feed hm hk) hrest

lemma hasText_finish (hm : st.2.HasText) (h : finish st = some m) : m.HasText := by
  unfold finish at h
  split at h
  · cases h
    exact hm
  · exact hasText_step hm h
  · cases h

/-- **All that JSON reads has a text.** -/
theorem hasText_of_parse {s : String} (h : parse? s = some v) : v.hasText = true := by
  have hstart : Machine.HasText ⟨[], .value⟩ := hasText_goesOn (by simp) (by simp)
  unfold parse? at h
  split at h
  · rename_i result hread
    cases h
    obtain ⟨st, hst, hend⟩ := Option.bind_eq_some_iff.mp hread
    have hfed : st.2.HasText := hasText_fed (by exact hstart) hst
    exact (hasText_finish hfed hend).result _ rfl
  · cases h

end Json

end CrmAutomation

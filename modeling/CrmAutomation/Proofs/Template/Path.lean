import CrmAutomation.Template.Path
import Mathlib.Data.List.TakeWhile
import Mathlib.Tactic.Common

/-!
Where dotted paths lead.

A path leads into a value step by step: by a key that is there into an object, by a position that is
there into a list. The program goes further in two ways. Where a step leads nowhere, it goes on with
null. Where a part consists of digits that write no position, and the value is a list, it fails: it
takes a character for a digit whether or not it has a place value.
-/

namespace CrmAutomation

open Text

namespace Text

lemma decimalNumber?_isSome (cs : List Char) :
    (decimalNumber? cs).isSome = true ↔ ∀ c ∈ cs, (decimalValue? c).isSome = true := by
  suffices h : ∀ n : ℕ, (cs.foldlM (fun n c => (decimalValue? c).map (n * 10 + ·)) n).isSome = true ↔
      ∀ c ∈ cs, (decimalValue? c).isSome = true from h 0
  induction cs with
  | nil => simp
  | cons c cs ih =>
    intro n
    rw [List.foldlM_cons, List.forall_mem_cons]
    rcases decimalValue? c with _ | k
    · simp
    · simp [ih]

end Text

namespace Path

/-- The part writes a position of a list. -/
structure Writes (part : List Char) (i : ℕ) : Prop where
  digits : isPosition part = true
  short : part.length ≤ digitLimit
  number : decimalNumber? part = some i

/-- The part consists of digits that write no position: one of them has no place value, or they are
too many. -/
structure Unwritable (part : List Char) : Prop where
  digits : isPosition part = true
  unread : (∃ c ∈ part, decimalValue? c = none) ∨ digitLimit < part.length

/-- One step from a value to one inside it. -/
inductive Enters : Value → List Char → Value → Prop
  | key {fs : Fields} {part : List Char} {v : Value} :
      fs.find? (.text (String.ofList part)) = some v → Enters (.object fs) part v
  | item {xs : List Value} {part : List Char} {i : ℕ} {v : Value} :
      Writes part i → xs[i]? = some v → Enters (.list xs) part v

/-- The parts lead from a value to one inside it. -/
inductive Leads : Value → List (List Char) → Value → Prop
  | here {v : Value} : Leads v [] v
  | enter {v w x : Value} {part : List Char} {parts : List (List Char)} :
      Enters v part w → Leads w parts x → Leads v (part :: parts) x

/-- The parts lead to a list, and the next part is of digits that write no position. -/
inductive Derails : Value → List (List Char) → Prop
  | here {xs : List Value} {part : List Char} {parts : List (List Char)} :
      Unwritable part → Derails (.list xs) (part :: parts)
  | enter {v w : Value} {part : List Char} {parts : List (List Char)} :
      Enters v part w → Derails w parts → Derails v (part :: parts)

/-- The parts lead to no value but null. -/
def Nowhere (v : Value) (parts : List (List Char)) : Prop := ∀ w, Leads v parts w → w = .null

variable {v w x : Value} {part : List Char} {parts : List (List Char)} {i : ℕ} {xs : List Value}
  {fault : PathFault}

/-! ### Positions -/

lemma position_of_decimal (h : ∀ c ∈ part, (decimalValue? c).isSome = true) :
    position part =
      if digitLimit < part.length then .error (.tooLong part.length)
      else .ok ((decimalNumber? part).getD 0) := by
  obtain ⟨i, hi⟩ := Option.isSome_iff_exists.mp ((decimalNumber?_isSome part).mpr h)
  have hall : part.takeWhile (fun c => (decimalValue? c).isSome) = part :=
    List.takeWhile_eq_self_iff.mpr h
  unfold position
  simp only [hall, hi, Option.getD_some]

lemma position_of_writes (h : Writes part i) : position part = .ok i := by
  have hall := (decimalNumber?_isSome part).mp (by rw [h.number]; rfl)
  rw [position_of_decimal hall, if_neg (Nat.not_lt.mpr h.short), h.number, Option.getD_some]

lemma position_of_unwritable (h : Unwritable part) : ∃ fault, position part = .error fault := by
  by_cases hall : ∀ c ∈ part, (decimalValue? c).isSome = true
  · rcases h.unread with ⟨c, hc, hno⟩ | hlong
    · have hsome := hall c hc
      rw [hno] at hsome
      cases hsome
    · exact ⟨_, by rw [position_of_decimal hall, if_pos hlong]⟩
  · have hno : decimalNumber? part = none := by
      rw [← decimalNumber?_isSome] at hall
      simpa using hall
    unfold position
    rw [hno]
    dsimp only
    split
    · exact ⟨_, rfl⟩
    · exact ⟨_, rfl⟩

/-- Digits write a position, or they do not. -/
lemma writes_or_unwritable (h : isPosition part = true) :
    (∃ i, Writes part i) ∨ Unwritable part := by
  by_cases hall : ∀ c ∈ part, (decimalValue? c).isSome = true
  · obtain ⟨i, hi⟩ := Option.isSome_iff_exists.mp ((decimalNumber?_isSome part).mpr hall)
    rcases Nat.lt_or_ge digitLimit part.length with hlong | hshort
    · exact Or.inr ⟨h, Or.inr hlong⟩
    · exact Or.inl ⟨i, h, hshort, hi⟩
  · simp only [not_forall, Option.not_isSome_iff_eq_none] at hall
    obtain ⟨c, hc, hno⟩ := hall
    exact Or.inr ⟨h, Or.inl ⟨c, hc, hno⟩⟩

/-! ### Steps -/

lemma step_of_enters (h : Enters v part w) : step v part = .ok w := by
  cases h with
  | key hfind =>
    unfold step Fields.get
    dsimp only
    rw [hfind, Option.getD_some]
  | item hw hx =>
    unfold step
    dsimp only
    rw [if_pos hw.digits, position_of_writes hw, Except.map, List.getD_eq_getElem?_getD, hx]
    rfl

lemma step_of_unwritable (h : Unwritable part) (xs : List Value) :
    ∃ fault, step (.list xs) part = .error fault := by
  obtain ⟨fault, hf⟩ := position_of_unwritable h
  refine ⟨fault, ?_⟩
  unfold step
  dsimp only
  rw [if_pos h.digits, hf]
  rfl

lemma step_cases (v : Value) (part : List Char) :
    (∃ w, Enters v part w) ∨ step v part = .ok .null ∨ ∃ xs, v = .list xs ∧ Unwritable part := by
  cases v with
  | object fs =>
    rcases hfind : Fields.find? fs (.text (String.ofList part)) with _ | w
    · refine Or.inr (Or.inl ?_)
      unfold step Fields.get
      dsimp only
      rw [hfind, Option.getD_none]
    · exact Or.inl ⟨w, .key hfind⟩
  | list xs =>
    by_cases hp : isPosition part = true
    · rcases writes_or_unwritable hp with ⟨i, hw⟩ | hu
      · rcases hx : xs[i]? with _ | w
        · refine Or.inr (Or.inl ?_)
          unfold step
          dsimp only
          rw [if_pos hp, position_of_writes hw, Except.map, List.getD_eq_getElem?_getD, hx]
          rfl
        · exact Or.inl ⟨w, .item hw hx⟩
      · exact Or.inr (Or.inr ⟨xs, rfl, hu⟩)
    · refine Or.inr (Or.inl ?_)
      unfold step
      dsimp only
      rw [if_neg hp]
  | _ => exact Or.inr (Or.inl rfl)

/-! ### Paths -/

lemma follow_cons_of_ok (h : step v part = .ok w) (parts : List (List Char)) :
    follow v (part :: parts) = follow w parts := by
  rw [follow_cons, h]
  rfl

lemma follow_cons_of_error (h : step v part = .error fault) (parts : List (List Char)) :
    follow v (part :: parts) = .error fault := by
  rw [follow_cons, h]
  rfl

lemma follow_null (parts : List (List Char)) : follow .null parts = .ok .null := by
  induction parts with
  | nil => rfl
  | cons part parts ih => rw [follow_cons_of_ok (w := .null) rfl, ih]

lemma follow_of_leads (h : Leads v parts w) : follow v parts = .ok w := by
  induction h with
  | here => rfl
  | enter he _ ih => rw [follow_cons_of_ok (step_of_enters he), ih]

lemma follow_of_derails (h : Derails v parts) : ∃ fault, follow v parts = .error fault := by
  induction h with
  | @here xs _ _ hu =>
    obtain ⟨fault, hf⟩ := step_of_unwritable hu xs
    exact ⟨fault, follow_cons_of_error hf _⟩
  | enter he _ ih =>
    obtain ⟨fault, hf⟩ := ih
    exact ⟨fault, by rw [follow_cons_of_ok (step_of_enters he), hf]⟩

lemma follow_cases (v : Value) (parts : List (List Char)) :
    (∃ w, Leads v parts w) ∨ follow v parts = .ok .null ∨ Derails v parts := by
  induction parts generalizing v with
  | nil => exact Or.inl ⟨v, .here⟩
  | cons part parts ih =>
    rcases step_cases v part with ⟨w, he⟩ | hnull | ⟨xs, rfl, hu⟩
    · rcases ih w with ⟨x, hl⟩ | hnull | hd
      · exact Or.inl ⟨x, .enter he hl⟩
      · exact Or.inr (Or.inl (by rw [follow_cons_of_ok (step_of_enters he), hnull]))
      · exact Or.inr (Or.inr (.enter he hd))
    · exact Or.inr (Or.inl (by rw [follow_cons_of_ok hnull, follow_null]))
    · exact Or.inr (Or.inr (.here hu))

lemma follow_error_iff : (∃ fault, follow v parts = .error fault) ↔ Derails v parts := by
  refine ⟨fun ⟨fault, hf⟩ => ?_, follow_of_derails⟩
  rcases follow_cases v parts with ⟨w, hl⟩ | hnull | hd
  · rw [follow_of_leads hl] at hf
    cases hf
  · rw [hnull] at hf
    cases hf
  · exact hd

lemma not_derails_of_ok (h : follow v parts = .ok w) : ¬Derails v parts := by
  intro hd
  obtain ⟨fault, hf⟩ := follow_of_derails hd
  rw [h] at hf
  cases hf

/-- **The value at a path** is the one that the path leads to, or null if it leads nowhere. -/
lemma follow_ok_iff :
    follow v parts = .ok w ↔
      ¬Derails v parts ∧ (Leads v parts w ∨ (w = .null ∧ Nowhere v parts)) := by
  constructor
  · intro hf
    have hunique : ∀ x, Leads v parts x → x = w := fun x hl => by
      have hx := (follow_of_leads hl).symm.trans hf
      cases hx
      rfl
    refine ⟨not_derails_of_ok hf, ?_⟩
    rcases follow_cases v parts with ⟨x, hl⟩ | hnull | hd
    · exact Or.inl (hunique x hl ▸ hl)
    · rw [hnull] at hf
      cases hf
      exact Or.inr ⟨rfl, hunique⟩
    · exact absurd hd (not_derails_of_ok hf)
  · rintro ⟨hd, hl | ⟨rfl, hno⟩⟩
    · exact follow_of_leads hl
    · rcases follow_cases v parts with ⟨x, hl⟩ | hnull | hd'
      · rw [follow_of_leads hl, hno x hl]
      · exact hnull
      · exact absurd hd' hd

lemma follow_eq_iff_leads (hw : w ≠ .null) : follow v parts = .ok w ↔ Leads v parts w := by
  constructor
  · intro h
    exact (follow_ok_iff.mp h).2.resolve_right fun hnull => hw hnull.1
  · exact follow_of_leads

end Path

end CrmAutomation

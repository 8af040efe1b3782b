import CrmAutomation.Proofs.Store.Overwrite

/-!
Stores that fail only as stores do.

Operations use up the failures that are planned, but they plan no others. If no failure of the
program around a store is planned, an operation that is refused has met a fault of the store; to
know that of the updates of a table, it is enough to know it of the failures that fit them.
-/

namespace CrmAutomation

open Record Calendar

namespace Store

/-- A property that a planned failure keeps when it strikes or lets an operation pass. -/
structure PlannedFault.Lasting (P : PlannedFault → Prop) : Prop where
  skipped : ∀ p, P p → P p.skipped
  struck : ∀ p, P p → P p.struck

/-- Every failure that is planned has the property. -/
def Plans (P : PlannedFault → Prop) (s : Store) : Prop := ∀ p ∈ s.planned, P p

/-- Every failure that is planned is one of the store itself. -/
def Orderly (s : Store) : Prop := ∀ p ∈ s.planned, p.isProgramError = false

/-- A failure that is planned for updates of the table is one of the store itself. -/
def Steady (table : String) (s : Store) : Prop :=
  ∀ p ∈ s.planned, p.fits .update table = true → p.isProgramError = false

lemma lasting_orderly : PlannedFault.Lasting fun p => p.isProgramError = false :=
  ⟨fun _ h => h, fun _ h => h⟩

lemma lasting_steady (table : String) : PlannedFault.Lasting fun p =>
    p.fits .update table = true → p.isProgramError = false :=
  ⟨fun _ h => h, fun _ h => h⟩

lemma Orderly.steady {s : Store} (h : s.Orderly) (table : String) : s.Steady table :=
  fun p hp _ => h p hp

lemma strike_cons (op : Operation) (table : String) (p : PlannedFault) (ps : List PlannedFault) :
    (p.fits op table = true ∧ PlannedFault.strike op table (p :: ps) = (p.struck :: ps, some p)) ∨
      ∃ q, (q = p ∨ q = p.skipped) ∧
        PlannedFault.strike op table (p :: ps) =
          (q :: (PlannedFault.strike op table ps).1, (PlannedFault.strike op table ps).2) := by
  simp only [PlannedFault.strike]
  split_ifs with hf hs ht
  · exact Or.inr ⟨p, Or.inl rfl, rfl⟩
  · exact Or.inr ⟨p.skipped, Or.inr rfl, rfl⟩
  · exact Or.inr ⟨p, Or.inl rfl, rfl⟩
  · exact Or.inl ⟨by simpa using hf, rfl⟩

variable {P : PlannedFault → Prop} {op : Operation} {s s' : Store} {t : Instant} {table : String}
  {row : Row} {fields : Fields} {fs : List Filter} {r : Refusal}

lemma plans_strike (hP : PlannedFault.Lasting P) {ps : List PlannedFault} (h : ∀ p ∈ ps, P p) :
    (∀ p ∈ (PlannedFault.strike op table ps).1, P p) ∧
      ∀ p, (PlannedFault.strike op table ps).2 = some p → P p ∧ p.fits op table = true := by
  induction ps with
  | nil => simp [PlannedFault.strike]
  | cons p ps ih =>
    rw [List.forall_mem_cons] at h
    obtain ⟨ih₁, ih₂⟩ := ih h.2
    rcases strike_cons op table p ps with ⟨hf, hs⟩ | ⟨q, hq, hs⟩
    · rw [hs]
      refine ⟨List.forall_mem_cons.mpr ⟨hP.struck p h.1, h.2⟩, fun r hr => ?_⟩
      cases hr
      exact ⟨h.1, hf⟩
    · rw [hs]
      refine ⟨List.forall_mem_cons.mpr ⟨?_, ih₁⟩, ih₂⟩
      rcases hq with rfl | rfl
      · exact h.1
      · exact hP.skipped p h.1

lemma plans_guarded {α : Type} {act : Store → Outcome α} (hP : PlannedFault.Lasting P)
    (h : s.Plans P) (ha : ∀ s, (act s).2.planned = s.planned) :
    (s.guarded op table act).2.Plans P := by
  have hs : (s.afterPlans op table).Plans P := (plans_strike hP h).1
  rcases guarded_cases s op table act with hg | ⟨p, -, hg⟩
  · rw [hg]
    intro q hq
    rw [ha] at hq
    exact hs q hq
  · rw [hg]
    exact hs

lemma plans_insert (hP : PlannedFault.Lasting P) (h : s.Plans P) :
    (s.insert t table row).2.Plans P := by
  refine plans_guarded hP h fun s => ?_
  dsimp only
  split
  iterate 3 rfl
  split <;> rfl

lemma plans_update (hP : PlannedFault.Lasting P) (h : s.Plans P) :
    (s.update table fields fs).2.Plans P := by
  refine plans_guarded hP h fun s => ?_
  split <;> rfl

lemma plans_select (hP : PlannedFault.Lasting P) (h : s.Plans P) (q : Tables.Query) :
    (s.select table q).2.Plans P := by
  refine plans_guarded hP h fun s => ?_
  split <;> rfl

lemma fault_of_update_error (hs : s.Steady table) (h : s.update table fields fs = (.error r, s')) :
    ∃ f, r = .fault f := by
  unfold update at h
  rcases guarded_cases s .update table _ with hg | ⟨p, hp, hg⟩
  · rw [hg] at h
    split at h <;> simp only [Prod.mk.injEq, reduceCtorEq, false_and, Except.error.injEq] at h
    all_goals exact ⟨_, h.1.symm⟩
  · obtain ⟨hsteady, hfits⟩ := (plans_strike (lasting_steady table) hs).2 p hp
    rw [hg, hsteady hfits] at h
    simp only [Bool.false_eq_true, if_false, Prod.mk.injEq, Except.error.injEq] at h
    exact ⟨_, h.1.symm⟩

lemma fault_of_select_error {q : Tables.Query} (hs : s.Orderly)
    (h : s.select table q = (.error r, s')) : ∃ f, r = .fault f := by
  unfold select at h
  rcases guarded_cases s .select table _ with hg | ⟨p, hp, hg⟩
  · rw [hg] at h
    split at h <;> simp only [Prod.mk.injEq, reduceCtorEq, false_and, Except.error.injEq] at h
    all_goals exact ⟨_, h.1.symm⟩
  · rw [hg, ((plans_strike lasting_orderly hs).2 p hp).1] at h
    simp only [Bool.false_eq_true, if_false, Prod.mk.injEq, Except.error.injEq] at h
    exact ⟨_, h.1.symm⟩

lemma fault_of_insert_error (hs : s.Orderly) (hrow : row.find? "id" = none)
    (h : s.insert t table row = (.error r, s')) : ∃ f, r = .fault f := by
  have hid : ∀ n, Archive.keyKind ((complete (identifier n) t row).get "id") = .usable := by
    intro n
    rw [Fields.get, find?_complete_id hrow]
    rfl
  unfold insert at h
  rcases guarded_cases s .insert table _ with hg | ⟨p, hp, hg⟩
  · rw [hg] at h
    dsimp only at h
    rw [hid] at h
    split at h <;> simp only [Prod.mk.injEq, reduceCtorEq, false_and, Except.error.injEq] at h
    all_goals exact ⟨_, h.1.symm⟩
  · rw [hg, ((plans_strike lasting_orderly hs).2 p hp).1] at h
    simp only [Bool.false_eq_true, if_false, Prod.mk.injEq, Except.error.injEq] at h
    exact ⟨_, h.1.symm⟩

end Store

end CrmAutomation

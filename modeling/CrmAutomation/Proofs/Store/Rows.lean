import CrmAutomation.Store.Basic
import Mathlib.Tactic.Common

/-!
What the operations of a store do to the rows of its tables.

An insert adds one row at the end of one table, an update overwrites the rows of one table that pass
its filters, and nothing else changes a row. In a database rows go through JSON.
-/

namespace CrmAutomation

open Record Calendar

namespace Record.Tables

lemma rows_patch (ts : Tables) (name other : String) (fields : Fields) (fs : List Filter) :
    (ts.patch name fields fs).rows other =
      if name = other then
        (ts.rows name).map fun row => if matchesAll fs row then row.merge fields else row
      else ts.rows other := by
  unfold patch
  split
  · exact rows_setRows ts name other _
  · rename_i h
    split
    · rename_i ho
      subst ho
      have hid : ∀ row ∈ ts.rows name,
          (if matchesAll fs row then row.merge fields else row) = id row := by
        intro row hrow
        rw [if_neg fun hm => h (List.any_eq_true.mpr ⟨row, hrow, hm⟩)]
        rfl
      rw [List.map_congr_left hid, List.map_id]
    · rfl

end Record.Tables

namespace Store

namespace Archive

lemma rows_cons (d : Document) (a : Archive) (name : String) :
    rows (d :: a) name = if d.table = name then d.row :: rows a name else rows a name := by
  by_cases h : d.table = name <;> simp [rows, h]

lemma rows_patch (a : Archive) (name other : String) (fields : Fields) (fs : List Filter) :
    (a.patch name fields fs).rows other =
      if name = other then
        (a.rows name).map fun row => if matchesAll fs row then patchRow row fields else row
      else a.rows other := by
  induction a with
  | nil => simp [patch, rows]
  | cons d a ih =>
    have hcons : patch (d :: a) name fields fs =
        (if concerns name fs d then { d with row := patchRow d.row fields } else d) ::
          patch a name fields fs := rfl
    by_cases hd : d.table = name
    · by_cases ho : name = other
      · subst ho
        rw [if_pos rfl] at ih ⊢
        rw [hcons, rows_cons, rows_cons, ih, if_pos hd, if_pos (by split <;> exact hd)]
        by_cases hm : matchesAll fs d.row <;> simp [concerns, hd, hm]
      · rw [if_neg ho] at ih ⊢
        have hdo : d.table ≠ other := hd ▸ ho
        rw [hcons, rows_cons, rows_cons, ih, if_neg hdo, if_neg (by split <;> exact hdo)]
    · have hc : concerns name fs d = false := by simp [concerns, hd]
      rw [hcons, hc, if_neg Bool.false_ne_true, rows_cons, ih, rows_cons, rows_cons, if_neg hd]
      by_cases ho : name = other
      · subst ho
        rw [if_neg hd, if_pos rfl, if_pos rfl]
      · rw [if_neg ho, if_neg ho]

lemma count_eq (a : Archive) (name : String) (fs : List Filter) :
    a.count name fs = (a.rows name).countP (matchesAll fs) := by
  unfold count rows
  rw [List.countP_map, List.countP_filter]
  refine List.countP_congr fun d _ => ?_
  simp [concerns, and_comm]

end Archive

def keep (s : Store) (row : Row) : Row :=
  match s.backend with
  | .memory _ => row
  | .database _ _ => row.restored

/-- A row of the store with some fields set. -/
def overwrite (s : Store) (row : Row) (fields : Fields) : Row :=
  match s.backend with
  | .memory _ => row.merge fields
  | .database _ _ => Archive.patchRow row fields

variable {s s' : Store} {t : Instant} {table : String} {row stored : Row} {fields : Fields}
  {fs : List Filter} {r : Refusal} {n : ℕ}

/-- The store after the plans for an operation were looked at. -/
def afterPlans (s : Store) (op : Operation) (table : String) : Store :=
  { s with planned := (PlannedFault.strike op table s.planned).1 }

lemma guarded_cases {α : Type} (s : Store) (op : Operation) (table : String)
    (act : Store → Outcome α) :
    s.guarded op table act = act (s.afterPlans op table) ∨
      ∃ p, (PlannedFault.strike op table s.planned).2 = some p ∧
        s.guarded op table act =
          (.error (if p.isProgramError then .program p.text else .fault (.reported p.text)),
            s.afterPlans op table) := by
  unfold guarded afterPlans
  rcases h : PlannedFault.strike op table s.planned with ⟨planned, _ | p⟩
  · exact Or.inl rfl
  · exact Or.inr ⟨p, rfl, rfl⟩

lemma rows_insert (h : s.insert t table row = (.ok stored, s')) (other : String) :
    stored = complete (identifier (s.drawn + 1)) t row ∧
      s'.rows other = if table = other then s.rows table ++ [s.keep stored] else s.rows other := by
  unfold insert at h
  rcases guarded_cases s .insert table _ with hg | ⟨p, -, hg⟩
  · rw [hg] at h
    rcases hb : s.backend with tables | ⟨_ | _ | _, archive⟩
    · simp only [afterPlans, hb, Prod.mk.injEq, Except.ok.injEq] at h
      obtain ⟨rfl, rfl⟩ := h
      refine ⟨rfl, ?_⟩
      simp only [rows, keep, hb]
      exact Tables.rows_append tables table other _
    · simp [afterPlans, hb] at h
    · simp only [afterPlans, hb] at h
      split at h
      · simp at h
      · simp at h
      · simp only [Prod.mk.injEq, Except.ok.injEq] at h
        obtain ⟨rfl, rfl⟩ := h
        refine ⟨rfl, ?_⟩
        simp only [rows, keep, hb]
        exact Archive.rows_append archive table other _
    · simp [afterPlans, hb] at h
  · rw [hg] at h
    cases h

lemma rows_insert_error (h : s.insert t table row = (.error r, s')) (other : String) :
    s'.rows other = s.rows other := by
  unfold insert at h
  rcases guarded_cases s .insert table _ with hg | ⟨p, -, hg⟩
  · rw [hg] at h
    rcases hb : s.backend with tables | ⟨_ | _ | _, archive⟩
    · simp [afterPlans, hb] at h
    · simp only [afterPlans, hb, Prod.mk.injEq] at h
      rw [← h.2]; simp [rows, hb]
    · simp only [afterPlans, hb] at h
      split at h <;> simp only [Prod.mk.injEq, reduceCtorEq, false_and] at h
      all_goals rw [← h.2]; simp [rows, hb]
    · simp only [afterPlans, hb, Prod.mk.injEq] at h
      rw [← h.2]; simp [rows, hb]
  · rw [hg] at h
    cases h
    rfl

lemma rows_update (h : s.update table fields fs = (.ok n, s')) (other : String) :
    s'.rows other =
      if table = other then
        (s.rows table).map fun row => if matchesAll fs row then s.overwrite row fields else row
      else s.rows other := by
  unfold update at h
  rcases guarded_cases s .update table _ with hg | ⟨p, -, hg⟩
  · rw [hg] at h
    rcases hb : s.backend with tables | ⟨_ | _ | _, archive⟩
    · simp only [afterPlans, hb, Prod.mk.injEq] at h
      rw [← h.2]
      simp only [rows, overwrite, hb]
      exact Tables.rows_patch tables table other fields fs
    · simp [afterPlans, hb] at h
    · simp only [afterPlans, hb, Prod.mk.injEq] at h
      rw [← h.2]
      simp only [rows, overwrite, hb]
      exact Archive.rows_patch archive table other fields fs
    · simp [afterPlans, hb] at h
  · rw [hg] at h
    cases h

lemma count_of_update (h : s.update table fields fs = (.ok n, s')) :
    n = (s.rows table).countP (matchesAll fs) := by
  unfold update at h
  rcases guarded_cases s .update table _ with hg | ⟨p, -, hg⟩
  · rw [hg] at h
    rcases hb : s.backend with tables | ⟨_ | _ | _, archive⟩
    · simp only [afterPlans, hb, Prod.mk.injEq, Except.ok.injEq] at h
      rw [← h.1]
      simp only [rows, hb]
      rfl
    · simp [afterPlans, hb] at h
    · simp only [afterPlans, hb, Prod.mk.injEq, Except.ok.injEq] at h
      rw [← h.1]
      simp only [rows, hb]
      exact Archive.count_eq archive table fs
    · simp [afterPlans, hb] at h
  · rw [hg] at h
    cases h

lemma rows_update_error (h : s.update table fields fs = (.error r, s')) (other : String) :
    s'.rows other = s.rows other := by
  unfold update at h
  rcases guarded_cases s .update table _ with hg | ⟨p, -, hg⟩
  · rw [hg] at h
    rcases hb : s.backend with tables | ⟨_ | _ | _, archive⟩ <;>
      simp only [afterPlans, hb, Prod.mk.injEq, reduceCtorEq, false_and] at h
    all_goals rw [← h.2]; simp [rows, hb]
  · rw [hg] at h
    cases h
    rfl

lemma rows_select (s : Store) (table : String) (q : Tables.Query) (other : String) :
    (s.select table q).2.rows other = s.rows other := by
  unfold select
  rcases guarded_cases s .select table _ with hg | ⟨p, -, hg⟩
  · rw [hg]
    rcases hb : s.backend with tables | ⟨_ | _ | _, archive⟩ <;> simp [afterPlans, hb, rows]
  · rw [hg]
    rfl

lemma eq_of_select {q : Tables.Query} {selected : List Row}
    (h : s.select table q = (.ok selected, s')) :
    selected = limited q.limit
      (sorted ((s.rows table).filter (matchesAll q.filters)) q.orderBy q.descending) := by
  unfold select at h
  rcases guarded_cases s .select table _ with hg | ⟨p, -, hg⟩
  · rw [hg] at h
    rcases hb : s.backend with tables | ⟨_ | _ | _, archive⟩
    · simp only [afterPlans, hb, Prod.mk.injEq, Except.ok.injEq] at h
      rw [← h.1]
      simp only [rows, hb]
      rfl
    · simp [afterPlans, hb] at h
    · simp only [afterPlans, hb, Prod.mk.injEq, Except.ok.injEq] at h
      rw [← h.1]
      simp only [rows, hb]
      rfl
    · simp [afterPlans, hb] at h
  · rw [hg] at h
    cases h

/-- A selection from the table is answered: rows can be read, and no planned failure strikes it. -/
def Answers (s : Store) (table : String) : Prop :=
  s.isReadable = true ∧ (PlannedFault.strike .select table s.planned).2 = none

lemma select_of_answers (h : s.Answers table) (q : Tables.Query) :
    ∃ k, s.select table q =
      (.ok (limited q.limit
        (sorted ((s.rows table).filter (matchesAll q.filters)) q.orderBy q.descending)), k) := by
  obtain ⟨hreadable, hplans⟩ := h
  have hok : ∃ selected k, s.select table q = (.ok selected, k) := by
    unfold select
    rcases guarded_cases s .select table _ with hg | ⟨p, hp, -⟩
    · rw [hg]
      unfold isReadable at hreadable
      rcases hb : s.backend with tables | ⟨_ | _ | _, archive⟩
      · simp [afterPlans, hb]
      · rw [hb] at hreadable
        cases hreadable
      · simp [afterPlans, hb]
      · rw [hb] at hreadable
        cases hreadable
    · rw [hplans] at hp
      cases hp
  obtain ⟨selected, k, hselect⟩ := hok
  exact ⟨k, by rw [hselect, eq_of_select hselect]⟩

lemma mem_of_select {selected : List Row}
    (h : s.select table { filters := fs, limit := some 1 } = (.ok selected, s'))
    (hrow : row ∈ selected) : row ∈ s.rows table ∧ matchesAll fs row = true := by
  rw [eq_of_select h] at hrow
  exact List.mem_filter.mp (List.mem_of_mem_take hrow)

end Store

end CrmAutomation

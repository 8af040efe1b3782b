import CrmAutomation.Proofs.Run.Effect
import Mathlib.Data.List.Forall2
import Mathlib.Data.Set.Insert

/-!
How runs revise the table of executions.

A run adds its record, and what it writes afterwards goes to the rows that carry its id. What the
record says of the start of the run stays, whatever later runs write and whether or not their ids
are new.
-/

namespace CrmAutomation

open EngineM Record Relation

/-! ### Lists that agree item by item -/

section Lists

variable {α β γ : Type} {R : α → α → Prop} {Q : α → β → Prop}

lemma forall₂_trans {Q' : β → γ → Prop} {T : α → γ → Prop}
    (hT : ∀ a b c, Q a b → Q' b c → T a c) {as : List α} {bs : List β} {cs : List γ}
    (h : List.Forall₂ Q as bs) (h' : List.Forall₂ Q' bs cs) : List.Forall₂ T as cs := by
  induction h generalizing cs with
  | nil =>
    cases h'
    exact .nil
  | cons hab _ ih =>
    cases h' with
    | cons hbc hrest => exact .cons (hT _ _ _ hab hbc) (ih hrest)

lemma forall₂_append_left {as as' : List α} {bs : List β}
    (h : List.Forall₂ Q (as ++ as') bs) :
    ∃ cs cs', bs = cs ++ cs' ∧ List.Forall₂ Q as cs ∧ List.Forall₂ Q as' cs' := by
  induction as generalizing bs with
  | nil => exact ⟨[], bs, rfl, .nil, h⟩
  | cons a as ih =>
    cases h with
    | cons hab hrest =>
      obtain ⟨cs, cs', rfl, hcs, hcs'⟩ := ih hrest
      exact ⟨_ :: cs, cs', rfl, .cons hab hcs, hcs'⟩

lemma forall₂_mem {as : List α} {bs : List β} (h : List.Forall₂ Q as bs) :
    List.Forall₂ (fun a b => a ∈ as ∧ b ∈ bs ∧ Q a b) as bs := by
  have hright := (List.forall₂_and_left _ _).mpr ⟨fun b hb => hb, h.flip⟩
  exact (List.forall₂_and_left _ _).mpr ⟨fun a ha => ha, hright.flip⟩

lemma exists_of_forall₂ {as : List α} {bs : List β} (h : List.Forall₂ Q as bs) {a : α}
    (ha : a ∈ as) : ∃ b ∈ bs, Q a b := by
  induction h with
  | nil => cases ha
  | @cons a' b as bs hab _ ih =>
    rcases List.mem_cons.mp ha with rfl | ha
    · exact ⟨b, List.mem_cons_self, hab⟩
    · obtain ⟨b', hb', hq⟩ := ih ha
      exact ⟨b', List.mem_cons_of_mem _ hb', hq⟩

lemma eq_of_forall₂ {as bs : List α} (h : List.Forall₂ R as bs)
    (hR : ∀ a ∈ as, ∀ b, R a b → b = a) : bs = as := by
  induction h with
  | nil => rfl
  | @cons a b as bs hab _ ih =>
    obtain ⟨ha, has⟩ := List.forall_mem_cons.mp hR
    rw [ha b hab, ih has]

end Lists

namespace Run

/-- The keys that a run writes to its record. -/
def written : List Key := [
  "steps_executed", "current_step_id", "status", "completed_at", "duration_ms", "error_message"]

/-- What runs with some ids may make of a row: nothing unless it carries one of the ids, and nothing
under a key that they do not write. -/
structure Revised (ids : Set String) (brings : Value → Value) (row row' : Row) : Prop where
  other : (∀ id ∈ ids, row.get "id" ≠ .text id) → row' = row
  plain : row.Plain → row'.Plain
  kept : row.Plain → ∀ key : String, Key.text key ∉ written →
    (∀ v, row.find? key = some v → brings v = v) → row'.find? key = row.find? key

/-- Work that brings values back as before, and revises the rows of the table of executions. -/
structure Revises (ids : Set String) (s s' : Store) : Prop where
  brings : s'.brings = s.brings
  rows : List.Forall₂ (Revised ids s.brings) (s.rows executionsTable) (s'.rows executionsTable)

variable {ids ids' : Set String} {brings : Value → Value} {row row' row'' : Row}
  {s s' s'' : Store} {id : String} {patch : Fields}

namespace Revised

lemma refl (ids : Set String) (brings : Value → Value) (row : Row) : Revised ids brings row row :=
  ⟨fun _ => rfl, fun h => h, fun _ _ _ _ => rfl⟩

lemma trans (h : Revised ids brings row row') (h' : Revised ids brings row' row'') :
    Revised ids brings row row'' where
  other ho := by
    have he := h.other ho
    subst he
    exact h'.other ho
  plain hr := h'.plain (h.plain hr)
  kept hr key hk hv := by
    have he := h.kept hr key hk hv
    rw [← he] at hv ⊢
    exact h'.kept (h.plain hr) key hk hv

lemma find?_eq (h : Revised ids brings row row') (hr : row.Plain) {key : String} {v : Value}
    (hk : Key.text key ∉ written) (hv : row.find? key = some v) (hb : brings v = v) :
    row'.find? key = some v := by
  have hkept : ∀ w, row.find? key = some w → brings w = w := by
    intro w hw
    rw [hv] at hw
    cases hw
    exact hb
  rw [h.kept hr key hk hkept, hv]

lemma mono (hids : ids ⊆ ids') (h : Revised ids brings row row') :
    Revised ids' brings row row' where
  other ho := h.other fun id hid => ho id (hids hid)
  plain := h.plain
  kept := h.kept

end Revised

namespace Revises

lemma of_rows (hb : s'.brings = s.brings)
    (hrows : s'.rows executionsTable = s.rows executionsTable) : Revises ids s s' where
  brings := hb
  rows := by
    rw [hrows]
    exact List.forall₂_same.mpr fun row _ => Revised.refl ids _ row

lemma trans (h : Revises ids s s') (h' : Revises ids s' s'') : Revises ids s s'' where
  brings := h'.brings.trans h.brings
  rows := by
    have hrest := h'.rows
    rw [h.brings] at hrest
    exact forall₂_trans (fun _ _ _ hab hbc => hab.trans hbc) h.rows hrest

end Revises

lemma revised_overwrite (hp : patch.Plain) (hw : ∀ key, key ∉ written → patch.find? key = none)
    (hid : ∃ id ∈ ids, row.get "id" = .text id) (s : Store) :
    Revised ids s.brings row (s.overwrite row patch) where
  other ho := by
    obtain ⟨id, hmem, hown⟩ := hid
    exact absurd hown (ho id hmem)
  plain hr := Store.plain_overwrite hr hp
  kept hr key hk hv := Store.find?_overwrite_kept hr hp (hw _ hk) hv

lemma revises_of_update (s : Store) (hp : patch.Plain)
    (hw : ∀ key, key ∉ written → patch.find? key = none) (id : String) :
    Revises {id} s (s.update executionsTable patch (ownRecord id)).2 := by
  have hm : Store.Moves (fun _ => True) s (s.update executionsTable patch (ownRecord id)).2 :=
    .update s _ patch (ownRecord id) trivial
  have hb := Store.brings_of_moves hm
  rcases hu : s.update executionsTable patch (ownRecord id) with ⟨r | n, k⟩
  · rw [hu] at hb
    exact .of_rows hb (Store.rows_update_error hu executionsTable)
  · rw [hu] at hb
    refine ⟨hb, ?_⟩
    rw [Store.rows_update hu executionsTable, if_pos rfl, List.forall₂_map_right_iff,
      List.forall₂_same]
    intro row _
    by_cases hm : matchesAll (ownRecord id) row = true
    · rw [if_pos hm]
      exact revised_overwrite hp hw ⟨id, Set.mem_singleton id, matchesAll_id.mp hm⟩ s
    · rw [if_neg hm]
      exact Revised.refl _ _ row

lemma find?_progressPatch_of_notMem {key : Key} (hk : key ∉ written) (r : Run) :
    r.progressPatch.find? key = none := by
  simp only [written, List.mem_cons, List.not_mem_nil, or_false, not_or] at hk
  simp [progressPatch, Fields.find?_cons, Ne.symm hk.1, Ne.symm hk.2.1]

lemma find?_outcomePatch_of_notMem {key : Key} (hk : key ∉ written) (r : Run) (status : RunStatus)
    (error : Option Value) (t : Calendar.Instant) :
    (r.outcomePatch status error t).find? key = none := by
  simp only [written, List.mem_cons, List.not_mem_nil, or_false, not_or] at hk
  obtain ⟨hsteps, -, hstatus, hcompleted, hduration, herror⟩ := hk
  rw [find?_outcomePatch _ _ _ _ herror]
  simp [Fields.find?_cons, Ne.symm hsteps, Ne.symm hstatus, Ne.symm hcompleted,
    Ne.symm hduration]

lemma revises_of_works (h : Works (· ≠ executionsTable) id s s') : Revises {id} s s' := by
  cases h with
  | other h => exact .of_rows (Store.brings_of_moves h) (Store.rows_of_moves h)
  | progress r h =>
    exact revises_of_update s (plain_progressPatch r)
      (fun _ hk => find?_progressPatch_of_notMem hk r) id

lemma revises_of_path (h : ReflTransGen (Works (· ≠ executionsTable) id) s s') :
    Revises {id} s s' := by
  induction h with
  | refl => exact .of_rows rfl rfl
  | tail _ h ih => exact ih.trans (revises_of_works h)

variable {d : Definition} {event payload retryCount : Value} {e : Engine} {t : Trace}

lemma revises_of_ran (ht : Ran d event payload retryCount e t) (ha : t.Avoids executionsTable) :
    Revises {t.first.id} t.made.store ((once d event payload retryCount).perform e).2.store := by
  have hw := revises_of_path (works_of_ran ht (within_of_avoids ha))
  rcases store_of_ran ht with h | h
  · rw [h]
    exact hw
  · rw [h]
    exact hw.trans (revises_of_update _ (plain_outcomePatch _ _ _ _)
      (fun _ hk => find?_outcomePatch_of_notMem hk _ _ _ _) _)

end Run

end CrmAutomation

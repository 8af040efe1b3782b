import CrmAutomation.Proofs.Store.Overwrite

/-!
The stores that work passes through.

Every operation takes the store to another one, and work passes through these one after the other.
As long as the operations write to other tables, the rows of a table stay; how a store brings values
back never changes.
-/

namespace CrmAutomation

open Record Calendar

namespace Store

/-- An operation takes one store to the other; if it writes, then to a table of a class. -/
inductive Moves (writes : String → Prop) : Store → Store → Prop
  | insert (s t table row) (h : writes table) : Moves writes s (s.insert t table row).2
  | update (s table fields fs) (h : writes table) : Moves writes s (s.update table fields fs).2
  | select (s table q) : Moves writes s (s.select table q).2

/-- `Passes writes s ss s'`: operations take the store `s` through the stores `ss`, the last of
which is `s'`. -/
inductive Passes (writes : String → Prop) : Store → List Store → Store → Prop
  | still {s} : Passes writes s [] s
  | move {s k ss s'} (h : Moves writes s k) (rest : Passes writes k ss s') :
      Passes writes s (k :: ss) s'

variable {writes : String → Prop} {s s' s'' k : Store} {ss ss' : List Store}

lemma Passes.one (h : Moves writes s s') : Passes writes s [s'] s' := .move h .still

lemma Passes.append (h : Passes writes s ss s') (h' : Passes writes s' ss' s'') :
    Passes writes s (ss ++ ss') s'' := by
  induction h with
  | still => exact h'
  | move h _ ih => exact .move h (ih h')

lemma Moves.mono {writes' : String → Prop} (hw : ∀ table, writes table → writes' table)
    (h : Moves writes s k) : Moves writes' s k := by
  cases h with
  | insert t table row h => exact .insert _ t table row (hw _ h)
  | update table fields fs h => exact .update _ table fields fs (hw _ h)
  | select table q => exact .select _ table q

lemma Passes.mono {writes' : String → Prop} (hw : ∀ table, writes table → writes' table)
    (h : Passes writes s ss s') : Passes writes' s ss s' := by
  induction h with
  | still => exact .still
  | move h _ ih => exact .move (h.mono hw) ih

/-- Work that only reads passes through stores without writing to any table. -/
def Reads (s s' : Store) : Prop := ∃ ss, Passes (fun _ => False) s ss s'

/-! ### What stays -/

lemma rows_of_moves {name : String} (h : Moves (· ≠ name) s k) : k.rows name = s.rows name := by
  cases h with
  | insert t table row h =>
    rcases hi : s.insert t table row with ⟨r | stored, k⟩
    · exact rows_insert_error hi name
    · rw [(rows_insert hi name).2, if_neg h]
  | update table fields fs h =>
    rcases hu : s.update table fields fs with ⟨r | n, k⟩
    · exact rows_update_error hu name
    · rw [rows_update hu name, if_neg h]
  | select table q => exact rows_select s table q name

lemma brings_guarded {α : Type} {op : Operation} {table : String} {act : Store → Outcome α}
    (h : ∀ s, (act s).2.brings = s.brings) : (s.guarded op table act).2.brings = s.brings := by
  rcases guarded_cases s op table act with hg | ⟨p, -, hg⟩
  · rw [hg, h]
    rfl
  · rw [hg]
    rfl

lemma brings_of_moves (h : Moves writes s k) : k.brings = s.brings := by
  cases h with
  | insert t table row h =>
    refine brings_guarded fun s => ?_
    rcases hb : s.backend with tables | ⟨_ | _ | _, archive⟩
    case database.started =>
      dsimp only
      split <;> simp only [brings, hb]
    all_goals simp only [brings, hb]
  | update table fields fs h =>
    refine brings_guarded fun s => ?_
    rcases hb : s.backend with tables | ⟨_ | _ | _, archive⟩ <;> simp only [brings, hb]
  | select table q =>
    refine brings_guarded fun s => ?_
    rcases hb : s.backend with tables | ⟨_ | _ | _, archive⟩ <;> simp only [brings, hb]

lemma rows_of_passes {name : String} (h : Passes (· ≠ name) s ss s') :
    (∀ k ∈ ss, k.rows name = s.rows name) ∧ s'.rows name = s.rows name := by
  induction h with
  | still => simp
  | move h _ ih =>
    rw [rows_of_moves h] at ih
    exact ⟨List.forall_mem_cons.mpr ⟨rows_of_moves h, ih.1⟩, ih.2⟩

lemma brings_of_passes (h : Passes writes s ss s') :
    (∀ k ∈ ss, k.brings = s.brings) ∧ s'.brings = s.brings := by
  induction h with
  | still => simp
  | move h _ ih =>
    rw [brings_of_moves h] at ih
    exact ⟨List.forall_mem_cons.mpr ⟨brings_of_moves h, ih.1⟩, ih.2⟩

lemma rows_of_reads (h : Reads s s') (name : String) : s'.rows name = s.rows name := by
  obtain ⟨ss, hss⟩ := h
  exact (rows_of_passes (hss.mono fun _ hw => hw.elim)).2

/-! ### Identifiers -/

lemma identifier_injective {m n : ℕ} (h : identifier m = identifier n) : m = n := by
  have hread : ∀ k : ℕ, Nat.ofDigitChars 10 (Numeric.natDigits k) 0 = k :=
    fun k => Nat.ofDigitChars_toDigits (by decide) (by decide)
  have htext : ∀ k : ℕ, (identifier k).toList = "id-".toList ++ Numeric.natDigits k := by
    intro k
    have hk : ¬(k : Int) < 0 := by omega
    simp [identifier, Numeric.intText, hk]
  have hdigits : Numeric.natDigits m = Numeric.natDigits n := by
    have hlist := congrArg String.toList h
    rw [htext, htext] at hlist
    exact List.append_cancel_left hlist
  calc
    m = Nat.ofDigitChars 10 (Numeric.natDigits m) 0 := (hread m).symm
    _ = Nat.ofDigitChars 10 (Numeric.natDigits n) 0 := by rw [hdigits]
    _ = n := hread n

lemma drawn_insert {t : Instant} {table : String} {row stored : Row}
    (h : s.insert t table row = (.ok stored, k)) : k.drawn = s.drawn + 1 := by
  unfold insert at h
  rcases guarded_cases s .insert table _ with hg | ⟨p, -, hg⟩
  · rw [hg] at h
    rcases hb : s.backend with tables | ⟨_ | _ | _, archive⟩
    · simp only [afterPlans, hb, Prod.mk.injEq] at h
      rw [← h.2]
    · simp [afterPlans, hb] at h
    · simp only [afterPlans, hb] at h
      split at h
      · simp at h
      · simp at h
      · simp only [Prod.mk.injEq] at h
        rw [← h.2]
    · simp [afterPlans, hb] at h
  · rw [hg] at h
    cases h

lemma drawn_le_guarded {α : Type} {op : Operation} {table : String} {act : Store → Outcome α}
    (h : ∀ s, s.drawn ≤ (act s).2.drawn) : s.drawn ≤ (s.guarded op table act).2.drawn := by
  rcases guarded_cases s op table act with hg | ⟨p, -, hg⟩
  · rw [hg]
    exact h (s.afterPlans op table)
  · rw [hg]
    exact Nat.le_refl s.drawn

lemma drawn_le_of_moves (h : Moves writes s k) : s.drawn ≤ k.drawn := by
  cases h with
  | insert t table row h =>
    refine drawn_le_guarded fun s => ?_
    rcases s.backend with tables | ⟨_ | _ | _, archive⟩
    case database.started =>
      dsimp only
      split <;> exact Nat.le_succ s.drawn
    all_goals exact Nat.le_succ s.drawn
  | update table fields fs h =>
    refine drawn_le_guarded fun s => ?_
    rcases s.backend with tables | ⟨_ | _ | _, archive⟩
    all_goals exact Nat.le_refl s.drawn
  | select table q =>
    refine drawn_le_guarded fun s => ?_
    rcases s.backend with tables | ⟨_ | _ | _, archive⟩
    all_goals exact Nat.le_refl s.drawn

lemma drawn_le_of_passes (h : Passes writes s ss s') : s.drawn ≤ s'.drawn := by
  induction h with
  | still => exact Nat.le_refl _
  | move h _ ih => exact Nat.le_trans (drawn_le_of_moves h) ih

end Store

end CrmAutomation

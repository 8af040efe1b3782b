import CrmAutomation.Proofs.Run.Write
import CrmAutomation.Proofs.Store.Passage

/-!
Rows of the table of executions that are settled.

A row in a state that runs do not leave stays as it is, field by field, and no row disappears. An
operation of the store keeps to that if it spares the table, adds a row, or updates rows that are
in other states.
-/

namespace CrmAutomation.Execution

open Record

/-- The row is in a state that runs do not leave. -/
def Finished (row : Row) : Prop := ∃ status ∈ RunStatus.terminal, row.get "status" = status.value

/-- What a row may become: nothing else if it is finished, and the record of a run stays its
record. -/
structure Lasts (row row' : Row) : Prop where
  finished : Finished row → row' = row
  records : ∀ id, Run.Records id row → Run.Records id row'

/-- Every row of the first store lasts in the second one, in its place. -/
def Settled (s s' : Store) : Prop :=
  ∀ (n : ℕ) (row : Row), (s.rows executionsTable)[n]? = some row →
    ∃ row', (s'.rows executionsTable)[n]? = some row' ∧ Lasts row row'

/-- `Proceeds s ss s'`: operations take the store `s` through the stores `ss`, the last of which is
`s'`, and rows are settled under each of them. -/
inductive Proceeds : Store → List Store → Store → Prop
  | still {s} : Proceeds s [] s
  | move {s k ss s'} (h : Store.Moves (fun _ => True) s k) (hs : Settled s k)
      (rest : Proceeds k ss s') : Proceeds s (k :: ss) s'

variable {row row' row'' : Row} {s s' s'' k : Store} {ss ss' : List Store} {patch : Fields}
  {fs : List Filter}

lemma not_finished_of_running (h : row.get "status" = RunStatus.running.value) :
    ¬Finished row := by
  rintro ⟨status, hstatus, he⟩
  rw [h] at he
  simp only [RunStatus.terminal, List.mem_cons, List.not_mem_nil, or_false] at hstatus
  rcases hstatus with rfl | rfl | rfl
  all_goals
    revert he
    decide

lemma Lasts.refl (row : Row) : Lasts row row := ⟨fun _ => rfl, fun _ h => h⟩

lemma Lasts.trans (h : Lasts row row') (h' : Lasts row' row'') : Lasts row row'' where
  finished hf := by
    have he := h.finished hf
    subst he
    exact h'.finished hf
  records id hr := h'.records id (h.records id hr)

lemma Settled.of_rows (h : s'.rows executionsTable = s.rows executionsTable) : Settled s s' := by
  intro n row hn
  exact ⟨row, h ▸ hn, .refl row⟩

lemma Settled.trans (h : Settled s s') (h' : Settled s' s'') : Settled s s'' := by
  intro n row hn
  obtain ⟨row', hn', hrow⟩ := h n row hn
  obtain ⟨row'', hn'', hrow'⟩ := h' n row' hn'
  exact ⟨row'', hn'', hrow.trans hrow'⟩

/-! ### Operations -/

lemma settled_of_moves (h : Store.Moves (· ≠ executionsTable) s k) : Settled s k :=
  .of_rows (Store.rows_of_moves h)

lemma settled_of_insert (s : Store) (t : Calendar.Instant) (row : Row) :
    Settled s (s.insert t executionsTable row).2 := by
  rcases hi : s.insert t executionsTable row with ⟨r | stored, k⟩
  · exact .of_rows (Store.rows_insert_error hi executionsTable)
  · obtain ⟨-, hrows⟩ := Store.rows_insert hi executionsTable
    rw [if_pos rfl] at hrows
    intro n row hn
    refine ⟨row, ?_, .refl row⟩
    rw [hrows, List.getElem?_append_left (List.getElem?_eq_some_iff.mp hn).1, hn]

lemma settled_of_update (hp : patch.Plain) (hid : patch.find? "id" = none)
    (hfs : ∀ row ∈ s.rows executionsTable, matchesAll fs row = true → ¬Finished row) :
    Settled s (s.update executionsTable patch fs).2 := by
  rcases hu : s.update executionsTable patch fs with ⟨r | m, k⟩
  · exact .of_rows (Store.rows_update_error hu executionsTable)
  · intro n row hn
    rw [Store.rows_update hu executionsTable, if_pos rfl, List.getElem?_map, hn, Option.map_some]
    refine ⟨_, rfl, ?_⟩
    by_cases hm : matchesAll fs row = true
    · rw [if_pos hm]
      exact ⟨fun hf => absurd hf (hfs row (List.mem_of_getElem? hn) hm),
        fun id hr => Run.records_overwrite hr hp hid s⟩
    · rw [if_neg hm]
      exact .refl row

/-! ### One operation after the other -/

namespace Proceeds

lemma one (h : Store.Moves (fun _ => True) s k) (hs : Settled s k) : Proceeds s [k] k :=
  .move h hs .still

lemma append (h : Proceeds s ss s') (h' : Proceeds s' ss' s'') : Proceeds s (ss ++ ss') s'' := by
  induction h with
  | still => exact h'
  | move h hs _ ih => exact .move h hs (ih h')

lemma of_passes (h : Store.Passes (· ≠ executionsTable) s ss s') : Proceeds s ss s' := by
  induction h with
  | still => exact .still
  | move h _ ih => exact .move (h.mono fun _ _ => trivial) (settled_of_moves h) ih

lemma passes (h : Proceeds s ss s') : Store.Passes (fun _ => True) s ss s' := by
  induction h with
  | still => exact .still
  | move h _ _ ih => exact .move h ih

lemma mem (h : Proceeds s ss s') : s' ∈ s :: ss := by
  induction h with
  | still => exact List.mem_cons_self
  | move _ _ _ ih => exact List.mem_cons_of_mem _ ih

lemma settled (h : Proceeds s ss s') : ∀ k ∈ ss, Settled s k := by
  induction h with
  | still => simp
  | move _ hs _ ih => exact List.forall_mem_cons.mpr ⟨hs, fun k hk => hs.trans (ih k hk)⟩

lemma pairwise (h : Proceeds s ss s') : (s :: ss).Pairwise Settled := by
  induction h with
  | still => exact List.pairwise_singleton _ _
  | move h hs rest ih => exact .cons (settled (.move h hs rest)) ih

end Proceeds

end CrmAutomation.Execution

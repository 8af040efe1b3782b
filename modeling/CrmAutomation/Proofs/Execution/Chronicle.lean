import CrmAutomation.Proofs.Execution.Retrying

/-!
The records of runs, in the order in which they were made.

Whatever calls a session makes, the table of executions changes in three ways only: a request to
another table leaves it, cancelling marks records in it, and a run adds its record at the end. So a
property of stores lasts through a session if it lasts through each of these. One that does is that
the rows are the records of runs of the session, each with the time of its start, in the order in
which their identifiers were drawn.
-/

namespace CrmAutomation

open EngineM Record Run

/-! ### What lasts through calls -/

namespace Execution

/-- A property of stores that lasts through requests to other tables and through cancelling. -/
structure Endures (P : Store → Prop) : Prop where
  passes {s k : Store} {ss : List Store} :
    P s → Store.Passes (· ≠ executionsTable) s ss k → P k
  marking {s : Store} (id : Value) (t : Calendar.Instant) : P s → P (marking id t s).2

variable {P : Store → Prop} {e : Engine}

lemma endures_bind {α β : Type} {y : EngineM α} {g : α → EngineM β} (hy : P (y.perform e).2.store)
    (hg : ∀ a k, y.perform e = (.ok a, k) → P k.store → P ((g a).perform k).2.store) :
    P ((y >>= g).perform e).2.store := by
  rw [perform_bind]
  rcases hp : y.perform e with ⟨f | a, k⟩
  · rw [hp] at hy
    exact hy
  · rw [hp] at hy
    exact hg a k hp hy

namespace Endures

lemma of_does {α : Type} {Q : α → Prop} {y : EngineM α} (hP : Endures P) (h : P e.store)
    (hy : ∀ K, Lockstep (fun op table => op = .select ∨ table ≠ executionsTable) K →
      PostsMatch K → Does K Q y) :
    P (y.perform e).2.store := by
  obtain ⟨ss, hss⟩ := passes_of_does hy e
  exact hP.passes h hss

lemma cancel (hP : Endures P) (h : P e.store) (id : Value) :
    P ((cancel id).perform e).2.store := by
  obtain ⟨s, ⟨ss, hss⟩, hstore⟩ := cancel_cases id e
  have hread : P s := hP.passes h (hss.mono fun _ hw => hw.elim)
  rcases hstore with hs | ⟨t, hs⟩
  · rw [hs]
    exact hread
  · rw [hs]
    exact hP.marking id t hread

lemma startsOf {event payload : Value} {ds : List Definition} (h : P e.store)
    (hs : ∀ x ∈ Trigger.startsOf event payload ds e, P x.engine.store → P x.outcome.2.store) :
    P (Trigger.afterAll event payload ds e).store := by
  induction ds generalizing e with
  | nil => exact h
  | cons d ds ih =>
    obtain ⟨hx, hrest⟩ := List.forall_mem_cons.mp hs
    exact ih (hx h) hrest

lemma fire {event entityId payload : Value} {entityType : String} (hP : Endures P) (h : P e.store)
    (hs : ∀ x ∈ Trigger.starts event entityType entityId payload e,
      P x.engine.store → P x.outcome.2.store) :
    P ((Trigger.fire event entityType entityId payload).perform e).2.store := by
  have hseek := hP.of_does h fun K hK _ =>
    Trigger.does_seek hK (Or.inl rfl) event entityType entityId payload
  rw [Trigger.perform_fire]
  refine endures_bind hseek fun found k hk hkept => ?_
  rw [Trigger.starts_eq hk] at hs
  rw [Trigger.store_runAll]
  exact startsOf hkept hs

end Endures

end Execution

namespace Call

open Execution

variable {P : Store → Prop} {c : Call} {e : Engine}

/-- **What lasts through a call**: what lasts through the runs that it makes. -/
theorem endures_after (hP : Endures P) (h : P e.store)
    (hs : ∀ x ∈ c.starts e, P x.engine.store → P x.outcome.2.store) : P (c.after e).store := by
  cases c with
  | run d event payload retryCount =>
    exact hs ⟨d, event, payload, retryCount, e⟩ List.mem_cons_self h
  | fire event entityType entityId payload => exact hP.fire h hs
  | startManual workflow payload =>
    have hd := hP.of_does h fun K hK _ => does_definition hK (Or.inl rfl) workflow
    show P ((Execution.startManual workflow payload).perform e).2.store
    unfold Execution.startManual
    refine endures_bind hd fun d k hk hkept => hs ⟨d, .text "manual", payload, .int 0, k⟩ ?_ hkept
    simp [starts, hk]
  | retry execution =>
    obtain ⟨ss, hss⟩ := keeps_retried (frame_passes (· ≠ executionsTable)) execution e
    show P ((Execution.retry execution).perform e).2.store
    rw [retry_eq]
    refine endures_bind (hP.passes h hss) fun r k hk hkept =>
      hs ⟨r.1, r.2.1, r.2.2.1, r.2.2.2, k⟩ ?_ hkept
    simp [starts, hk]
  | cancel execution => exact hP.cancel h execution
  | list workflow limit =>
    exact hP.of_does h fun K hK _ => does_list hK (Or.inl rfl) workflow limit
  | statistics workflow =>
    exact hP.of_does h fun K hK _ => does_statistics hK (Or.inl rfl) workflow
  | handle event entityType entityId data =>
    have ha : ∀ a ∈ Rule.asks, a.1 = .select ∨ a.2 ≠ executionsTable := by decide
    exact hP.of_does h fun K hK hm => Rule.does_handle hK hm ha event entityType entityId data
  | pause ms => exact h

end Call

namespace Session

open Execution

variable {P : Store → Prop} {calls : List Call} {e : Engine}

lemma endures_after (hP : Endures P) (h : P e.store)
    (hs : ∀ x ∈ starts calls e, P x.engine.store → P x.outcome.2.store) :
    P (after calls e).store := by
  induction calls generalizing e with
  | nil => exact h
  | cons c cs ih =>
    obtain ⟨hc, hcs⟩ := List.forall_mem_append.mp hs
    exact ih (Call.endures_after hP h hc) hcs

end Session

/-! ### Records with the time of the start -/

namespace Run.Start

/-- The row is the record of the run, and says when it started. -/
structure Begun (x : Start) (row : Row) : Prop extends x.Recorded row where
  started : row.find? "started_at" = some (.text x.engine.clock.isoText)

variable {x : Start} {t : Trace} {own : Set String} {row row' : Row}

lemma Begun.revised (h : x.Begun row) (hr : Revised own x.engine.store.brings row row') :
    x.Begun row' where
  toRecorded := h.toRecorded.revised hr
  started :=
    hr.find?_eq h.plain (by decide) h.started (Store.brings_of_isJson (Value.isJson_text _))

lemma begun_of_ran (h : x.Ran t) :
    ∃ row, t.made.store.rows executionsTable = x.engine.store.rows executionsTable ++ [row] ∧
      x.Begun row := by
  obtain ⟨row, hrows, hrecorded⟩ := recorded_of_ran h
  obtain ⟨given, made, -, hmade, -, hfind⟩ := row_of_launch h.launched
  have hsame : made = row := by
    rw [hrows] at hmade
    exact (List.singleton_inj.mp (List.append_cancel_left hmade)).symm
  refine ⟨row, hrows, hrecorded, ?_⟩
  rw [← hsame, hfind _ (by decide) (by decide)]
  exact congrArg some (Store.brings_of_isJson (Value.isJson_text _))

lemma rows_of_fresh (h : x.Ran t) (ha : t.Avoids executionsTable) (hfresh : x.Fresh) :
    ∃ row, x.Begun row ∧ x.outcome.2.store.rows executionsTable =
      x.engine.store.rows executionsTable ++ [row] := by
  obtain ⟨row, hrows, hbegun⟩ := begun_of_ran h
  obtain ⟨-, hrevised⟩ := revises_of_ran h ha
  rw [id_of_ran h, brings_made h, hrows] at hrevised
  obtain ⟨old, news, heq, hold, hnew⟩ := forall₂_append_left hrevised
  have hstay : old = x.engine.store.rows executionsTable := by
    refine eq_of_forall₂ hold fun r hr r' hr' => hr'.other fun id hid => ?_
    rw [Set.mem_singleton_iff.mp hid]
    exact hfresh r hr
  cases hnew with
  | cons hrow hnil =>
    cases hnil
    refine ⟨_, hbegun.revised hrow, ?_⟩
    rw [← hstay]
    exact heq

lemma drawn_of_ran (h : x.Ran t) : x.engine.store.drawn < x.outcome.2.store.drawn := by
  obtain ⟨given, row, made, -, hi, -, hmade⟩ := launch_made h.launched
  obtain ⟨ss, hpasses⟩ : ∃ ss, Store.Passes (fun _ => True) t.made.store ss x.outcome.2.store :=
    passes_of_ran trivial h fun _ _ _ _ => Or.inr trivial
  have hstart : t.made.store = made := by rw [hmade]
  rw [hstart] at hpasses
  calc
    x.engine.store.drawn < x.engine.store.drawn + 1 := Nat.lt_succ_self _
    _ = made.drawn := (Store.drawn_insert hi).symm
    _ ≤ x.outcome.2.store.drawn := Store.drawn_le_of_passes hpasses

end Run.Start

/-! ### Annals -/

namespace Execution

/-- The table of executions holds the records of runs, in the order in which identifiers were drawn
for them. -/
structure Annals (xs : List Start) (s : Store) : Prop where
  records : List.Forall₂ Start.Begun xs (s.rows executionsTable)
  engines : ∀ x ∈ xs, x.engine.store.brings = s.brings ∧ x.engine.store.drawn < s.drawn
  order : xs.Pairwise fun x y => x.engine.store.drawn < y.engine.store.drawn

variable {xs : List Start} {x : Start} {s k : Store} {ss : List Store} {t : Trace}

lemma annals_of_empty (h : s.rows executionsTable = []) : Annals [] s where
  records := by
    rw [h]
    exact .nil
  engines := by simp
  order := .nil

lemma Annals.kept (h : Annals xs s) (hbrings : k.brings = s.brings)
    (hrows : k.rows executionsTable = s.rows executionsTable) (hdrawn : s.drawn ≤ k.drawn) :
    Annals xs k where
  records := by
    rw [hrows]
    exact h.records
  engines x hx := by
    obtain ⟨hb, hbefore⟩ := h.engines x hx
    exact ⟨hb.trans hbrings.symm, lt_of_lt_of_le hbefore hdrawn⟩
  order := h.order

lemma Annals.passes (h : Annals xs s) (hp : Store.Passes (· ≠ executionsTable) s ss k) :
    Annals xs k :=
  h.kept (Store.brings_of_passes hp).2 (Store.rows_of_passes hp).2 (Store.drawn_le_of_passes hp)

lemma Annals.marking (h : Annals xs s) (id : Value) (t : Calendar.Instant) :
    Annals xs (marking id t s).2 := by
  have hmove : Store.Moves (fun _ => True) s (Execution.marking id t s).2 :=
    .update s executionsTable (cancelPatch t) (runningFilters id) trivial
  have hbrings := Store.brings_of_moves hmove
  refine ⟨?_, fun x hx => ?_, h.order⟩
  · rcases hu : Execution.marking id t s with ⟨r | n, k⟩
    · rw [Store.rows_update_error hu executionsTable]
      exact h.records
    · rw [Store.rows_update hu executionsTable, if_pos rfl, List.forall₂_map_right_iff]
      have hboth := (List.forall₂_and_left _ _).mpr ⟨fun x hx => hx, h.records⟩
      refine hboth.imp fun x row hx => ?_
      obtain ⟨hmem, hbegun⟩ := hx
      split
      · have hown : row.get "id" = .text x.id := by
          rw [Fields.get, hbegun.id]
          rfl
        have hrevised := revised_overwrite (plain_cancelPatch t)
          (fun key hkey => find?_cancelPatch_of_notMem hkey t)
          ⟨x.id, Set.mem_singleton x.id, hown⟩ s
        rw [← (h.engines x hmem).1] at hrevised
        exact hbegun.revised hrevised
      · exact hbegun
  · obtain ⟨hb, hdrawn⟩ := h.engines x hx
    exact ⟨hb.trans hbrings.symm, lt_of_lt_of_le hdrawn (Store.drawn_le_of_moves hmove)⟩

lemma Annals.fresh (h : Annals xs x.engine.store) : x.Fresh := by
  intro row hrow hid
  obtain ⟨y, hy, hbegun⟩ := exists_of_forall₂ h.records.flip hrow
  have hsame : y.id = x.id := by
    rw [Fields.get, hbegun.id] at hid
    exact Value.text.inj hid
  have hdrawn : y.engine.store.drawn + 1 = x.engine.store.drawn + 1 :=
    Store.identifier_injective hsame
  have hbefore := (h.engines y hy).2
  omega

lemma Annals.nodup (h : Annals xs s) : ((s.rows executionsTable).map (·.get "id")).Nodup := by
  have hids : xs.map (fun x => Value.text x.id) = (s.rows executionsTable).map (·.get "id") := by
    rw [← List.forall₂_eq_eq_eq, List.forall₂_map_left_iff, List.forall₂_map_right_iff]
    refine h.records.imp fun x row hbegun => ?_
    rw [Fields.get, hbegun.id]
    rfl
  rw [← hids]
  refine List.pairwise_map.mpr (h.order.imp fun {x y} hxy hsame => ?_)
  have hdrawn : x.engine.store.drawn + 1 = y.engine.store.drawn + 1 :=
    Store.identifier_injective (Value.text.inj hsame)
  omega

lemma Annals.snoc (h : Annals xs x.engine.store) (ht : x.Ran t) (ha : t.Avoids executionsTable) :
    Annals (xs ++ [x]) x.outcome.2.store := by
  obtain ⟨row, hbegun, hrows⟩ := Start.rows_of_fresh ht ha h.fresh
  have hbrings : x.outcome.2.store.brings = x.engine.store.brings := (Start.rows_of_ran ht ha).1
  have hdrawn := Start.drawn_of_ran ht
  refine ⟨?_, fun y hy => ?_, ?_⟩
  · rw [hrows]
    exact List.rel_append h.records (.cons hbegun .nil)
  · rcases List.mem_append.mp hy with hy | hy
    · obtain ⟨hb, hbefore⟩ := h.engines y hy
      exact ⟨hb.trans hbrings.symm, hbefore.trans hdrawn⟩
    · rw [List.mem_singleton.mp hy]
      exact ⟨hbrings.symm, hdrawn⟩
  · refine List.pairwise_append.mpr ⟨h.order, List.pairwise_singleton _ _, fun y hy z hz => ?_⟩
    rw [List.mem_singleton.mp hz]
    exact (h.engines y hy).2

lemma Annals.unlaunched (h : Annals xs x.engine.store) (hx : ∀ t, ¬x.Ran t) :
    Annals xs x.outcome.2.store := by
  rcases store_of_unlaunched hx with hs | ⟨given, r, -, hi⟩
  · have hs : x.outcome.2.store = x.engine.store := hs
    rw [hs]
    exact h
  · have hs : x.engine.store.insert x.engine.clock executionsTable
        (startRow x.definition x.event given x.retryCount x.engine.clock) =
          (.error r, x.outcome.2.store) := hi
    have hmove : Store.Moves (fun _ => True) x.engine.store (x.engine.store.insert x.engine.clock
        executionsTable (startRow x.definition x.event given x.retryCount x.engine.clock)).2 :=
      .insert _ _ _ _ trivial
    rw [hs] at hmove
    exact h.kept (Store.brings_of_moves hmove) (Store.rows_insert_error hs executionsTable)
      (Store.drawn_le_of_moves hmove)

end Execution

namespace Session

open Execution

variable {calls : List Call} {e : Engine}

/-- **The table of executions of a session.** From an empty table on, whatever the calls of a
session are, it holds the records of runs that they make, in the order in which they were made. -/
lemma annals_after (hempty : e.store.rows executionsTable = [])
    (havoids : ∀ x ∈ starts calls e, ∀ t, x.Ran t → t.Avoids executionsTable) :
    ∃ xs, xs ⊆ starts calls e ∧ Annals xs (after calls e).store := by
  let P (s : Store) : Prop := ∃ xs, xs ⊆ starts calls e ∧ Annals xs s
  have hP : Endures P := by
    refine ⟨?_, ?_⟩
    · rintro s k ss ⟨xs, hsub, h⟩ hp
      exact ⟨xs, hsub, h.passes hp⟩
    · rintro s id t ⟨xs, hsub, h⟩
      exact ⟨xs, hsub, h.marking id t⟩
  have hstart : P e.store := ⟨[], List.nil_subset _, annals_of_empty hempty⟩
  refine endures_after hP hstart fun x hx hkept => ?_
  obtain ⟨xs, hsub, h⟩ := hkept
  by_cases hran : ∃ t, x.Ran t
  · obtain ⟨t, ht⟩ := hran
    exact ⟨xs ++ [x], List.append_subset.mpr ⟨hsub, List.cons_subset.mpr ⟨hx, List.nil_subset _⟩⟩,
      h.snoc ht (havoids x hx t ht)⟩
  · exact ⟨xs, hsub, h.unlaunched fun t ht => hran ⟨t, ht⟩⟩

end Session

end CrmAutomation

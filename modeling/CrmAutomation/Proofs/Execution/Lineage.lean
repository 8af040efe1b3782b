import CrmAutomation.Proofs.Event.Firing
import CrmAutomation.Proofs.Execution.Underway
import CrmAutomation.Proofs.Node.Effect
import Mathlib.Data.List.Nodup

/-!
Where the records of runs come from.

A run starts afresh, with no retries before it, or it retries an earlier run: the same workflow for
the same event and payload, with one retry more. The table of executions is a ledger of such runs,
one record for each in the order in which they were made. What runs write to their records, and
what cancelling writes, leaves in them what the runs started from, so the ledger stays true.
-/

namespace CrmAutomation.Execution

open EngineM Record Run

/-! ### Definitions -/

/-- One of the rows holds the definition. -/
def Defined (defs : List Row) (d : Definition) : Prop :=
  ∃ row ∈ defs, Definition.ofRow row = .ok (.ok d)

/-- No two rows have the same id. -/
def Distinct (defs : List Row) : Prop := (defs.map (·.get "id")).Nodup

instance (defs : List Row) : Decidable (Distinct defs) :=
  inferInstanceAs (Decidable (defs.map (·.get "id")).Nodup)

variable {defs : List Row} {d d' : Definition} {brings : Value → Value} {xs ys : List Start}
  {x y : Start} {s k : Store} {ss : List Store} {t : Trace} {row : Row} {patch : Fields}
  {fs : List Filter}

lemma definition_unique (hu : Distinct defs) (h : Defined defs d) (h' : Defined defs d')
    (hid : d.id = d'.id) : d = d' := by
  obtain ⟨row, hrow, hread⟩ := h
  obtain ⟨row', hrow', hread'⟩ := h'
  have hown : row.get "id" = row'.get "id" := by
    rw [(Definition.ofRow_eq_ok.mp hread).id, (Definition.ofRow_eq_ok.mp hread').id, hid]
  have hsame : row = row' := List.inj_on_of_nodup_map hu hrow hrow' hown
  rw [hsame, hread'] at hread
  cases hread
  rfl

/-! ### Runs -/

/-- A run retries another one. It starts from the payload that the record of the other brings
back. -/
structure Retries (brings : Value → Value) (y x : Start) : Prop where
  definition : x.definition = y.definition
  event : x.event = y.event
  payload : ∃ given, Payload.fields y.payload = .ok given ∧ x.payload = brings (.object given)
  count : ∃ c : ℕ, y.retryCount = .int c ∧ x.retryCount = .int (c + 1)

/-- A run that may be made after others: it starts afresh or retries one of them, and there are no
more retries than its definition allows. -/
structure Follows (defs : List Row) (brings : Value → Value) (xs : List Start) (x : Start) :
    Prop where
  defined : Defined defs x.definition
  event : ∃ name, name ≠ "" ∧ x.event = .text name
  count : ∃ c : ℕ, c ≤ x.definition.maxRetries ∧ x.retryCount = .int c
  origin : x.retryCount = .int 0 ∨ ∃ y ∈ xs, Retries brings y x

/-- Runs of which each follows those before it. -/
inductive Lineage (defs : List Row) (brings : Value → Value) : List Start → Prop
  | nil : Lineage defs brings []
  | snoc {zs : List Start} {z : Start} (h : Lineage defs brings zs)
      (hz : Follows defs brings zs z) : Lineage defs brings (zs ++ [z])

lemma follows_of_lineage (h : Lineage defs brings (xs ++ x :: ys)) : Follows defs brings xs x := by
  generalize hall : xs ++ x :: ys = all at h
  induction h generalizing ys with
  | nil => simp at hall
  | @snoc zs z _ hz ih =>
    rcases List.eq_nil_or_concat ys with rfl | ⟨ys, y, rfl⟩
    · obtain ⟨rfl, hlast⟩ := List.append_inj' hall rfl
      cases hlast
      exact hz
    · have hcut : (xs ++ x :: ys) ++ [y] = zs ++ [z] := by
        rw [← hall, List.concat_eq_append, List.append_assoc, List.cons_append]
      exact ih (List.append_inj' hcut rfl).1

/-! ### The ledger -/

/-- The store holds the definitions, and one record of each run in the table of executions. -/
structure Ledger (defs : List Row) (brings : Value → Value) (xs : List Start) (s : Store) :
    Prop where
  restores : s.brings = brings
  definitions : s.rows definitionsTable = defs
  records : List.Forall₂ Start.Recorded xs (s.rows executionsTable)
  engines : ∀ x ∈ xs, x.engine.store.brings = brings ∧ x.engine.store.drawn < s.drawn
  lineage : Lineage defs brings xs

/-- Tables that have no part in a ledger. -/
def Aside (table : String) : Prop := table ≠ executionsTable ∧ table ≠ definitionsTable

instance : DecidablePred Aside := fun _ => instDecidableAnd

lemma ledger_of_kept (h : Ledger defs brings xs s) (hbrings : k.brings = s.brings)
    (hdefs : k.rows definitionsTable = s.rows definitionsTable)
    (hexec : k.rows executionsTable = s.rows executionsTable) (hdrawn : s.drawn ≤ k.drawn) :
    Ledger defs brings xs k where
  restores := hbrings.trans h.restores
  definitions := hdefs.trans h.definitions
  records := by
    rw [hexec]
    exact h.records
  engines x hx := by
    obtain ⟨hb, hbefore⟩ := h.engines x hx
    exact ⟨hb, lt_of_lt_of_le hbefore hdrawn⟩
  lineage := h.lineage

lemma ledger_of_passes (h : Ledger defs brings xs s) (hp : Store.Passes Aside s ss k) :
    Ledger defs brings xs k :=
  ledger_of_kept h (Store.brings_of_passes hp).2
    (Store.rows_of_passes (hp.mono fun _ ha => ha.2)).2
    (Store.rows_of_passes (hp.mono fun _ ha => ha.1)).2 (Store.drawn_le_of_passes hp)

lemma ledger_of_reads (h : Ledger defs brings xs s) (hr : s.Reads k) :
    Ledger defs brings xs k := by
  obtain ⟨ss, hss⟩ := hr
  exact ledger_of_passes h (hss.mono fun _ hw => hw.elim)

lemma ledger_of_update (h : Ledger defs brings xs s) (hp : patch.Plain)
    (hw : ∀ key, key ∉ written → patch.find? key = none) (fs : List Filter) :
    Ledger defs brings xs (s.update executionsTable patch fs).2 := by
  have hmove : Store.Moves (· ≠ definitionsTable) s (s.update executionsTable patch fs).2 :=
    .update s executionsTable patch fs (by decide)
  refine ⟨(Store.brings_of_moves hmove).trans h.restores,
    (Store.rows_of_moves hmove).trans h.definitions, ?_, fun x hx => ?_, h.lineage⟩
  · rcases hu : s.update executionsTable patch fs with ⟨r | n, k⟩
    · rw [Store.rows_update_error hu executionsTable]
      exact h.records
    · rw [Store.rows_update hu executionsTable, if_pos rfl, List.forall₂_map_right_iff]
      have hboth := (List.forall₂_and_left _ _).mpr ⟨fun x hx => hx, h.records⟩
      refine hboth.imp fun x row hx => ?_
      obtain ⟨hmem, hrecord⟩ := hx
      split
      · have hown : row.get "id" = .text x.id := by
          rw [Fields.get, hrecord.id]
          rfl
        have hrevised := revised_overwrite hp hw ⟨x.id, Set.mem_singleton x.id, hown⟩ s
        rw [h.restores, ← (h.engines x hmem).1] at hrevised
        exact hrecord.revised hrevised
      · exact hrecord
  · obtain ⟨hb, hdrawn⟩ := h.engines x hx
    exact ⟨hb, lt_of_lt_of_le hdrawn (Store.drawn_le_of_moves hmove)⟩

lemma recorded_of_mem (h : Ledger defs brings xs s) (hrow : row ∈ s.rows executionsTable) :
    ∃ x ∈ xs, x.Recorded row := by
  have hflip : List.Forall₂ (fun row x => Start.Recorded x row) (s.rows executionsTable) xs :=
    h.records.flip
  exact exists_of_forall₂ hflip hrow

lemma fresh_of_ledger (h : Ledger defs brings xs x.engine.store) : x.Fresh := by
  intro row hrow hid
  obtain ⟨y, hy, hrecord⟩ := recorded_of_mem h hrow
  have hsame : y.id = x.id := by
    rw [Fields.get, hrecord.id] at hid
    exact Value.text.inj hid
  have hdrawn : y.engine.store.drawn + 1 = x.engine.store.drawn + 1 :=
    Store.identifier_injective hsame
  have hbefore := (h.engines y hy).2
  omega

lemma ledger_of_empty (h : s.rows executionsTable = []) :
    Ledger (s.rows definitionsTable) s.brings [] s where
  restores := rfl
  definitions := rfl
  records := by
    rw [h]
    exact .nil
  engines := by simp
  lineage := .nil

/-! ### Runs that are made -/

lemma leaves_of_ran (ht : x.Ran t) (ha : t.Avoids definitionsTable) :
    x.outcome.2.store.rows definitionsTable = x.engine.store.rows definitionsTable ∧
      x.engine.store.drawn < x.outcome.2.store.drawn := by
  obtain ⟨given, row, made, -, hi, -, hmade⟩ := launch_made ht.launched
  have hexec : executionsTable ≠ definitionsTable := by decide
  obtain ⟨ss, hpasses⟩ := passes_of_ran hexec ht (within_of_avoids ha)
  have hstart : t.made.store = made := by rw [hmade]
  rw [hstart] at hpasses
  constructor
  · calc
      x.outcome.2.store.rows definitionsTable = made.rows definitionsTable :=
        (Store.rows_of_passes hpasses).2
      _ = x.engine.store.rows definitionsTable := by
        rw [(Store.rows_insert hi definitionsTable).2, if_neg hexec]
  · calc
      x.engine.store.drawn < x.engine.store.drawn + 1 := Nat.lt_succ_self _
      _ = made.drawn := (Store.drawn_insert hi).symm
      _ ≤ x.outcome.2.store.drawn := Store.drawn_le_of_passes hpasses

/-- **A run that may be made adds its record**, and leaves every other row as it is. -/
lemma ledger_of_ran (h : Ledger defs brings xs x.engine.store) (hx : Follows defs brings xs x)
    (ht : x.Ran t) (hexec : t.Avoids executionsTable) (hdefs : t.Avoids definitionsTable) :
    Ledger defs brings (xs ++ [x]) x.outcome.2.store ∧
      ∃ row, x.Recorded row ∧ x.outcome.2.store.rows executionsTable =
        x.engine.store.rows executionsTable ++ [row] := by
  have hfresh : x.Fresh := fresh_of_ledger h
  obtain ⟨hbrings, old, row, hrows, hold, hrow⟩ := Start.rows_of_ran ht hexec
  obtain ⟨hdefinitions, hdrawn⟩ := leaves_of_ran ht hdefs
  have hstay : old = x.engine.store.rows executionsTable := by
    refine eq_of_forall₂ hold fun r hr r' hrevised => hrevised.other fun id hid => ?_
    rw [Set.mem_singleton_iff.mp hid]
    exact hfresh r hr
  rw [hstay] at hrows
  refine ⟨⟨hbrings.trans h.restores, hdefinitions.trans h.definitions, ?_, ?_,
    h.lineage.snoc hx⟩, row, hrow, hrows⟩
  · rw [hrows]
    exact List.rel_append h.records (.cons hrow .nil)
  · intro y hy
    rcases List.mem_append.mp hy with hy | hy
    · obtain ⟨hb, hbefore⟩ := h.engines y hy
      exact ⟨hb, hbefore.trans hdrawn⟩
    · rw [List.mem_singleton.mp hy]
      exact ⟨h.restores, hdrawn⟩

lemma ledger_of_unlaunched (h : Ledger defs brings xs x.engine.store) (hx : ∀ t, ¬x.Ran t) :
    Ledger defs brings xs x.outcome.2.store ∧
      x.engine.store.SameRows x.outcome.2.store := by
  rcases store_of_unlaunched hx with hs | ⟨given, r, -, hi⟩
  · have hs : x.outcome.2.store = x.engine.store := hs
    rw [hs]
    exact ⟨h, fun _ => rfl⟩
  · have hs : x.engine.store.insert x.engine.clock executionsTable
        (startRow x.definition x.event given x.retryCount x.engine.clock) =
          (.error r, x.outcome.2.store) := hi
    have hmove : Store.Moves (fun _ => True) x.engine.store x.outcome.2.store := by
      have hmove : Store.Moves (fun _ => True) x.engine.store _ :=
        .insert x.engine.store x.engine.clock executionsTable
          (startRow x.definition x.event given x.retryCount x.engine.clock) trivial
      rw [hs] at hmove
      exact hmove
    have hsame : x.engine.store.SameRows x.outcome.2.store :=
      fun table => Store.rows_insert_error hs table
    exact ⟨ledger_of_kept h (Store.brings_of_moves hmove) (hsame definitionsTable)
      (hsame executionsTable) (Store.drawn_le_of_moves hmove), hsame⟩

/-! ### What a ledger says of its rows -/

/-- A row tells of an attempt that the other one retries, with so many retries before it. -/
structure Attempt (count : ℕ) (row row' : Row) : Prop where
  workflow : row.find? "workflow_id" = row'.find? "workflow_id"
  event : row.find? "trigger_event" = row'.find? "trigger_event"
  payload : row.find? "trigger_data" = row'.find? "trigger_data"
  count : row.find? "retry_count" = some (.int count)

/-- A row is accounted for by the definitions and the rows before it: it counts no more retries than
the definition of its workflow allows, and unless it counts none it retries a row before it. -/
def Accounted (defs before : List Row) (row : Row) : Prop :=
  ∃ d, ∃ c : ℕ, Defined defs d ∧ row.find? "workflow_id" = some (.text d.id) ∧
    row.find? "retry_count" = some (.int c) ∧ c ≤ d.maxRetries ∧
    (0 < c → ∃ earlier ∈ before, Attempt (c - 1) earlier row)

lemma attempt_of_retries {earlier : Row} {c : ℕ} (hs : s.brings = brings)
    (hx : x.engine.store.brings = brings) (hy : y.engine.store.brings = brings)
    (hxr : x.Recorded row) (hyr : y.Recorded earlier) (h : Retries brings y x)
    (hc : x.retryCount = .int c) : Attempt (c - 1) earlier row := by
  obtain ⟨given, hgiven, hpayload⟩ := h.payload
  obtain ⟨c', hyc, hxc⟩ := h.count
  refine ⟨?_, ?_, ?_, ?_⟩
  · rw [hyr.workflow, hxr.workflow, h.definition]
  · rw [hyr.event, hxr.event, h.event, hx, hy]
  · -- the payload that a record brings back is an object, and is brought back as it is
    obtain ⟨given', hgiven', hdata'⟩ := hyr.payload
    obtain ⟨again, hagain, hdata⟩ := hxr.payload
    rw [hgiven] at hgiven'
    cases hgiven'
    have hobject : brings (.object given) = .object (s.keep given) := by
      rw [← hs]
      exact Store.brings_object s given
    rw [hpayload, hobject, Trigger.fields_object] at hagain
    cases hagain
    rw [hdata, hdata', hx, hy, ← hobject, ← hs, Store.brings_brings]
  · have hsame : (c : ℤ) = c' + 1 := by
      rw [hxc] at hc
      exact (Value.int.inj hc).symm
    have hless : ((c - 1 : ℕ) : ℤ) = c' := by omega
    rw [hyr.retryCount, hyc, hy, hless, ← hs]
    exact congrArg some (Store.brings_of_isJson rfl)

/-- **Every row of a ledger is accounted for.** -/
lemma accounted_of_ledger (h : Ledger defs brings xs s) {before later : List Row}
    (hrows : s.rows executionsTable = before ++ row :: later) : Accounted defs before row := by
  have hrecords := h.records
  rw [hrows] at hrecords
  obtain ⟨ys, zs, hys, hbefore, hrest⟩ := forall₂_append_left hrecords.flip
  cases hrest with
  | @cons _ x _ zs hx _ =>
    have hlineage := h.lineage
    rw [hys] at hlineage
    have hfollows := follows_of_lineage hlineage
    have hmem : x ∈ xs := by
      rw [hys]
      simp
    obtain ⟨hxb, -⟩ := h.engines x hmem
    obtain ⟨c, hle, hc⟩ := hfollows.count
    refine ⟨x.definition, c, hfollows.defined, hx.workflow, ?_, hle, fun hpos => ?_⟩
    · rw [hx.retryCount, hc]
      exact congrArg some (Store.brings_of_isJson rfl)
    · rcases hfollows.origin with hzero | ⟨y, hy, hretries⟩
      · rw [hc] at hzero
        have hnone : (c : ℤ) = 0 := Value.int.inj hzero
        omega
      · obtain ⟨earlier, hearlier, hyr⟩ := exists_of_forall₂ hbefore.flip hy
        have hymem : y ∈ xs := by
          rw [hys]
          exact List.mem_append_left _ hy
        obtain ⟨hyb, -⟩ := h.engines y hymem
        exact ⟨earlier, hearlier, attempt_of_retries h.restores hxb hyb hx hyr hretries hc⟩

end CrmAutomation.Execution

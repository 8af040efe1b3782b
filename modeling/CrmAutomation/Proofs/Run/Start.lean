import CrmAutomation.Proofs.Run.Revision

/-!
Runs that are to be made, and the records that they leave.
-/

namespace CrmAutomation

open EngineM Record

namespace Run

/-- A run that is to be made, and the engine that makes it. -/
structure Start where
  definition : Definition
  event : Value
  payload : Value
  retryCount : Value
  engine : Engine

namespace Start

/-- What comes of the run, and the engine after it. -/
def outcome (x : Start) : Except Failure RunResult × Engine :=
  (once x.definition x.event x.payload x.retryCount).perform x.engine

/-- The identifier that is drawn for the run. -/
def id (x : Start) : String := Store.identifier (x.engine.store.drawn + 1)

/-- The identifiers that are drawn for runs. -/
def ids (xs : List Start) : Set String := {id | ∃ x ∈ xs, x.id = id}

/-- The run makes its record and has the trace. -/
def Ran (x : Start) (t : Trace) : Prop :=
  Run.Ran x.definition x.event x.payload x.retryCount x.engine t

/-- The payload of the run can be read, and the store takes its record. -/
def Inserts (x : Start) : Prop :=
  ∃ given stored s, Payload.fields x.payload = .ok given ∧
    x.engine.store.insert x.engine.clock executionsTable
      (startRow x.definition x.event given x.retryCount x.engine.clock) = (.ok stored, s)

lemma inserts_iff {x : Start} : x.Inserts ↔ ∃ t, x.Ran t := by
  constructor
  · rintro ⟨given, stored, s, hp, hi⟩
    have hlaunch : (launch x.definition x.event x.payload x.retryCount).perform x.engine = _ :=
      launch_of_fields hp
    rw [hi] at hlaunch
    obtain ⟨t, ht, -, -⟩ := exists_ran hlaunch
    exact ⟨t, ht⟩
  · rintro ⟨t, ht⟩
    obtain ⟨given, stored, s, hp, hi, -, -⟩ := launch_made ht.launched
    exact ⟨given, stored, s, hp, hi⟩

lemma outcome_of_ran {x : Start} {t : Trace} (h : x.Ran t) : x.outcome = t.outcome x.definition :=
  once_of_ran h

/-- The row is the record of the run, with what it starts from as the store brings it back. -/
structure Recorded (x : Start) (row : Row) : Prop extends Records x.id row where
  workflow : row.find? "workflow_id" = some (.text x.definition.id)
  event : row.find? "trigger_event" = some (x.engine.store.brings x.event)
  payload : ∃ given, Payload.fields x.payload = .ok given ∧
    row.find? "trigger_data" = some (x.engine.store.brings (.object given))
  retryCount : row.find? "retry_count" = some (x.engine.store.brings x.retryCount)

variable {x : Start} {t : Trace} {own : Set String} {row row' : Row} {result : RunResult}

lemma id_of_ran (h : x.Ran t) : t.first.id = x.id := id_of_launch h.launched

lemma execution_of_outcome (h : x.Ran t) (ho : x.outcome.1 = .ok result) :
    result.execution = x.id := by
  obtain ⟨closed, -, rfl, -⟩ := returned_of_once h (Prod.ext ho rfl)
  exact id_of_ran h

lemma Recorded.revised (h : x.Recorded row) (hr : Revised own x.engine.store.brings row row') :
    x.Recorded row' where
  plain := hr.plain h.plain
  id := hr.find?_eq h.plain (by decide) h.id (Store.brings_of_isJson (Value.isJson_text _))
  workflow :=
    hr.find?_eq h.plain (by decide) h.workflow (Store.brings_of_isJson (Value.isJson_text _))
  event := hr.find?_eq h.plain (by decide) h.event (Store.brings_brings _ _)
  payload := by
    obtain ⟨given, hp, hd⟩ := h.payload
    exact ⟨given, hp, hr.find?_eq h.plain (by decide) hd (Store.brings_brings _ _)⟩
  retryCount := hr.find?_eq h.plain (by decide) h.retryCount (Store.brings_brings _ _)

lemma recorded_of_ran (h : x.Ran t) :
    ∃ row, t.made.store.rows executionsTable = x.engine.store.rows executionsTable ++ [row] ∧
      x.Recorded row := by
  obtain ⟨given, row, hp, hrows, hrecord, hfind⟩ := row_of_launch h.launched
  rw [id_of_ran h] at hrecord
  refine ⟨row, hrows, hrecord, ?_, ?_, ⟨given, hp, ?_⟩, ?_⟩
  · rw [hfind _ (by decide) (by decide)]
    exact congrArg some (Store.brings_of_isJson (Value.isJson_text _))
  · rw [hfind _ (by decide) (by decide)]
    rfl
  · rw [hfind _ (by decide) (by decide)]
    rfl
  · rw [hfind _ (by decide) (by decide)]
    rfl

lemma brings_made (h : x.Ran t) : t.made.store.brings = x.engine.store.brings := by
  obtain ⟨row, hs⟩ := store_of_launch h.launched
  have hm : Store.Moves (fun _ => True) x.engine.store t.made.store := by
    rw [hs]
    exact .insert _ _ _ row trivial
  exact Store.brings_of_moves hm

lemma rows_of_ran (h : x.Ran t) (ha : t.Avoids executionsTable) :
    x.outcome.2.store.brings = x.engine.store.brings ∧
      ∃ old row, x.outcome.2.store.rows executionsTable = old ++ [row] ∧
        List.Forall₂ (Revised {x.id} x.engine.store.brings)
          (x.engine.store.rows executionsTable) old ∧ x.Recorded row := by
  obtain ⟨row, hrows, hrecorded⟩ := recorded_of_ran h
  obtain ⟨hbrings, hrevised⟩ := revises_of_ran h ha
  rw [id_of_ran h, brings_made h, hrows] at hrevised
  refine ⟨hbrings.trans (brings_made h), ?_⟩
  obtain ⟨old, news, heq, hold, hnew⟩ := forall₂_append_left hrevised
  cases hnew with
  | cons hrow hnil =>
    cases hnil
    exact ⟨old, _, heq, hold, hrecorded.revised hrow⟩

end Start

end Run

end CrmAutomation

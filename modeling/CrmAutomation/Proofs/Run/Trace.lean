import CrmAutomation.Proofs.Run.Launch
import CrmAutomation.Proofs.Run.Walk

/-!
The trace of a run: its record, its walk and its end.

A run that makes its record has exactly one trace, and the trace decides what the run returns.
-/

namespace CrmAutomation

open EngineM Record

namespace Run

/-- A run that made its record, and how its walk went. -/
structure Trace where
  /-- The run and the engine when the record is made. -/
  first : Run
  made : Engine
  visits : List Visit
  ending : Ending
  /-- The run and the engine when the walk ends. -/
  last : Run
  walked : Engine

namespace Trace

/-- The engine as the walk finds it. -/
def begun (t : Trace) : Engine :=
  { t.made with run := some t.first.identity }.noting .info "Starting workflow execution"

def steps (t : Trace) : List Step := t.last.steps

/-- The nodes that the run came to: those it executed, and the one that failed outside of its
result. -/
def nodes (t : Trace) : List Node :=
  t.visits.map Visit.node ++ match t.ending with
    | .raised n _ => [n]
    | .finished | .stopped _ => []

def Stopped (t : Trace) : Prop := ∃ error, t.ending = .stopped error

def error (d : Definition) (t : Trace) : Option Value :=
  if d.flow.starts.isEmpty then some emptyFlowError
  else match t.ending with
    | .stopped error => some error
    | .finished | .raised _ _ => none

def result (d : Definition) (t : Trace) : RunResult := resultOf t.first.id (t.error d)

/-- The state that the record of the run ends in. -/
def status (d : Definition) (t : Trace) : RunStatus := (t.result d).status.getD .completed

end Trace

/-- The run of a definition for an event with a payload makes its record and has the trace. -/
structure Ran (d : Definition) (event payload retryCount : Value) (e : Engine) (t : Trace) :
    Prop where
  launched : (launch d event payload retryCount).perform e = (.ok (.ok t.first), t.made)
  walked : Walks d [] d.flow.starts t.first t.begun t.visits t.ending t.last t.walked

/-- The run with the trace comes to its end: its nodes yield results, and its outcome is written
or refused by a fault of the store. -/
structure Returned (d : Definition) (t : Trace) (closed : Engine) : Prop where
  yields : ∀ n f, t.ending ≠ .raised n f
  finalized : (finalize t.last (t.status d) (t.error d)).perform t.walked = (.ok (), closed)

variable {d : Definition} {event payload retryCount : Value} {e e' k : Engine} {t : Trace}
  {r : Run} {result : RunResult}

/-! ### Traces -/

lemma starts_subset (f : Flow) : ∀ n ∈ f.starts, n ∈ f.nodes := by
  intro n hn
  unfold Flow.starts at hn
  dsimp only at hn
  split at hn
  · exact List.mem_of_mem_take hn
  · exact (List.mem_filter.mp hn).1

/-- **Every walk ends**: a run that makes its record has a trace. -/
theorem exists_ran
    (h : (launch d event payload retryCount).perform e = (.ok (.ok r), k)) :
    ∃ t, Ran d event payload retryCount e t ∧ t.first = r ∧ t.made = k := by
  let begun : Engine := { k with run := some r.identity }.noting .info "Starting workflow execution"
  obtain ⟨vs, ending, r', e', hw⟩ := exists_walks d [] d.flow.starts r begun (starts_subset d.flow)
  exact ⟨⟨r, k, vs, ending, r', e'⟩, ⟨h, hw⟩, rfl, rfl⟩

lemma ran_unique {t' : Trace} (h : Ran d event payload retryCount e t)
    (h' : Ran d event payload retryCount e t') : t = t' := by
  obtain ⟨first, made, vs, ending, last, walked⟩ := t
  obtain ⟨first', made', vs', ending', last', walked'⟩ := t'
  have hl := h.launched.symm.trans h'.launched
  cases hl
  obtain ⟨hvs, he, hr, hk⟩ := walks_unique h.walked h'.walked
  cases hvs
  cases he
  cases hr
  cases hk
  rfl

/-- The trace of a run whose walk takes at most so many steps, computed. -/
def trace? (steps : ℕ) (d : Definition) (event payload retryCount : Value) (e : Engine) :
    Option Trace :=
  match (launch d event payload retryCount).perform e with
  | (.ok (.ok first), made) =>
    let begun := { made with run := some first.identity }.noting .info "Starting workflow execution"
    (observe d steps [] d.flow.starts first begun).map fun (visits, ending, last, walked) =>
      ⟨first, made, visits, ending, last, walked⟩
  | _ => none

lemma ran_of_trace? {steps : ℕ} (h : trace? steps d event payload retryCount e = some t) :
    Ran d event payload retryCount e t := by
  unfold trace? at h
  split at h
  · rename_i hl
    obtain ⟨⟨vs, ending, last, walked⟩, hw, rfl⟩ := Option.map_eq_some_iff.mp h
    exact ⟨hl, walks_of_observe hw⟩
  · cases h

lemma unseen_nil (d : Definition) : unseen d [] = d.flow.nodes :=
  List.filter_eq_self.mpr fun n _ => by simp

lemma walk_of_ran (h : Ran d event payload retryCount e t) :
    ((walk d).run t.first).perform t.begun = (t.ending.outcome t.last, t.walked) := by
  have hw := walk_of_walks h.walked (starts_subset d.flow)
  rw [unseen_nil] at hw
  exact hw

lemma steps_eq (h : Ran d event payload retryCount e t) : t.steps = t.visits.map Visit.step := by
  unfold Trace.steps
  rw [steps_of_walks h.walked, steps_of_launch h.launched, List.nil_append]

/-! ### What a run returns -/

lemma complete_of_ran (h : Ran d event payload retryCount e t)
    (hy : ∀ n f, t.ending ≠ .raised n f) :
    (complete d t.first).perform { t.made with run := some t.first.identity } =
      (do finalize t.last (t.status d) (t.error d); pure (t.result d)).perform t.walked := by
  unfold complete
  rw [perform_bind_of_ok (perform_log _ _ _)]
  show EngineM.perform _ t.begun = _
  unfold Trace.status Trace.result Trace.error
  have hw := h.walked
  have hc := walk_of_ran h
  by_cases hs : d.flow.starts.isEmpty = true
  · rw [List.isEmpty_iff.mp hs] at hw
    generalize hb : t.begun = b at hw
    obtain ⟨first, made, vs, ending, last, walked⟩ := t
    cases hw
    rw [if_pos hs, if_pos hs]
    rfl
  · rw [if_neg hs, if_neg hs]
    rcases he : t.ending with _ | error | ⟨n, f⟩
    · rw [he] at hc
      rw [perform_bind_of_ok hc, ← id_of_walks hw]
    · rw [he] at hc
      rw [perform_bind_of_ok hc, ← id_of_walks hw]
    · exact absurd he (hy n f)

lemma complete_of_raised {n : Node} {f : Failure} (h : Ran d event payload retryCount e t)
    (hr : t.ending = .raised n f) :
    (complete d t.first).perform { t.made with run := some t.first.identity } =
      (.error f, t.walked) := by
  unfold complete
  rw [perform_bind_of_ok (perform_log _ _ _)]
  have hc := walk_of_ran h
  rw [hr] at hc
  by_cases hs : d.flow.starts.isEmpty = true
  · have hw := h.walked
    rw [List.isEmpty_iff.mp hs, hr] at hw
    generalize t.visits = vs at hw
    cases hw
  · rw [if_neg hs]
    exact perform_bind_of_error hc

/-- A run that returns either could not make its record or has a trace that comes to its end. -/
theorem once_ok_iff :
    (once d event payload retryCount).perform e = (.ok result, e') ↔
      (∃ f k, (launch d event payload retryCount).perform e = (.ok (.error f), k) ∧
        result = { success := false, execution := "", error := some (.text f.message) } ∧
        e' = k.noting .error "Failed to create execution record") ∨
      ∃ t closed, Ran d event payload retryCount e t ∧ Returned d t closed ∧
        result = t.result d ∧ e' = { closed with run := t.made.run } := by
  unfold once
  rw [perform_bind_ok]
  constructor
  · rintro ⟨f | r, k, hl, h⟩
    · rw [perform_bind_of_ok (perform_log _ _ _)] at h
      cases h
      exact Or.inl ⟨f, k, hl, rfl, rfl⟩
    · obtain ⟨t, ht, rfl, rfl⟩ := exists_ran hl
      have hy : ∀ n f, t.ending ≠ .raised n f := by
        intro n f hr
        rw [perform_within, complete_of_raised ht hr] at h
        cases h
      rw [perform_within, complete_of_ran ht hy] at h
      rcases hf : (finalize t.last (t.status d) (t.error d)).perform t.walked with ⟨f | ⟨⟩, closed⟩
      · rw [perform_bind_of_error hf] at h
        cases h
      · rw [perform_bind_of_ok hf] at h
        cases h
        exact Or.inr ⟨t, closed, ht, ⟨hy, hf⟩, rfl, rfl⟩
  · rintro (⟨f, k, hl, rfl, rfl⟩ | ⟨t, closed, ht, hr, rfl, rfl⟩)
    · exact ⟨.error f, k, hl, rfl⟩
    · refine ⟨.ok t.first, t.made, ht.launched, ?_⟩
      show (within t.first.identity (complete d t.first)).perform t.made = _
      rw [perform_within, complete_of_ran ht hr.yields, perform_bind_of_ok hr.finalized]
      rfl

lemma once_of_refused {f : Store.Fault}
    (h : (launch d event payload retryCount).perform e = (.ok (.error f), k)) :
    (once d event payload retryCount).perform e =
      (.ok { success := false, execution := "", error := some (.text f.message) },
        k.noting .error "Failed to create execution record") :=
  once_ok_iff.mpr (Or.inl ⟨f, k, h, rfl, rfl⟩)

lemma once_of_returned {closed : Engine} (ht : Ran d event payload retryCount e t)
    (hr : Returned d t closed) :
    (once d event payload retryCount).perform e =
      (.ok (t.result d), { closed with run := t.made.run }) :=
  once_ok_iff.mpr (Or.inr ⟨t, closed, ht, hr, rfl, rfl⟩)

lemma returned_of_once (ht : Ran d event payload retryCount e t)
    (h : (once d event payload retryCount).perform e = (.ok result, e')) :
    ∃ closed, Returned d t closed ∧ result = t.result d ∧
      e' = { closed with run := t.made.run } := by
  rcases once_ok_iff.mp h with ⟨f, k, hl, -, -⟩ | ⟨t', closed, ht', hr, hres, he⟩
  · rw [ht.launched] at hl
    cases hl
  · cases ran_unique ht ht'
    exact ⟨closed, hr, hres, he⟩

lemma execution_ne_empty (ht : Ran d event payload retryCount e t) :
    (t.result d).execution ≠ "" := by
  show t.first.id ≠ ""
  rw [id_of_launch ht.launched]
  intro h
  have hl := congrArg String.length h
  simp [Store.identifier, String.length_append] at hl

/-- A run that raises could not read its payload, could not write its record, or came to a node
that fails outside of its result. -/
theorem once_error_iff {f : Failure} :
    (once d event payload retryCount).perform e = (.error f, e') ↔
      (launch d event payload retryCount).perform e = (.error f, e') ∨
      ∃ t, Ran d event payload retryCount e t ∧
        ((∃ n, t.ending = .raised n f ∧ e' = { t.walked with run := t.made.run }) ∨
          ∃ closed, (∀ n g, t.ending ≠ .raised n g) ∧
            (finalize t.last (t.status d) (t.error d)).perform t.walked = (.error f, closed) ∧
            e' = { closed with run := t.made.run }) := by
  unfold once
  rw [perform_bind_error]
  refine or_congr_right ⟨?_, ?_⟩
  · rintro ⟨g | r, k, hl, h⟩
    · rw [perform_bind_of_ok (perform_log _ _ _)] at h
      cases h
    · obtain ⟨t, ht, rfl, rfl⟩ := exists_ran hl
      refine ⟨t, ht, ?_⟩
      by_cases hr : ∃ n g, t.ending = .raised n g
      · obtain ⟨n, g, hr⟩ := hr
        rw [perform_within, complete_of_raised ht hr] at h
        cases h
        exact Or.inl ⟨n, hr, rfl⟩
      · have hy : ∀ n g, t.ending ≠ .raised n g := fun n g hg => hr ⟨n, g, hg⟩
        rw [perform_within, complete_of_ran ht hy] at h
        rcases hf : (finalize t.last (t.status d) (t.error d)).perform t.walked
          with ⟨g | ⟨⟩, closed⟩
        · rw [perform_bind_of_error hf] at h
          cases h
          exact Or.inr ⟨closed, hy, rfl, rfl⟩
        · rw [perform_bind_of_ok hf] at h
          cases h
  · rintro ⟨t, ht, ⟨n, hr, rfl⟩ | ⟨closed, hy, hf, rfl⟩⟩
    · refine ⟨.ok t.first, t.made, ht.launched, ?_⟩
      show (within t.first.identity (complete d t.first)).perform t.made = _
      rw [perform_within, complete_of_raised ht hr]
    · refine ⟨.ok t.first, t.made, ht.launched, ?_⟩
      show (within t.first.identity (complete d t.first)).perform t.made = _
      rw [perform_within, complete_of_ran ht hy, perform_bind_of_error hf]

end Run

end CrmAutomation

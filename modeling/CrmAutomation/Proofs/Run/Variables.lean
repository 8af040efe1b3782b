import CrmAutomation.Proofs.Node.Effect
import CrmAutomation.Proofs.Run.Effect

/-!
The variables that the nodes of a run see.

A run seeds its variables from its payload. After that only a fetch that is done sets one, and which
one is decided by its table. So what stands under a name is the last word of the fetches from one
table, and the payload's own value if there was none; nothing else is ever overwritten, be it that
nodes fail, that a table is fetched again, or that the payload uses the names that fetches use.
-/

namespace CrmAutomation.Run

open EngineM Record Node

namespace Visit

/-- The node of the visit fetched from a table, and was done. -/
def FetchedFrom (v : Visit) (table : String) : Prop :=
  v.result.succeeded = true ∧ ∃ p, v.node.params? = some (.fetchData p) ∧ p.table = table

/-- What the node of the visit fetched from a table. -/
def Yields (v : Visit) (table : String) (rows : List Row) : Prop :=
  v.result.succeeded = true ∧ ∃ p, v.node.params? = some (.fetchData p) ∧ p.table = table ∧
    Fetched p v.run.scope v.before rows

end Visit

/-- The last of the visits that fetched from a table yielded the rows. -/
def Latest (vs : List Visit) (table : String) (rows : List Row) : Prop :=
  ∃ earlier v later, vs = earlier ++ v :: later ∧ v.Yields table rows ∧
    ∀ w ∈ later, ¬w.FetchedFrom table

/-- What variables hold after visits: under the name for a table's results, what was last fetched
from the table, or what was seeded if nothing was; under any other name, what was seeded. -/
structure Carries (seeded : Fields) (vs : List Visit) (vars : Fields) : Prop where
  others : ∀ key : Key, (∀ table, key ≠ resultsName table) → vars.find? key = seeded.find? key
  results : ∀ table,
    (∃ rows, Latest vs table rows ∧
      vars.find? (resultsName table) = some (.list (rows.map .object))) ∨
    (∀ v ∈ vs, ¬v.FetchedFrom table) ∧
      vars.find? (resultsName table) = seeded.find? (resultsName table)

variable {d : Definition} {event payload retryCount : Value} {e e' : Engine} {n : Node}
  {r r' : Run} {v : Visit} {seen : List String} {queue : List Node} {vs : List Visit}
  {ending : Ending} {t : Trace} {seeded vars : Fields} {table : String} {rows : List Row}

lemma resultsName_injective {table other : String} (h : resultsName table = resultsName other) :
    table = other := by
  unfold resultsName at h
  exact (String.append_left_inj _).mp h

lemma latest_append (h : Latest vs table rows) (hv : ¬v.FetchedFrom table) :
    Latest (vs ++ [v]) table rows := by
  obtain ⟨earlier, w, later, rfl, hw, hlater⟩ := h
  refine ⟨earlier, w, later ++ [v], by simp, hw, fun u hu => ?_⟩
  rcases List.mem_append.mp hu with hu | hu
  · exact hlater u hu
  · rw [List.mem_singleton.mp hu]
    exact hv

lemma not_fetchedFrom_append (h : ∀ w ∈ vs, ¬w.FetchedFrom table) (hv : ¬v.FetchedFrom table) :
    ∀ w ∈ vs ++ [v], ¬w.FetchedFrom table := by
  intro w hw
  rcases List.mem_append.mp hw with hw | hw
  · exact h w hw
  · rw [List.mem_singleton.mp hw]
    exact hv

lemma results_append (h : Carries seeded vs v.run.scope.vars) (hv : ¬v.FetchedFrom table)
    (hvars : vars.find? (resultsName table) = v.run.scope.vars.find? (resultsName table)) :
    (∃ rows, Latest (vs ++ [v]) table rows ∧
      vars.find? (resultsName table) = some (.list (rows.map .object))) ∨
    (∀ w ∈ vs ++ [v], ¬w.FetchedFrom table) ∧
      vars.find? (resultsName table) = seeded.find? (resultsName table) := by
  rw [hvars]
  rcases h.results table with ⟨rows, hl, hf⟩ | ⟨hno, hf⟩
  · exact Or.inl ⟨rows, latest_append hl hv, hf⟩
  · exact Or.inr ⟨not_fetchedFrom_append hno hv, hf⟩

/-- **One visit**: it sets the results of the table that it fetched from, and nothing else. -/
lemma carries_outcome (h : Carries seeded vs v.run.scope.vars) (hv : v.Happens d n r e) :
    Carries seeded (vs ++ [v]) v.outcome.scope.vars := by
  obtain ⟨rfl, rfl, rfl, hx, -⟩ := hv
  have hscope : v.outcome.scope = v.result.settle v.run.scope := rfl
  rw [hscope]
  by_cases hf : v.result.succeeded = true ∧ ∃ p, v.node.params? = some (.fetchData p)
  · obtain ⟨hs, p, hp⟩ := hf
    obtain ⟨rows, hrows, hset⟩ := fetched_of_execute hp hx hs
    rw [hset]
    have hfind : ∀ key : Key, (v.run.scope.vars.insert (resultsName p.table)
        (.list (rows.map .object))).find? key =
          if Key.text (resultsName p.table) = key then some (.list (rows.map .object))
          else v.run.scope.vars.find? key := fun key => Fields.find?_insert _ _ _ _
    refine ⟨fun key hkey => ?_, fun table => ?_⟩
    · rw [Scope.bind, hfind, if_neg (Ne.symm (hkey p.table)), h.others key hkey]
    · by_cases ht : p.table = table
      · subst ht
        refine Or.inl ⟨rows, ⟨vs, v, [], rfl, ⟨hs, p, hp, rfl, hrows⟩, by simp⟩, ?_⟩
        rw [Scope.bind, hfind, if_pos rfl]
      · have hother : ¬v.FetchedFrom table := by
          rintro ⟨-, q, hq, hqt⟩
          rw [hp] at hq
          cases hq
          exact ht hqt
        refine results_append h hother ?_
        rw [Scope.bind, hfind, if_neg]
        intro hname
        exact ht (resultsName_injective (Key.text.inj hname))
  · have hno : ∀ table, ¬v.FetchedFrom table :=
      fun table ⟨hs, p, hp, _⟩ => hf ⟨hs, p, hp⟩
    rw [settle_of_execute hx fun hs p hp => hf ⟨hs, p, hp⟩]
    exact ⟨h.others, fun table => results_append h (hno table) rfl⟩

lemma carries_of_walks (hw : Walks d seen queue r e vs ending r' e') {earlier : List Visit}
    (h : Carries seeded earlier r.scope.vars) (i : ℕ) {scope : Scope}
    (hi : (encounters vs ending r')[i]? = some (n, scope)) :
    Carries seeded (earlier ++ vs.take i) scope.vars := by
  induction hw generalizing earlier i with
  | done => cases hi
  | pass _ _ ih => exact ih h i hi
  | @visit _ _ _ r _ v vs _ _ _ _ hv _ _ ih =>
    rw [← hv.run] at h
    rcases i with _ | i
    · cases hi
      simpa using h
    · have hnext := ih (carries_outcome h hv) i hi
      simpa using hnext
  | stop _ hv =>
    rw [← hv.run] at h
    rcases i with _ | i
    · cases hi
      simpa using h
    · cases hi
  | raise =>
    rcases i with _ | i
    · cases hi
      simpa using h
    · cases hi

/-- **The variables of a run**: every node that a run comes to finds, under the name for a table's
results, the rows that the last fetch from the table yielded that was done before it in the run, or
the value that the payload gave if there was none, and under every other name what the run was
seeded with: the fields of the payload, with the variables of the run itself in the place of one. -/
theorem variables_of_ran (ht : Ran d event payload retryCount e t) :
    ∃ given, Payload.fields payload = .ok given ∧
      ∀ i n scope, (encounters t.visits t.ending t.last)[i]? = some (n, scope) →
        Carries (given.insert "system" (systemVariables e.clock d.name)) (t.visits.take i)
          scope.vars := by
  obtain ⟨given, row, s, hp, -, hfirst, -⟩ := launch_made ht.launched
  refine ⟨given, hp, fun i n scope hi => ?_⟩
  have hseeded : t.first.scope.vars =
      given.insert "system" (systemVariables e.clock d.name) := by
    rw [hfirst]
    rfl
  have hstart : Carries (given.insert "system" (systemVariables e.clock d.name)) []
      t.first.scope.vars := by
    rw [hseeded]
    exact ⟨fun _ _ => rfl, fun _ => Or.inr ⟨by simp, rfl⟩⟩
  exact carries_of_walks ht.walked hstart i hi

/-- Deals are fetched twice, the second time from a table that cannot be read any more. -/
def gathering : Definition where
  id := "gathering"
  errorHandling := .proceed
  flow := {
    nodes := ["a", "b", "c"].map fun id =>
      { id, type := some "fetch_data", data := [("table", .text "deals")] }
    edges := [{ source := "a", target := "b" }, { source := "b", target := "c" }] }

def gatheringEngine : Engine where
  store := {
    backend := .memory [("deals", [[("id", .text "D1")]])]
    planned := [{ operation := some .select, skip := 1 }] }

/-- A payload that uses the name for the results of the fetches, and that of another table. -/
def gatheringPayload : Fields :=
  [("deals_results", .text "seeded"), ("leads_results", .text "seeded")]

def gatheringTrace : Trace :=
  (trace? 9 gathering .null (.object gatheringPayload) (.int 0) gatheringEngine).get
    (by decide +kernel)

/-- The third node that the run comes to, and what it finds. -/
def gatheringThird : Node × Scope :=
  (encounters gatheringTrace.visits gatheringTrace.ending gatheringTrace.last)[2]?.get
    (by decide +kernel)

theorem variables_of_ran_gathering :
    ∃ given, Payload.fields (.object gatheringPayload) = .ok given ∧
      Carries (given.insert "system" (systemVariables gatheringEngine.clock gathering.name))
        (gatheringTrace.visits.take 2) gatheringThird.2.vars ∧
      gatheringThird.2.get "deals_results" = .list [.object [("id", .text "D1")]] ∧
      gatheringThird.2.get "leads_results" = .text "seeded" := by
  have ht : Ran gathering .null (.object gatheringPayload) (.int 0) gatheringEngine
      gatheringTrace := ran_of_trace? (Option.some_get _).symm
  obtain ⟨given, hp, h⟩ := variables_of_ran ht
  have hpair : gatheringThird = (gatheringThird.1, gatheringThird.2) := (Prod.eta _).symm
  have hthird : (encounters gatheringTrace.visits gatheringTrace.ending gatheringTrace.last)[2]? =
      some (gatheringThird.1, gatheringThird.2) :=
    (Option.some_get _).symm.trans (congrArg some hpair)
  have hvisit := h 2 gatheringThird.1 gatheringThird.2 hthird
  exact ⟨given, hp, hvisit, by decide +kernel, by decide +kernel⟩

end CrmAutomation.Run

import CrmAutomation.Proofs.Rule.Handling

/-!
Rules that are run some time after they were found.

Two events may be handled at once, and then a rule is run as it was found before the other event ran
it too. A run that succeeds writes the count that the rule was found with and one more, whatever
stands in its row by then. So the count never gets ahead of the runs, and it keeps up with them as
long as no rule is run of which a run has succeeded since it was found.
-/

namespace CrmAutomation.Rule

open EngineM Record Calendar

/-- A call: rules are found for an event, or one of those that were found is run on a payload. -/
inductive Call where
  | load (event : Value)
  | run (i : ℕ) (payload : Fields)

/-- A rule as it was found, and how many runs had succeeded by then. -/
structure Loaded where
  rule : Rule
  seen : ℕ

/-- A run that succeeded; it is fresh if the rule was found after its last run that succeeded. -/
structure Success where
  rule : Rule
  fresh : Bool

/-- An engine, the rules that were found on it so far, and the runs that succeeded so far. -/
structure Session where
  engine : Engine
  loaded : List Loaded := []
  successes : List Success := []

/-- No run of the rule has succeeded since it was found. -/
def Loaded.isFresh (l : Loaded) (successes : List Success) : Bool :=
  (successes.drop l.seen).all (·.rule.id != l.rule.id)

namespace Session

/-- The session after a call. A rule that was not found is not run. -/
def after (s : Session) : Call → Session
  | .load event =>
    let found := (matching event).perform s.engine
    { s with
      engine := found.2
      loaded := s.loaded ++ (found.1.toOption.getD []).map (⟨·, s.successes.length⟩) }
  | .run i payload =>
    match s.loaded[i]? with
    | none => s
    | some l =>
      let x : Turn := ⟨l.rule, payload, s.engine⟩
      { s with
        engine := x.outcome.2
        successes := s.successes ++
          if x.yields then [⟨l.rule, l.isFresh s.successes⟩] else [] }

/-- The session after some calls. -/
def afterAll : Session → List Call → Session := List.foldl after

/-- The store does not refuse to count a run that succeeds. -/
def Counts (s : Session) : Call → Prop
  | .load _ => True
  | .run i payload => ∀ l, s.loaded[i]? = some l → (⟨l.rule, payload, s.engine⟩ : Turn).Counts

/-- The store refuses it in none of some calls. -/
def CountsAll : Session → List Call → Prop
  | _, [] => True
  | s, c :: cs => s.Counts c ∧ CountsAll (s.after c) cs

instance (s : Session) : (c : Call) → Decidable (s.Counts c)
  | .load _ => .isTrue trivial
  | .run i payload =>
    match h : s.loaded[i]? with
    | none => .isTrue fun l hl => by rw [h] at hl; cases hl
    | some l =>
      decidable_of_iff (⟨l.rule, payload, s.engine⟩ : Turn).Counts (by simp [Counts, h])

instance decidableCountsAll : (s : Session) → (cs : List Call) → Decidable (s.CountsAll cs)
  | _, [] => .isTrue trivial
  | s, c :: cs =>
    have := decidableCountsAll (s.after c) cs
    inferInstanceAs (Decidable (_ ∧ _))

/-- The rows of the table of rules. -/
def rows (s : Session) : List Row := s.engine.store.rows rulesTable

end Session

/-! ### Counts and runs -/

/-- How many runs of a rule succeeded. -/
def runsOf (id : String) (successes : List Success) : ℕ :=
  successes.countP (·.rule.id == id)

/-- What a rule's count comes to. -/
def written (r : Rule) (successes : List Success) : Int :=
  match (successes.filter (·.rule.id == r.id)).getLast? with
  | some w => w.rule.executionCount + 1
  | none => r.executionCount

/-- A count is the one that the last run was found with and one more. It is never ahead of the runs
that succeeded, and it is equal to these if all of them were fresh. -/
structure Balanced (successes : List Success) (r : Rule) (n : Int) : Prop where
  eq : n = written r successes
  le : n ≤ r.executionCount + runsOf r.id successes
  eq_iff : n = r.executionCount + runsOf r.id successes ↔
    ∀ w ∈ successes, w.rule.id = r.id → w.fresh = true

variable {r : Rule} {n : Int} {ws : List Success} {w : Success} {l : Loaded} {s : Session}
  {row row' : Row} {event : Value} {e k : Engine} {rs : List Rule}

lemma runsOf_append (id : String) (ws ws' : List Success) :
    runsOf id (ws ++ ws') = runsOf id ws + runsOf id ws' := List.countP_append

lemma runsOf_eq_zero {id : String} : runsOf id ws = 0 ↔ ∀ w ∈ ws, w.rule.id ≠ id := by
  simp [runsOf, List.countP_eq_zero]

lemma Balanced.nil (r : Rule) : Balanced [] r r.executionCount :=
  ⟨rfl, by simp [runsOf], by simp [runsOf]⟩

lemma Balanced.other (h : Balanced ws r n) (hw : w.rule.id ≠ r.id) : Balanced (ws ++ [w]) r n := by
  have hruns : runsOf r.id (ws ++ [w]) = runsOf r.id ws := by
    have hone : runsOf r.id [w] = 0 := runsOf_eq_zero.mpr (by simpa using hw)
    rw [runsOf_append, hone, Nat.add_zero]
  refine ⟨?_, by rw [hruns]; exact h.le, ?_⟩
  · rw [h.eq]
    simp [written, hw]
  · rw [hruns, h.eq_iff]
    simp [or_imp, forall_and, hw]

/-- A run that succeeds writes one more than the count that the rule was found with. -/
lemma Balanced.success (h : Balanced (ws.take l.seen) r l.rule.executionCount)
    (hid : l.rule.id = r.id) :
    Balanced (ws ++ [⟨l.rule, l.isFresh ws⟩]) r (l.rule.executionCount + 1) := by
  have hruns : runsOf r.id (ws ++ [⟨l.rule, l.isFresh ws⟩]) =
      runsOf r.id (ws.take l.seen) + runsOf r.id (ws.drop l.seen) + 1 := by
    rw [← runsOf_append, List.take_append_drop, runsOf_append]
    simp [runsOf, hid]
  have hfresh : l.isFresh ws = true ↔ runsOf r.id (ws.drop l.seen) = 0 := by
    simp [Loaded.isFresh, runsOf_eq_zero, hid]
  have hsplit : (∀ v ∈ ws ++ [⟨l.rule, l.isFresh ws⟩], v.rule.id = r.id → v.fresh = true) ↔
      (∀ v ∈ ws.take l.seen, v.rule.id = r.id → v.fresh = true) ∧ l.isFresh ws = true := by
    constructor
    · exact fun hall => ⟨fun v hv => hall v (List.mem_append_left _ (List.mem_of_mem_take hv)),
        hall _ (List.mem_append_right _ (List.mem_singleton.mpr rfl)) hid⟩
    · rintro ⟨hearly, hlast⟩ v hv hv'
      rcases List.mem_append.mp hv with hv | hv
      · rw [← List.take_append_drop l.seen ws] at hv
        rcases List.mem_append.mp hv with hv | hv
        · exact hearly v hv hv'
        · exact absurd hv' (runsOf_eq_zero.mp (hfresh.mp hlast) v hv)
      · rw [List.mem_singleton.mp hv]
        exact hlast
  have hle := h.le
  refine ⟨by simp [written, hid], by rw [hruns]; omega, ?_⟩
  rw [hsplit, ← h.eq_iff, hfresh, hruns]
  omega

/-! ### Calls -/

/-- What a session makes of a row: it keeps its id, and if a rule was read from it at first, it has
a count in balance with the runs of the rule. -/
structure Accounts (ws : List Success) (row row' : Row) : Prop where
  id : row'.get "id" = row.get "id"
  count : ∀ r, ofRow row = .ok r →
    ∃ n, countReader (row'.get "execution_count") = .ok n ∧ Balanced ws r n

/-- What a session keeps, by the rows that it began with. -/
structure InOrder (rows : List Row) (s : Session) : Prop where
  kept : s.engine.store.Kept
  accounts : List.Forall₂ (Accounts s.successes) rows s.rows
  seen : ∀ l ∈ s.loaded, l.seen ≤ s.successes.length
  loaded : ∀ l ∈ s.loaded, ∀ row ∈ rows, ∀ r, ofRow row = .ok r → l.rule.id = r.id →
    Balanced (s.successes.take l.seen) r l.rule.executionCount

lemma source_of_matching (hr : r ∈ ((matching event).perform e).1.toOption.getD []) :
    ∃ row ∈ e.store.rows rulesTable, ofRow row = .ok r := by
  rcases hread : e.store.select rulesTable { filters := activeFilters event } with ⟨g | rows, s⟩
  · -- no rule is found where the table cannot be read
    have hselect : (select rulesTable { filters := activeFilters event }).perform e = _ :=
      perform_stored _ e
    rw [hread] at hselect
    unfold matching at hr
    cases g with
    | fault f =>
      rw [perform_bind, onStorageFault_of_fault hselect] at hr
      cases hr
    | program text | hugeKey =>
      rw [perform_bind, onStorageFault_of_error (by simp [Store.Refusal.failure]) hselect] at hr
      cases hr
  · obtain ⟨k', hk, -⟩ := matching_of_select hread
    rw [hk] at hr
    exact mem_rulesFor hr

variable {rows : List Row}

lemma InOrder.found (ho : InOrder rows s) (hids : (rows.map (·.get "id")).Nodup) {r' : Rule}
    (hr' : r' ∈ ((matching event).perform s.engine).1.toOption.getD []) (hrow : row ∈ rows)
    (hr : ofRow row = .ok r) (hid : r'.id = r.id) :
    Balanced s.successes r r'.executionCount := by
  obtain ⟨now, hnow, hread⟩ := source_of_matching hr'
  -- the row that the rule is read from has come from the one at first
  obtain ⟨first, hfirst, hacc⟩ := exists_of_forall₂ ho.accounts.flip hnow
  have hsame : first = row := by
    refine List.inj_on_of_nodup_map hids hfirst hrow ?_
    rw [← hacc.id, id_of_ofRow hread, id_of_ofRow hr, hid]
  obtain ⟨n, hn, hb⟩ := hacc.count r (hsame ▸ hr)
  have hcount := (columns_of_ofRow hread).2
  rw [hn] at hcount
  cases hcount
  exact hb

lemma inOrder_load (hids : (rows.map (·.get "id")).Nodup) (ho : InOrder rows s) (event : Value) :
    InOrder rows (s.after (.load event)) := by
  have hkeeps : ∀ {R : Engine → Engine → Prop}, Frame (· ≠ rulesTable) R →
      R s.engine ((matching event).perform s.engine).2 := fun hR =>
    hR.keeps s.engine (does_matching (hR.lockstep s.engine) (Or.inl rfl) event)
  have hrows : (s.after (.load event)).rows = s.rows := hkeeps (frame_rows rulesTable)
  refine ⟨hkeeps (frame_kept _) ho.kept, hrows ▸ ho.accounts, fun l hl => ?_,
    fun l hl row hrow r hr hid => ?_⟩
  · rcases List.mem_append.mp hl with hl | hl
    · exact ho.seen l hl
    · obtain ⟨r, -, rfl⟩ := List.mem_map.mp hl
      exact Nat.le_refl _
  · rcases List.mem_append.mp hl with hl | hl
    · exact ho.loaded l hl row hrow r hr hid
    · obtain ⟨r', hr', rfl⟩ := List.mem_map.mp hl
      show Balanced (s.successes.take s.successes.length) r r'.executionCount
      rw [List.take_length]
      exact ho.found hids hr' hrow hr hid

lemma Accounts.success {first : Row} {store : Store} {t : Instant} (hk : store.keep row = row)
    (ha : Accounts ws first row) (hid : row.get "id" = .text l.rule.id)
    (hl : ∀ r, ofRow first = .ok r → l.rule.id = r.id →
      Balanced (ws.take l.seen) r l.rule.executionCount) :
    Accounts (ws ++ [⟨l.rule, l.isFresh ws⟩]) first
      (store.overwrite row (l.rule.countFields t)) where
  id := by
    have hother : (l.rule.countFields t).find? "id" = none :=
      find?_countFields_other (by decide) (by decide) l.rule t
    rw [← ha.id]
    rcases Store.overwrite_of_keep hk (plain_countFields l.rule t) with ho | ⟨ho, -⟩
    · rw [Fields.get, ho, hother]
      rfl
    · rw [ho]
  count r hr := by
    have hsame : l.rule.id = r.id := by
      rw [ha.id, id_of_ofRow hr] at hid
      exact (Value.text.inj hid).symm
    obtain ⟨n, hn, -⟩ := ha.count r hr
    refine ⟨l.rule.executionCount + 1, ?_, (hl r hr hsame).success hsame⟩
    rcases overwrite_countFields hk hn l.rule t with ho | ⟨ho, hn'⟩
    · rw [Fields.get, ho]
      exact countReader_int _
    · rw [ho, hn, hn']

lemma Accounts.other {first : Row} (ha : Accounts ws first row)
    (hw : row.get "id" ≠ .text w.rule.id) : Accounts (ws ++ [w]) first row where
  id := ha.id
  count r hr := by
    obtain ⟨n, hn, hb⟩ := ha.count r hr
    refine ⟨n, hn, hb.other fun hid => hw ?_⟩
    rw [ha.id, id_of_ofRow hr, hid]

lemma inOrder_run (ho : InOrder rows s) {i : ℕ} {payload : Fields}
    (hc : s.Counts (.run i payload)) : InOrder rows (s.after (.run i payload)) := by
  rcases hl : s.loaded[i]? with _ | l
  · simp only [Session.after, hl]
    exact ho
  · let x : Turn := ⟨l.rule, payload, s.engine⟩
    have hx : x.Counts := hc l hl
    have hafter : s.after (.run i payload) =
        { s with
          engine := x.outcome.2
          successes := s.successes ++
            if x.succeeds then [⟨l.rule, l.isFresh s.successes⟩] else [] } := by
      rw [← Turn.yields_of_counts hx]
      simp only [Session.after, hl]
      rfl
    have hkept : x.outcome.2.store.Kept := by
      rw [← Turn.store_after]
      exact Turn.keeps_after (frame_kept _) x ho.kept
    have hrows := Turn.rows_after hx
    rw [Turn.store_after] at hrows
    rw [hafter]
    rcases hs : x.succeeds with _ | _
    · have hsame : x.outcome.2.store.rows rulesTable = s.rows := by
        rw [hrows, hs]
        simp only [Bool.false_eq_true, false_and, if_false, List.map_id']
        rfl
      rw [if_neg Bool.false_ne_true, List.append_nil]
      refine ⟨hkept, ?_, ho.seen, ho.loaded⟩
      show List.Forall₂ (Accounts s.successes) rows (x.outcome.2.store.rows rulesTable)
      rw [hsame]
      exact ho.accounts
    · rw [if_pos rfl]
      refine ⟨hkept, ?_, fun l' hl' => ?_, fun l' hl' row hrow r hr hid => ?_⟩
      · show List.Forall₂ (Accounts (s.successes ++ [⟨l.rule, l.isFresh s.successes⟩])) rows
          (x.outcome.2.store.rows rulesTable)
        rw [hrows, List.forall₂_map_right_iff]
        refine (forall₂_mem ho.accounts).imp ?_
        rintro first row ⟨hfirst, hrow, ha⟩
        by_cases hid : row.get "id" = .text l.rule.id
        · rw [if_pos ⟨hs, hid⟩]
          exact ha.success (Turn.keep_done ho.kept hrow) hid
            fun r hr => ho.loaded l (List.mem_of_getElem? hl) first hfirst r hr
        · rw [if_neg fun h => hid h.2]
          exact ha.other hid
      · exact (ho.seen l' hl').trans (by simp)
      · show Balanced ((s.successes ++ _).take l'.seen) r l'.rule.executionCount
        rw [List.take_append_of_le_length (ho.seen l' hl')]
        exact ho.loaded l' hl' row hrow r hr hid

lemma inOrder_afterAll (hids : (rows.map (·.get "id")).Nodup) {calls : List Call}
    (ho : InOrder rows s) (hc : s.CountsAll calls) : InOrder rows (s.afterAll calls) := by
  induction calls generalizing s with
  | nil => exact ho
  | cons c calls ih =>
    refine ih ?_ hc.2
    cases c with
    | load event => exact inOrder_load hids ho event
    | run i payload => exact inOrder_run ho hc.1

/-- **Counts in sessions**: rules are found and run in any order, each run on a rule as it was found
at any time before, and the store refuses to count none that succeeds. Then the count in the row of
a rule is the one that the last of its runs that succeeded was found with, and one more. It never
gets ahead of the runs that succeeded, and it has kept up with them if and only if none of these was
on a rule that was found before another of them, performed earlier, succeeded. -/
theorem balanced_afterAll {calls : List Call} (hk : e.store.Kept)
    (hids : ((e.store.rows rulesTable).map (·.get "id")).Nodup)
    (hc : Session.CountsAll { engine := e } calls) :
    let s := Session.afterAll { engine := e } calls
    List.Forall₂ (Accounts s.successes) (e.store.rows rulesTable) s.rows := by
  have hstart : InOrder (e.store.rows rulesTable) { engine := e } := by
    refine ⟨hk, List.forall₂_same.mpr fun row _ => ⟨rfl, fun r hr => ?_⟩, by simp, by simp⟩
    exact ⟨r.executionCount, (columns_of_ofRow hr).2, Balanced.nil r⟩
  exact (inOrder_afterAll hids hstart hc).accounts

/-- Two events find the rule before either of them runs it; a third one finds it anew. -/
def overlapping : List Call := [
  .load (.text "won"), .load (.text "won"), .run 0 [], .run 1 [], .load (.text "won"), .run 2 []]

/-- A rule that makes a task. -/
def following : Rule where
  id := "a"
  triggerEvent := "won"
  action := { type := "create_task" }

def followingRow : Row :=
  ruleRow "a" "won" [("type", .text "create_task")] [("execution_count", .int 0)]

def followingEngine : Engine where
  store := { backend := .memory [(rulesTable, [followingRow])] }

theorem balanced_afterAll_overlapping :
    let s := Session.afterAll { engine := followingEngine } overlapping
    s.successes.map (·.fresh) = [true, false, true] ∧
      ∃ row, s.rows = [row] ∧ countReader (row.get "execution_count") = .ok 2 := by
  intro s
  have hread : ofRow followingRow = .ok following := rfl
  have hwritten : written following s.successes = 2 := by decide +kernel
  have hbalanced : List.Forall₂ (Accounts s.successes) [followingRow] s.rows :=
    balanced_afterAll (e := followingEngine) (fun _ _ _ => rfl) (by decide +kernel)
      (by decide +kernel)
  refine ⟨by decide +kernel, ?_⟩
  obtain ⟨row, rest, hrow, hrest, hrows⟩ := List.forall₂_cons_left_iff.mp hbalanced
  cases hrest
  obtain ⟨n, hn, hb⟩ := hrow.count following hread
  rw [hb.eq, hwritten] at hn
  exact ⟨row, hrows, hn⟩

/-- Not every run that succeeds is counted, even if no operation of the store fails. -/
theorem not_always_counted :
    ¬∀ (e : Engine) (calls : List Call), e.store.planned = [] → e.store.isReadable = true →
      e.store.Kept → ((e.store.rows rulesTable).map (·.get "id")).Nodup →
      let s := Session.afterAll { engine := e } calls
      List.Forall₂ (fun row row' => ∀ r, ofRow row = .ok r →
          countReader (row'.get "execution_count") =
            .ok (r.executionCount + runsOf r.id s.successes))
        (e.store.rows rulesTable) s.rows := by
  intro hall
  let calls : List Call := [.load (.text "won"), .run 0 [], .run 0 []]
  let s := Session.afterAll { engine := followingEngine } calls
  have hcounted : List.Forall₂ (fun row row' => ∀ r, ofRow row = .ok r →
      countReader (row'.get "execution_count") =
        .ok (r.executionCount + runsOf r.id s.successes)) [followingRow] s.rows :=
    hall followingEngine calls rfl rfl (fun _ _ _ => rfl) (by decide +kernel)
  obtain ⟨row, rest, hrow, -, hrows⟩ := List.forall₂_cons_left_iff.mp hcounted
  have hone : ∀ row ∈ s.rows, row.get "execution_count" = .int 1 := by decide +kernel
  have htwo : runsOf following.id s.successes = 2 := by decide +kernel
  have hcount := hrow following rfl
  rw [hone row (hrows ▸ List.mem_cons_self), htwo] at hcount
  cases hcount

end CrmAutomation.Rule

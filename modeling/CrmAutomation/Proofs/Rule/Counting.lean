import CrmAutomation.Proofs.Numeric.Rounding
import CrmAutomation.Proofs.Rule.Turn

/-!
How often rules were executed, as their rows say.

An event gives each of its active rules a turn, one after the other. A turn that succeeds writes a
count to the row of its rule and to no other row, since ids are distinct; so the rows of later rules
are still the ones that the rules were read from when these have their turns.
-/

namespace CrmAutomation

open EngineM Record Calendar Numeric

/-! ### Counts in rows -/

namespace Numeric.Binary64

/-- A double without a fraction is equal to its integer part only. -/
lemma eq_of_compareInt {x : Binary64} {m j : Int} (hw : x.isWhole = true)
    (hm : x.truncate? = some m) (h : x.compareInt? j = some .eq) : j = m := by
  rcases x with p | b | ⟨b, u⟩
  · cases hw
  · cases hw
  · cases hm
    have hunits : signedUnits b u = j * unit := compare_eq_iff_eq.mp (Option.some.inj h)
    have hquotient : u = u / unit * unit :=
      (Nat.div_mul_cancel (Nat.dvd_of_mod_eq_zero (eq_of_beq hw))).symm
    rw [hquotient, signedUnits_mul] at hunits
    exact (Int.mul_eq_mul_right_iff (Int.natCast_ne_zero.mpr unit_pos.ne')).mp hunits.symm

lemma whole_of_isZero {x : Binary64} (h : x.isZero = true) :
    x.isWhole = true ∧ x.truncate? = some 0 := by
  rcases x with p | b | ⟨b, u⟩
  · cases h
  · cases h
  · have hu : u = 0 := eq_of_beq h
    subst hu
    rw [isWhole, truncate?, Nat.zero_mod, Nat.zero_div]
    cases b <;> exact ⟨rfl, rfl⟩

end Numeric.Binary64

namespace Rule

variable {row row' : Row} {r : Rule} {rs : List Rule} {e : Engine} {payload : Fields} {s : Store}

lemma columns_of_ofRow (h : ofRow row = .ok r) :
    row.find? "id" = some (.text r.id) ∧
      countReader (row.get "execution_count") = .ok r.executionCount := by
  unfold ofRow at h
  simp only [Schema.Checked.seq_eq_ok, Schema.Checked.map_eq_ok] at h
  obtain ⟨_, last, ⟨_, count, ⟨_, active, ⟨_, action, ⟨_, conditions, ⟨_, event, ⟨_, name,
    ⟨id, hid, rfl⟩, -, rfl⟩, -, rfl⟩, -, rfl⟩, -, rfl⟩, -, rfl⟩, hcount, rfl⟩, -, rfl⟩ := h
  obtain ⟨v, hv, ht⟩ := Schema.Field.required_eq_ok.mp hid
  refine ⟨by rw [hv, Schema.text_eq_ok.mp ht], ?_⟩
  rw [Schema.Field.withDefault_eq] at hcount
  rw [Fields.get]
  rcases hc : row.find? "execution_count" with _ | w
  · rw [hc] at hcount
    cases hcount
    rfl
  · rw [hc] at hcount
    exact Schema.Checked.within_eq_ok.mp hcount

lemma id_of_ofRow (h : ofRow row = .ok r) : row.get "id" = .text r.id := by
  rw [Fields.get, (columns_of_ofRow h).1]
  rfl

lemma countReader_int (n : Int) : countReader (.int n) = .ok n := by
  by_cases hz : n = 0
  · subst hz
    rfl
  · simp [countReader, Value.orElse, Value.isTruthy, hz, Schema.integer]

lemma eq_of_agrees_count {v : Value} {m j : Int} (hm : countReader v = .ok m)
    (h : (Value.int j).agrees v = true) : j = m := by
  cases v with
  | null | text | list | object => simp [Value.agrees, Value.asNumber?] at h
  | bool b =>
    cases b
    · cases hm
      simpa [Value.agrees, Value.asNumber?, Binary64.compareNumbers] using h
    · cases hm
      simpa [Value.agrees, Value.asNumber?, Binary64.compareNumbers] using h
  | int n =>
    have hn : j = n := by simpa [Value.agrees, Value.asNumber?, Binary64.compareNumbers] using h
    rw [countReader_int] at hm
    cases hm
    exact hn
  | float x =>
    have hx : x.compareInt? j = some .eq := by
      simpa [Value.agrees, Value.asNumber?, Binary64.compareNumbers] using h
    by_cases hz : x.isZero = true
    · have hread : countReader (.float x) = .ok 0 := by
        simp [countReader, Value.orElse, Value.isTruthy, hz, Schema.integer]
      rw [hread] at hm
      cases hm
      obtain ⟨hw, ht⟩ := Binary64.whole_of_isZero hz
      exact Binary64.eq_of_compareInt hw ht hx
    · have hread : countReader (.float x) = Schema.integer (.float x) := by
        simp [countReader, Value.orElse, Value.isTruthy, hz]
      rw [hread] at hm
      obtain ⟨hw, ht⟩ := Schema.integer_float hm
      exact Binary64.eq_of_compareInt hw ht hx

lemma plain_countFields (r : Rule) (t : Instant) : (r.countFields t).Plain :=
  ⟨by simp [countFields], by simp [countFields]⟩

lemma find?_countFields_other {key : Key} (hc : key ≠ "execution_count")
    (ht : key ≠ "last_executed_at") (r : Rule) (t : Instant) :
    (r.countFields t).find? key = none := by
  simp [countFields, Fields.find?, Ne.symm hc, Ne.symm ht]

lemma overwrite_countFields {c : Int} (hk : s.keep row = row)
    (hc : countReader (row.get "execution_count") = .ok c) (r : Rule) (t : Instant) :
    (∀ key, (s.overwrite row (r.countFields t)).find? key =
        ((r.countFields t).find? key).or (row.find? key)) ∨
      s.overwrite row (r.countFields t) = row ∧ c = r.executionCount + 1 := by
  rcases Store.overwrite_of_keep hk (plain_countFields r t) with ho | ⟨ho, ha⟩
  · refine Or.inl fun key => ?_
    rw [ho]
    rcases hv : (r.countFields t).find? key with _ | v
    · rfl
    · have hjson : v.IsJson := by
        have hmem := Fields.mem_of_find? hv
        simp only [countFields, List.mem_cons, Prod.mk.injEq, List.not_mem_nil, or_false] at hmem
        rcases hmem with ⟨-, rfl⟩ | ⟨-, rfl⟩
        · rfl
        · rfl
      rw [Option.map_some, Store.brings_of_isJson hjson]
  · refine Or.inr ⟨ho, ?_⟩
    have hv : (row.merge (r.countFields t)).find? "execution_count" =
        some (.int (r.executionCount + 1)) := by
      rw [Fields.find?_merge row (plain_countFields r t).nodup]
      rfl
    obtain ⟨w, hw, hs⟩ := Value.agrees_find? ha hv
    rw [show Value.isSameNoNumber (.int (r.executionCount + 1)) w = false from rfl,
      Bool.false_or] at hs
    rw [Fields.get, hw] at hc
    exact (eq_of_agrees_count hc hs).symm

/-- The row of a rule after an execution was counted at a time: one more than what it read as the
count before, where null is zero, and the time. No other field is touched. -/
structure Counted (t : Instant) (row row' : Row) : Prop where
  count : ∃ n, countReader (row.get "execution_count") = .ok n ∧
    row'.find? "execution_count" = some (.int (n + 1))
  time : row'.find? "last_executed_at" = some (.text t.isoText)
  others : ∀ key : Key, key ≠ "execution_count" → key ≠ "last_executed_at" →
    row'.find? key = row.find? key

lemma counted_overwrite (hk : s.keep row = row) (hrow : ofRow row = .ok r) (t : Instant) :
    Counted t row (s.overwrite row (r.countFields t)) := by
  have hcount := (columns_of_ofRow hrow).2
  rcases overwrite_countFields hk hcount r t with ho | ⟨-, hsame⟩
  · refine ⟨⟨r.executionCount, hcount, by rw [ho]; rfl⟩, by rw [ho]; rfl, fun key hc ht => ?_⟩
    rw [ho, find?_countFields_other hc ht]
    rfl
  · omega

/-! ### Turns in a row -/

namespace Turn

variable {x : Turn}

/-- The turn yields that the rule succeeded; that it fails is not told apart from that it does
not. -/
def yields (x : Turn) : Bool :=
  match x.outcome.1 with
  | .ok b => b
  | .error _ => false

/-- The engine after the turn; that it failed is logged. -/
def after (x : Turn) : Engine :=
  match x.outcome with
  | (.ok _, e) => e
  | (.error _, e) => e.noting .error "Error running automation rule"

lemma keeps_after {R : Engine → Engine → Prop} (hR : Frame (fun _ => True) R) (x : Turn) :
    R x.before x.after := by
  have hrun : R x.before x.outcome.2 :=
    hR.keeps x.before (does_run (hR.lockstep x.before) (hR.postsMatch x.before)
      (fun _ _ => Or.inr trivial) x.rule x.payload)
  unfold after
  rcases ho : x.outcome with ⟨f | b, k⟩
  · rw [ho] at hrun
    exact hR.trans _ _ _ hrun (hR.journal _ _)
  · rw [ho] at hrun
    exact hrun

lemma store_after (x : Turn) : x.after.store = x.outcome.2.store := by
  unfold after
  rcases x.outcome with ⟨f | b, k⟩ <;> rfl

lemma yields_of_not_succeeds (hs : x.succeeds = false) : x.yields = false := by
  have hno := (outcome_of_not_succeeds hs).1
  unfold yields
  split
  · rename_i b hb
    rw [hb] at hno
    exact Bool.eq_false_iff.mpr fun h => hno (congrArg _ h)
  · rfl

/-- Around an orderly store a turn yields whether the rule succeeds, even if that is not counted. -/
lemma yields_eq (ho : x.before.store.Orderly) : x.yields = x.succeeds := by
  rcases hs : x.succeeds with _ | _
  · exact yields_of_not_succeeds hs
  · have hdone : x.done.store.Orderly :=
      keeps_done (frame_orderly.mono fun _ _ => trivial) x ho
    rw [yields, outcome_of_succeeds hs, perform_bind, perform_track]
    rcases hu : x.done.store.update rulesTable (x.rule.countFields x.done.clock)
      [⟨"id", .equals, .text x.rule.id⟩] with ⟨r | n, s⟩
    · obtain ⟨f, rfl⟩ := Store.fault_of_update_error (hdone.steady rulesTable) hu
      rfl
    · rfl

lemma yields_of_counts (hc : x.Counts) : x.yields = x.succeeds := by
  rcases hs : x.succeeds with _ | _
  · exact yields_of_not_succeeds hs
  · rw [yields, outcome_of_counts hc hs]

lemma keep_done (hk : x.before.store.Kept) (hrow : row ∈ x.before.store.rows rulesTable) :
    x.done.store.keep row = row := by
  have hrows : x.done.store.rows rulesTable = x.before.store.rows rulesTable :=
    keeps_done (frame_rows rulesTable) x
  exact Store.keep_of_kept (keeps_done (frame_kept _) x hk) (hrows ▸ hrow)

lemma rows_after (hc : x.Counts) :
    x.after.store.rows rulesTable =
      (x.before.store.rows rulesTable).map fun row =>
        if x.succeeds = true ∧ row.get "id" = .text x.rule.id then
          x.done.store.overwrite row (x.rule.countFields x.done.clock)
        else row := by
  have hdone : x.done.store.rows rulesTable = x.before.store.rows rulesTable :=
    keeps_done (frame_rows rulesTable) x
  rw [store_after]
  rcases hs : x.succeeds with _ | _
  · rw [(outcome_of_not_succeeds hs).2, hdone]
    simp
  · obtain ⟨n, s, hn⟩ := hc hs
    rw [outcome_of_counts hc hs, hn]
    have hrows := Store.rows_update hn rulesTable
    rw [if_pos rfl, hdone] at hrows
    refine hrows.trans (List.map_congr_left fun row _ => ?_)
    simp only [matchesAll_id, true_and]

end Turn

/-- The turns of rules, each on the engine that the one before left. -/
def turns (payload : Fields) : List Rule → Engine → List Turn
  | [], _ => []
  | r :: rs, e =>
    let x : Turn := ⟨r, payload, e⟩
    x :: turns payload rs x.after

/-- The engine that the last turn leaves. -/
def afterTurns (payload : Fields) : List Rule → Engine → Engine
  | [], e => e
  | r :: rs, e => afterTurns payload rs (⟨r, payload, e⟩ : Turn).after

lemma rules_of_turns (payload : Fields) (rs : List Rule) (e : Engine) :
    (turns payload rs e).map (·.rule) = rs := by
  induction rs generalizing e with
  | nil => rfl
  | cons r rs ih => exact congrArg (r :: ·) (ih _)

lemma rule_of_turn {x : Turn} (hx : x ∈ turns payload rs e) : x.rule ∈ rs := by
  rw [← rules_of_turns payload rs e]
  exact List.mem_map.mpr ⟨x, hx, rfl⟩

lemma perform_runAll (payload : Fields) (rs : List Rule) (e : Engine) :
    (runAll payload rs).perform e =
      (.ok ((turns payload rs e).countP (·.yields)), afterTurns payload rs e) := by
  induction rs generalizing e with
  | nil => rfl
  | cons r rs ih =>
    let x : Turn := ⟨r, payload, e⟩
    have hturn : ((r.run payload).onFailure fun _ => do
        log .error "Error running automation rule"
        pure false).perform e = (.ok x.yields, x.after) := by
      rcases ho : x.outcome with ⟨f | b, k⟩
      · rw [onFailure_of_error ho, Turn.yields, Turn.after, ho]
        rfl
      · rw [onFailure_of_ok ho, Turn.yields, Turn.after, ho]
    rw [runAll, perform_bind_of_ok hturn, perform_bind_of_ok (ih x.after), turns, List.countP_cons]
    rw [Nat.add_comm]
    rfl

/-- What turns make of a row: it is counted if its rule succeeds, and it is not touched
otherwise. -/
structure Tallied (xs : List Turn) (row row' : Row) : Prop where
  counted : ∀ x ∈ xs, x.succeeds = true → row.get "id" = .text x.rule.id →
    ofRow row = .ok x.rule ∧ Counted x.done.clock row row'
  others : (∀ x ∈ xs, x.succeeds = true → row.get "id" ≠ .text x.rule.id) → row' = row

/-- Rows with the ids of rules are the ones that the rules were read from. -/
def Sources (rs : List Rule) (rows : List Row) : Prop :=
  ∀ r ∈ rs, ∀ row ∈ rows, row.get "id" = .text r.id → ofRow row = .ok r

lemma Counted.id {t : Instant} (h : Counted t row row') : row'.get "id" = row.get "id" := by
  rw [Fields.get, h.others "id" (by decide) (by decide)]
  rfl

section Tally

variable {x : Turn} {xs : List Turn} {row₁ row₂ : Row}

lemma Tallied.other (h : Tallied [x] row row') (hid : row.get "id" ≠ .text x.rule.id) :
    row' = row :=
  h.others fun _ hy _ => by
    rw [List.mem_singleton.mp hy]
    exact hid

lemma Tallied.id (h : Tallied [x] row row') : row'.get "id" = row.get "id" := by
  by_cases hx : x.succeeds = true ∧ row.get "id" = .text x.rule.id
  · exact (h.counted x List.mem_cons_self hx.1 hx.2).2.id
  · rw [h.others fun y hy hs hid => hx (List.mem_singleton.mp hy ▸ ⟨hs, hid⟩)]

lemma Tallied.cons (h : Tallied [x] row row₁) (h' : Tallied xs row₁ row₂)
    (hother : ∀ y ∈ xs, y.rule.id ≠ x.rule.id) : Tallied (x :: xs) row row₂ where
  counted := by
    refine List.forall_mem_cons.mpr ⟨fun hs hid => ?_, fun y hy hs hid => ?_⟩
    · have hrow : row₂ = row₁ := h'.others fun y hy _ hy' => by
        rw [h.id, hid] at hy'
        exact hother y hy (Value.text.inj hy').symm
      rw [hrow]
      exact h.counted x List.mem_cons_self hs hid
    · have hrow : row₁ = row := h.other fun hx => by
        rw [hid] at hx
        exact hother y hy (Value.text.inj hx)
      rw [hrow] at h'
      exact h'.counted y hy hs hid
  others hno := by
    obtain ⟨hx, hrest⟩ := List.forall_mem_cons.mp hno
    have hrow : row₁ = row := h.others fun y hy => by
      rw [List.mem_singleton.mp hy]
      exact hx
    rw [hrow] at h'
    exact h'.others hrest

lemma tallied_turn (hk : x.before.store.Kept) (hc : x.Counts)
    (hrows : Sources [x.rule] (x.before.store.rows rulesTable)) :
    List.Forall₂ (Tallied [x]) (x.before.store.rows rulesTable)
      (x.after.store.rows rulesTable) := by
  rw [Turn.rows_after hc, List.forall₂_map_right_iff, List.forall₂_same]
  intro row hrow
  split
  · rename_i h
    have hread := hrows x.rule List.mem_cons_self row hrow h.2
    refine ⟨fun y hy _ _ => ?_, fun hno => absurd h.2 (hno x List.mem_cons_self h.1)⟩
    rw [List.mem_singleton.mp hy]
    exact ⟨hread, counted_overwrite (Turn.keep_done hk hrow) hread _⟩
  · rename_i h
    refine ⟨fun y hy hs hid => ?_, fun _ => rfl⟩
    rw [List.mem_singleton.mp hy] at hs hid
    exact absurd ⟨hs, hid⟩ h

lemma sources_after {rows rows' : List Row} (h : List.Forall₂ (Tallied [x]) rows rows')
    (hrows : Sources rs rows) (hother : ∀ r ∈ rs, r.id ≠ x.rule.id) : Sources rs rows' := by
  intro r hr row' hrow' hid
  obtain ⟨row, hrow, ht⟩ := exists_of_forall₂ h.flip hrow'
  rw [ht.id] at hid
  have hsame : row' = row := ht.other fun hx => by
    rw [hid] at hx
    exact hother r hr (Value.text.inj hx)
  rw [hsame]
  exact hrows r hr row hrow hid

end Tally

lemma tallied_turns (hk : e.store.Kept) (hids : (rs.map (·.id)).Nodup)
    (hrows : Sources rs (e.store.rows rulesTable)) (hc : ∀ x ∈ turns payload rs e, x.Counts) :
    List.Forall₂ (Tallied (turns payload rs e)) (e.store.rows rulesTable)
      ((afterTurns payload rs e).store.rows rulesTable) := by
  induction rs generalizing e with
  | nil => exact List.forall₂_same.mpr fun row _ => ⟨by simp [turns], fun _ => rfl⟩
  | cons r rs ih =>
    let x : Turn := ⟨r, payload, e⟩
    obtain ⟨hcx, hcs⟩ := List.forall_mem_cons.mp hc
    obtain ⟨hr, hrs⟩ := List.forall_mem_cons.mp hrows
    rw [List.map_cons, List.nodup_cons] at hids
    have hother : ∀ r' ∈ rs, r'.id ≠ x.rule.id := fun r' hr' he =>
      hids.1 (List.mem_map.mpr ⟨r', hr', he⟩)
    have hturn := tallied_turn (x := x) hk hcx (List.forall_mem_cons.mpr ⟨hr, by simp⟩)
    have hrest := ih (Turn.keeps_after (frame_kept _) x hk) hids.2
      (sources_after hturn hrs hother) hcs
    exact forall₂_trans
      (fun _ _ _ h h' => h.cons h' fun y hy => hother y.rule (rule_of_turn hy)) hturn hrest

end Rule

end CrmAutomation

import CrmAutomation.Proofs.Store.Refusal

/-!
Stores that differ in one table.

Two stores are twins but for a table if they have the same rows in every other table, and if all
other operations than updates of the table meet the same failures, now and after any operations.
Twins come to the same under whatever does not look at the table, and they stay twins under updates
of it, even if one of them refuses the update.
-/

namespace CrmAutomation

open Record Calendar

namespace Store

/-! ### Plans -/

namespace PlannedFault

/-- What an operation comes to that the failure strikes. -/
def refusal (p : PlannedFault) : Refusal :=
  if p.isProgramError then .program p.text else .fault (.reported p.text)

/-- What is planned after some operations. -/
def after (ps : List PlannedFault) (ops : List (Operation × String)) : List PlannedFault :=
  ops.foldl (fun ps o => (strike o.1 o.2 ps).1) ps

/-- After the same operations every further one meets the same failure under both plans, but perhaps
one of a kind on a table. -/
def AgreeBut (op : Operation) (table : String) (ps qs : List PlannedFault) : Prop :=
  ∀ ops op' table', ¬(op' = op ∧ table' = table) →
    (strike op' table' (after ps ops)).2.map refusal =
      (strike op' table' (after qs ops)).2.map refusal

variable {op op' : Operation} {table table' : String} {ps qs rest : List PlannedFault}

lemma AgreeBut.strike (h : AgreeBut op table ps qs) (op' : Operation) (table' : String) :
    AgreeBut op table (PlannedFault.strike op' table' ps).1
      (PlannedFault.strike op' table' qs).1 :=
  fun ops => h ((op', table') :: ops)

/-- The failure is planned for operations of one kind on one table, and for no others. -/
def isFor (op : Operation) (table : String) (p : PlannedFault) : Bool :=
  p.operation == some op && p.table == some table

lemma fits_iff_of_isFor {p : PlannedFault} (h : p.isFor op table = true) :
    p.fits op' table' = true ↔ op' = op ∧ table' = table := by
  simp only [isFor, Bool.and_eq_true, beq_iff_eq] at h
  simp only [fits, h.1, h.2, Option.isNone_some, Bool.false_or, Bool.and_eq_true, beq_iff_eq,
    Option.some.injEq]
  exact ⟨fun hf => ⟨hf.1.symm, hf.2.symm⟩, fun hf => ⟨hf.1.symm, hf.2.symm⟩⟩

lemma strike_of_not_fits (h : ∀ p ∈ ps, p.fits op table = false) :
    strike op table ps = (ps, none) := by
  induction ps with
  | nil => rfl
  | cons p ps ih =>
    rw [List.forall_mem_cons] at h
    simp [strike, h.1, ih h.2]

lemma strike_append_other (hps : ∀ p ∈ ps, p.isFor op table = true)
    (ho : ¬(op' = op ∧ table' = table)) :
    strike op' table' (ps ++ rest) =
      (ps ++ (strike op' table' rest).1, (strike op' table' rest).2) := by
  induction ps with
  | nil => rfl
  | cons p ps ih =>
    rw [List.forall_mem_cons] at hps
    have hp : p.fits op' table' = false :=
      Bool.eq_false_iff.mpr fun hf => ho ((fits_iff_of_isFor hps.1).mp hf)
    simp [strike, hp, ih hps.2]

lemma strike_append_own (hps : ∀ p ∈ ps, p.isFor op table = true)
    (hrest : ∀ p ∈ rest, p.fits op table = false) :
    ∃ ps', (strike op table (ps ++ rest)).1 = ps' ++ rest ∧
      ∀ p ∈ ps', p.isFor op table = true := by
  induction ps with
  | nil => exact ⟨[], congrArg Prod.fst (strike_of_not_fits hrest), by simp⟩
  | cons p ps ih =>
    rw [List.forall_mem_cons] at hps
    obtain ⟨ps', hs, hps'⟩ := ih hps.2
    rw [List.cons_append]
    rcases strike_cons op table p (ps ++ rest) with ⟨-, h⟩ | ⟨q, hq, h⟩
    · rw [h]
      exact ⟨p.struck :: ps, rfl, List.forall_mem_cons.mpr ⟨hps.1, hps.2⟩⟩
    · rw [h, hs]
      refine ⟨q :: ps', rfl, List.forall_mem_cons.mpr ⟨?_, hps'⟩⟩
      rcases hq with rfl | rfl
      · exact hps.1
      · exact hps.1

/-- **Plans that agree** but for the failures planned for one operation alone, whatever they are. -/
theorem agreeBut_append (hps : ∀ p ∈ ps, p.isFor op table = true)
    (hqs : ∀ p ∈ qs, p.isFor op table = true) (hrest : ∀ p ∈ rest, p.fits op table = false) :
    AgreeBut op table (ps ++ rest) (qs ++ rest) := by
  intro ops op' table' ho
  -- after every operation the plans are still failures for the one, before the same rest
  induction ops generalizing ps qs rest with
  | nil =>
    show (strike op' table' (ps ++ rest)).2.map _ = (strike op' table' (qs ++ rest)).2.map _
    rw [strike_append_other hps ho, strike_append_other hqs ho]
  | cons o ops ih =>
    obtain ⟨op'', table''⟩ := o
    show (strike op' table' (after (strike op'' table'' (ps ++ rest)).1 ops)).2.map _ =
      (strike op' table' (after (strike op'' table'' (qs ++ rest)).1 ops)).2.map _
    by_cases ho' : op'' = op ∧ table'' = table
    · obtain ⟨rfl, rfl⟩ := ho'
      obtain ⟨ps', hp, hps'⟩ := strike_append_own hps hrest
      obtain ⟨qs', hq, hqs'⟩ := strike_append_own hqs hrest
      rw [hp, hq]
      exact ih hps' hqs' hrest
    · rw [strike_append_other hps ho', strike_append_other hqs ho']
      have hlasting : Lasting fun p => p.fits op table = false := ⟨fun _ h => h, fun _ h => h⟩
      exact ih hps hqs (plans_strike hlasting hrest).1

end PlannedFault

/-! ### Twins -/

/-- Two backends of one kind that have the same rows, but perhaps in a table. -/
inductive Backend.Twins (name : String) : Backend → Backend → Prop
  | memory {ts ts'} (h : ∀ table, table ≠ name → Tables.rows ts table = Tables.rows ts' table) :
      Twins name (.memory ts) (.memory ts')
  | database {phase a a'}
      (h : ∀ table, table ≠ name → Archive.rows a table = Archive.rows a' table) :
      Twins name (.database phase a) (.database phase a')

namespace Backend.Twins

variable {name : String} {b b' b'' : Backend}

lemma refl (name : String) (b : Backend) : b.Twins name b := by
  cases b with
  | memory ts => exact .memory fun _ _ => rfl
  | database phase a => exact .database fun _ _ => rfl

lemma symm (h : b.Twins name b') : b'.Twins name b := by
  cases h with
  | memory h => exact .memory fun table ht => (h table ht).symm
  | database h => exact .database fun table ht => (h table ht).symm

lemma trans (h : b.Twins name b') (h' : b'.Twins name b'') : b.Twins name b'' := by
  cases h with
  | memory h =>
    cases h' with
    | memory h' => exact .memory fun table ht => (h table ht).trans (h' table ht)
  | database h =>
    cases h' with
    | database h' => exact .database fun table ht => (h table ht).trans (h' table ht)

end Backend.Twins

/-- Two stores that differ at most in the rows of a table and in what is planned for updates of
it. -/
structure Twins (name : String) (s k : Store) : Prop where
  backend : s.backend.Twins name k.backend
  drawn : s.drawn = k.drawn
  planned : PlannedFault.AgreeBut .update name s.planned k.planned

/-- Operations on two stores come to the same, and leave twins. -/
def Meet {α : Type} (name : String) (x y : Outcome α) : Prop :=
  ∃ r s k, x = (r, s) ∧ y = (r, k) ∧ Twins name s k

variable {name table : String} {s k : Store} {op : Operation} {t : Instant} {row : Row}
  {fields : Fields} {fs : List Filter}

lemma Twins.rows (h : Twins name s k) (ht : table ≠ name) : s.rows table = k.rows table := by
  obtain ⟨b, n, ps⟩ := s
  obtain ⟨c, m, qs⟩ := k
  obtain ⟨hb, -, -⟩ := h
  cases hb with
  | memory h => exact h table ht
  | database h => exact h table ht

lemma meet_guarded {α : Type} {act : Store → Outcome α} (h : Twins name s k)
    (ho : ¬(op = .update ∧ table = name))
    (ha : ∀ s k, Twins name s k → Meet name (act s) (act k)) :
    Meet name (s.guarded op table act) (k.guarded op table act) := by
  have hplans : Twins name (s.afterPlans op table) (k.afterPlans op table) :=
    ⟨h.backend, h.drawn, h.planned.strike op table⟩
  have hhit : (PlannedFault.strike op table s.planned).2.map PlannedFault.refusal =
      (PlannedFault.strike op table k.planned).2.map PlannedFault.refusal :=
    h.planned [] op table ho
  unfold guarded
  unfold afterPlans at hplans
  generalize PlannedFault.strike op table s.planned = x at hplans hhit
  generalize PlannedFault.strike op table k.planned = y at hplans hhit
  obtain ⟨ps, hit⟩ := x
  obtain ⟨qs, hit'⟩ := y
  rcases hit with _ | p
  · rcases hit' with _ | q
    · exact ha _ _ hplans
    · cases hhit
  · rcases hit' with _ | q
    · cases hhit
    · have hpq : p.refusal = q.refusal := Option.some.inj hhit
      -- the failures may differ in what is left of them, but not in what they come to
      refine ⟨.error p.refusal, _, _, rfl, ?_, hplans⟩
      rw [hpq]
      rfl

lemma meet_insert (h : Twins name s k) :
    Meet name (s.insert t table row) (k.insert t table row) := by
  refine meet_guarded h (fun ho => by cases ho.1) fun s k h => ?_
  obtain ⟨b, n, ps⟩ := s
  obtain ⟨c, m, qs⟩ := k
  obtain ⟨hb, hn, hp⟩ := h
  dsimp only at hb hn hp
  subst hn
  cases hb with
  | @memory ts ts' h =>
    refine ⟨_, _, _, rfl, rfl, .memory fun other ho => ?_, rfl, hp⟩
    rw [Tables.rows_append, Tables.rows_append]
    split
    · rename_i heq
      rw [h table (heq ▸ ho)]
    · exact h other ho
  | @database phase a a' h =>
    cases phase with
    | notStarted | lost => exact ⟨_, _, _, rfl, rfl, .database h, rfl, hp⟩
    | started =>
      dsimp only
      rcases Archive.keyKind _ with _ | _ | _
      · refine ⟨_, _, _, rfl, rfl, .database fun other ho => ?_, rfl, hp⟩
        rw [Archive.rows_append, Archive.rows_append]
        split
        · rename_i heq
          rw [h table (heq ▸ ho)]
        · exact h other ho
      · exact ⟨_, _, _, rfl, rfl, .database h, rfl, hp⟩
      · exact ⟨_, _, _, rfl, rfl, .database h, rfl, hp⟩

lemma meet_update (h : Twins name s k) (ht : table ≠ name) :
    Meet name (s.update table fields fs) (k.update table fields fs) := by
  refine meet_guarded h (fun ho => ht ho.2) fun s k h => ?_
  obtain ⟨b, n, ps⟩ := s
  obtain ⟨c, m, qs⟩ := k
  obtain ⟨hb, hn, hp⟩ := h
  cases hb with
  | @memory ts ts' h =>
    have hcount : ts.count table fs = ts'.count table fs := by
      unfold Tables.count
      rw [h table ht]
    refine ⟨_, _, _, rfl, Prod.ext (congrArg Except.ok hcount.symm) rfl,
      .memory fun other ho => ?_, hn, hp⟩
    rw [Tables.rows_patch, Tables.rows_patch, h table ht, h other ho]
  | @database phase a a' h =>
    cases phase with
    | notStarted | lost => exact ⟨_, _, _, rfl, rfl, .database h, hn, hp⟩
    | started =>
      have hcount : a.count table fs = a'.count table fs := by
        rw [Archive.count_eq, Archive.count_eq, h table ht]
      refine ⟨_, _, _, rfl, Prod.ext (congrArg Except.ok hcount.symm) rfl,
        .database fun other ho => ?_, hn, hp⟩
      rw [Archive.rows_patch, Archive.rows_patch, h table ht, h other ho]

lemma meet_select (h : Twins name s k) (ht : table ≠ name) (q : Tables.Query) :
    Meet name (s.select table q) (k.select table q) := by
  refine meet_guarded h (fun ho => ht ho.2) fun s k h => ?_
  obtain ⟨b, n, ps⟩ := s
  obtain ⟨c, m, qs⟩ := k
  obtain ⟨hb, hn, hp⟩ := h
  cases hb with
  | @memory ts ts' h =>
    have hrows : ts.select table q = ts'.select table q := by
      unfold Tables.select
      rw [h table ht]
    exact ⟨_, _, _, rfl, Prod.ext (congrArg Except.ok hrows.symm) rfl, .memory h, hn, hp⟩
  | @database phase a a' h =>
    cases phase with
    | notStarted | lost => exact ⟨_, _, _, rfl, rfl, .database h, hn, hp⟩
    | started =>
      have hrows : a.select table q = a'.select table q := by
        unfold Archive.select
        rw [h table ht]
      exact ⟨_, _, _, rfl, Prod.ext (congrArg Except.ok hrows.symm) rfl, .database h, hn, hp⟩

lemma update_leaves (s : Store) (name : String) (fields : Fields) (fs : List Filter) :
    s.backend.Twins name (s.update name fields fs).2.backend ∧
      (s.update name fields fs).2.drawn = s.drawn ∧
      (s.update name fields fs).2.planned = (PlannedFault.strike .update name s.planned).1 := by
  unfold update
  rcases guarded_cases s .update name _ with hg | ⟨p, -, hg⟩
  · rw [hg]
    unfold afterPlans
    rcases s.backend with ts | ⟨_ | _ | _, a⟩
    · refine ⟨.memory fun other ho => ?_, rfl, rfl⟩
      rw [Tables.rows_patch, if_neg (Ne.symm ho)]
    · exact ⟨.refl name _, rfl, rfl⟩
    · refine ⟨.database fun other ho => ?_, rfl, rfl⟩
      rw [Archive.rows_patch, if_neg (Ne.symm ho)]
    · exact ⟨.refl name _, rfl, rfl⟩
  · rw [hg]
    exact ⟨.refl name _, rfl, rfl⟩

lemma twins_update (h : Twins name s k) (fields : Fields) (fs : List Filter) :
    Twins name (s.update name fields fs).2 (k.update name fields fs).2 := by
  obtain ⟨hb, hn, hp⟩ := update_leaves s name fields fs
  obtain ⟨hb', hn', hp'⟩ := update_leaves k name fields fs
  refine ⟨(hb.symm.trans h.backend).trans hb', hn.trans (h.drawn.trans hn'.symm), ?_⟩
  rw [hp, hp']
  exact h.planned.strike .update name

end Store

end CrmAutomation

import CrmAutomation.Proofs.Run.Record

/-!
The record of a run at every moment.

A moment is a store that the run passes through: the one in which its record is made, those that
the work of its nodes passes through, and those after the attempts to write its progress and its
outcome. What the record says then depends on nothing but which of these attempts the store took.
-/

namespace CrmAutomation

open EngineM Record

namespace Run

variable {d : Definition} {event payload retryCount : Value} {e e' : Engine} {n : Node}
  {r r' : Run} {v : Visit} {seen : List String} {queue : List Node} {vs : List Visit}
  {ending : Ending} {t : Trace} {old : List Row} {id : String} {row : Row} {s s' : Store}

/-- What the record holds of a run: the steps as of the last write that was taken, the node executed
last as of the last progress that was taken, and the state. -/
structure Held where
  steps : List Step := []
  node : Option String := none
  status : RunStatus := .running

structure Moment where
  store : Store
  held : Held

variable {h : Held} {path : Visit → List Store}

instance (v : Visit) : Decidable v.Recorded := inferInstanceAs (Decidable (Takes _ _ _ _))

instance (d : Definition) (t : Trace) : Decidable (t.Closes d) :=
  decidable_of_iff _ (closes_iff rfl).symm

/-- What the record holds after a visit. -/
def Visit.holds (v : Visit) (h : Held) : Held :=
  if v.Recorded then { h with steps := v.outcome.steps, node := v.outcome.currentNode } else h

def heldAfter (h : Held) (vs : List Visit) : Held := vs.foldl (fun h v => v.holds h) h

/-- The moments of visits, if their work passes through the stores of a path: the record holds the
same during the work of a node, and what the visit leaves afterwards. -/
def moments (path : Visit → List Store) (h : Held) : List Visit → List Moment
  | [] => []
  | v :: vs =>
    (path v).map (⟨·, h⟩) ++ ⟨v.settled.store, v.holds h⟩ :: moments path (v.holds h) vs

namespace Trace

/-- The work of the visited nodes passes through the stores of the path, and spares the table of
executions. -/
def Through (t : Trace) (path : Visit → List Store) : Prop :=
  ∀ v ∈ t.visits,
    Store.Passes (· ≠ executionsTable) v.before.store (path v) v.after.store

/-- The moments until the outcome is written. -/
def during (t : Trace) (path : Visit → List Store) : List Moment :=
  ⟨t.made.store, {}⟩ :: moments path {} t.visits

def patch (d : Definition) (t : Trace) : Fields :=
  t.last.outcomePatch (t.status d) (t.error d) t.walked.clock

/-- The moment after the attempt to write the outcome. -/
def closing (d : Definition) (t : Trace) : Moment where
  store := (t.walked.store.update executionsTable (t.patch d) (ownRecord t.last.id)).2
  held :=
    let h := heldAfter {} t.visits
    if t.Closes d then { h with steps := t.steps, status := t.status d } else h

/-- All moments of the run. A node that fails outside of its result is the last it comes to. -/
def moments (d : Definition) (t : Trace) (path : Visit → List Store) : List Moment :=
  match t.ending with
  | .raised _ _ => t.during path
  | .finished | .stopped _ => t.during path ++ [t.closing d]

end Trace

/-! ### What the record says -/

/-- The row is the record of a run, and says what the record holds at the moment. -/
structure Shows (id : String) (m : Moment) (row : Row) : Prop extends Records id row where
  status : row.find? "status" = some m.held.status.value
  steps : row.find? "steps_executed" = some (m.store.brings (stepsValue m.held.steps))
  current : row.find? "current_step_id" = some (Value.ofText? m.held.node)

/-- The table of executions is what it was, and the record as it should be at the moment. -/
def Kept (old : List Row) (id : String) (m : Moment) : Prop :=
  ∃ row, m.store.rows executionsTable = old ++ [row] ∧ Shows id m row

lemma kept_of_rows (hrows : s'.rows executionsTable = s.rows executionsTable)
    (hb : s'.brings = s.brings) (hk : Kept old id ⟨s, h⟩) : Kept old id ⟨s', h⟩ := by
  obtain ⟨row, hrow, hs⟩ := hk
  refine ⟨row, hrows.trans hrow, hs.toRecords, hs.status, ?_, hs.current⟩
  rw [hs.steps]
  show some (s.brings _) = some (s'.brings _)
  rw [hb]

lemma kept_of_refused {patch : Fields} (hk : Kept old id ⟨s, h⟩)
    (ht : ¬Takes s patch id (s.update executionsTable patch (ownRecord id)).2) :
    Kept old id ⟨(s.update executionsTable patch (ownRecord id)).2, h⟩ := by
  have hmove : Store.Moves (fun _ => True) s _ :=
    .update s executionsTable patch (ownRecord id) trivial
  refine kept_of_rows ?_ (Store.brings_of_moves hmove) hk
  rcases hu : s.update executionsTable patch (ownRecord id) with ⟨f | n, k⟩
  · exact Store.rows_update_error hu executionsTable
  · rw [hu] at ht
    exact absurd ⟨n, hu⟩ ht

lemma settled_store (hv : v.Happens d n r e) :
    v.settled.store = (v.after.store.update executionsTable v.outcome.progressPatch
      (ownRecord v.outcome.id)).2 := by
  have hw := store_write v.outcome.progressPatch v.outcome.id "Failed to record execution progress"
    v.after
  rw [← recordProgress_eq, hv.recorded] at hw
  exact hw

lemma settled_moves (hv : v.Happens d n r e) :
    Store.Moves (fun _ => True) v.after.store v.settled.store := by
  rw [settled_store hv]
  exact .update _ _ _ _ trivial

lemma kept_of_recorded (hv : v.Happens d n r e) (hrec : v.Recorded) (hh : h.steps <+: r.steps)
    (hold : ∀ o ∈ old, o.get "id" ≠ .text v.outcome.id)
    (hk : Kept old v.outcome.id ⟨v.after.store, h⟩) :
    Kept old v.outcome.id ⟨v.settled.store,
      { h with steps := v.outcome.steps, node := v.outcome.currentNode }⟩ := by
  obtain ⟨row, hrow, hs⟩ := hk
  -- the record may lag behind by any number of steps, but the run has done one more by now
  have hlen : v.outcome.steps.length ≠ h.steps.length := by
    have hle := hh.length_le
    rw [← hv.run] at hle
    show (v.run.steps ++ [v.step]).length ≠ _
    rw [List.length_append, List.length_singleton]
    omega
  have hb : v.settled.store.brings = v.after.store.brings :=
    Store.brings_of_moves (settled_moves hv)
  have hfind := find?_overwrite_progress hs.plain hs.steps (listsSteps_brings _ _) hlen
    v.after.store
  refine ⟨_, rows_of_takes hrec hrow hs.toRecords hold,
    records_overwrite hs.toRecords (plain_progressPatch _) rfl _, ?_, ?_, ?_⟩
  · rw [hfind]
    show (row.find? "status").map _ = _
    rw [hs.status]
    exact congrArg some (Store.brings_of_isJson (Value.isJson_text _))
  · rw [hfind]
    show some (v.after.store.brings _) = some (v.settled.store.brings _)
    rw [hb]
  · rw [hfind]
    exact congrArg some (Store.brings_of_isJson (isJson_ofText? _))

/-- What a visit does to the record: nothing during the work of the node, and then the progress is
held or not. -/
lemma kept_of_happens (hv : v.Happens d n r e) (hh : h.steps <+: r.steps)
    (hp : Store.Passes (· ≠ executionsTable) v.before.store (path v) v.after.store)
    (hold : ∀ o ∈ old, o.get "id" ≠ .text r.id) (hk : Kept old r.id ⟨e.store, h⟩) :
    (∀ k ∈ path v, Kept old r.id ⟨k, h⟩) ∧ Kept old r.id ⟨v.settled.store, v.holds h⟩ := by
  obtain ⟨hrows, hrows'⟩ := Store.rows_of_passes hp
  obtain ⟨hbrings, hbrings'⟩ := Store.brings_of_passes hp
  rw [hv.before] at hrows hrows' hbrings hbrings'
  refine ⟨fun k hk' => kept_of_rows (hrows k hk') (hbrings k hk') hk, ?_⟩
  have ha := kept_of_rows hrows' hbrings' hk
  rw [← id_outcome hv] at hold ha ⊢
  unfold Visit.holds
  split
  · rename_i hrec
    exact kept_of_recorded hv hrec hh hold ha
  · rename_i hrec
    unfold Visit.Recorded at hrec
    rw [settled_store hv] at hrec ⊢
    exact kept_of_refused ha hrec

lemma steps_outcome (hv : v.Happens d n r e) : v.outcome.steps = r.steps ++ [v.step] := by
  rw [← hv.run]
  rfl

lemma grows_holds (hv : v.Happens d n r e) (hh : h.steps <+: r.steps) :
    h.steps <+: (v.holds h).steps ∧ (v.holds h).steps <+: v.outcome.steps := by
  have hpre : h.steps <+: v.outcome.steps := by
    rw [steps_outcome hv]
    exact hh.trans (List.prefix_append _ _)
  unfold Visit.holds
  split
  · exact ⟨hpre, List.prefix_rfl⟩
  · exact ⟨List.prefix_rfl, hpre⟩

lemma status_holds (v : Visit) (h : Held) : (v.holds h).status = h.status := by
  unfold Visit.holds
  split
  · rfl
  · rfl

lemma forall_moments_cons {P : Moment → Prop} :
    (∀ m ∈ moments path h (v :: vs), P m) ↔
      (∀ k ∈ path v, P ⟨k, h⟩) ∧ P ⟨v.settled.store, v.holds h⟩ ∧
        ∀ m ∈ moments path (v.holds h) vs, P m := by
  rw [moments, List.forall_mem_append, List.forall_mem_map, List.forall_mem_cons]

lemma map_store_moments_cons (path : Visit → List Store) (h : Held) (v : Visit)
    (vs : List Visit) :
    (moments path h (v :: vs)).map Moment.store =
      path v ++ v.settled.store :: (moments path (v.holds h) vs).map Moment.store := by
  rw [moments, List.map_append, List.map_map, List.map_cons]
  exact congrArg (· ++ _) (List.map_id (path v))

/-! ### The moments of a walk -/

lemma kept_of_walks (hw : Walks d seen queue r e vs ending r' e')
    (hs : e.store.Steady executionsTable)
    (hp : ∀ v ∈ vs, Store.Passes (· ≠ executionsTable) v.before.store (path v) v.after.store)
    (hold : ∀ o ∈ old, o.get "id" ≠ .text r.id) (hh : h.steps <+: r.steps)
    (hk : Kept old r.id ⟨e.store, h⟩) :
    (∀ m ∈ moments path h vs, Kept old r.id m) ∧ Kept old r.id ⟨e'.store, heldAfter h vs⟩ := by
  -- along the walk: the record is as it should be, and lists no step that the run has not done
  induction hw generalizing h with
  | done => exact ⟨by simp [moments], hk⟩
  | pass _ _ ih => exact ih hs hp hold hh hk
  | visit _ hv _ _ ih =>
    rw [List.forall_mem_cons] at hp
    obtain ⟨hwork, hsettled⟩ := kept_of_happens hv hh hp.1 hold hk
    have hs' := steady_of_happens hv hs
    have hk' := hsettled
    rw [← store_left d] at hs' hk'
    rw [← id_outcome hv] at hold hk'
    obtain ⟨hrest, hend⟩ := ih hs' hp.2 hold (grows_holds hv hh).2 hk'
    rw [id_outcome hv] at hrest hend
    exact ⟨forall_moments_cons.mpr ⟨hwork, hsettled, hrest⟩, hend⟩
  | stop _ hv =>
    obtain ⟨hwork, hsettled⟩ := kept_of_happens hv hh (hp _ List.mem_cons_self) hold hk
    refine ⟨forall_moments_cons.mpr ⟨hwork, hsettled, by simp [moments]⟩, ?_⟩
    rw [store_left]
    exact hsettled
  | raise _ hx =>
    rw [(unreadable_of_raises hs hx).2]
    exact ⟨by simp [moments], hk⟩

lemma passes_of_walks (hw : Walks d seen queue r e vs ending r' e')
    (hs : e.store.Steady executionsTable)
    (hp : ∀ v ∈ vs, Store.Passes (· ≠ executionsTable) v.before.store (path v) v.after.store)
    (h : Held) :
    Store.Passes (fun _ => True) e.store ((moments path h vs).map Moment.store) e'.store := by
  induction hw generalizing h with
  | done => exact .still
  | pass _ _ ih => exact ih hs hp h
  | @visit _ _ _ _ _ v _ _ _ _ _ hv _ _ ih =>
    rw [List.forall_mem_cons] at hp
    have hs' := steady_of_happens hv hs
    rw [← store_left d] at hs'
    have hwork : Store.Passes (fun _ => True) v.before.store (path v) v.after.store :=
      hp.1.mono fun _ _ => trivial
    rw [hv.before] at hwork
    have hrest := ih hs' hp.2 (v.holds h)
    rw [store_left] at hrest
    rw [map_store_moments_cons]
    exact hwork.append (.move (settled_moves hv) hrest)
  | @stop _ _ _ _ _ v _ _ hv =>
    have hwork : Store.Passes (fun _ => True) v.before.store (path v) v.after.store :=
      (hp v List.mem_cons_self).mono fun _ _ => trivial
    rw [hv.before] at hwork
    rw [store_left, map_store_moments_cons]
    exact hwork.append (.one (settled_moves hv))
  | raise _ hx =>
    rw [(unreadable_of_raises hs hx).2]
    exact .still

/-- The steps that the record lists only grow. -/
structure Grows (path : Visit → List Store) (h : Held) (vs : List Visit) : Prop where
  pairs : (moments path h vs).Pairwise fun m m' => m.held.steps <+: m'.held.steps
  since : ∀ m ∈ moments path h vs, h.steps <+: m.held.steps
  upTo : ∀ m ∈ moments path h vs, m.held.steps <+: (heldAfter h vs).steps
  whole : h.steps <+: (heldAfter h vs).steps

lemma grows_nil (path : Visit → List Store) (h : Held) : Grows path h [] :=
  ⟨.nil, by simp [moments], by simp [moments], List.prefix_rfl⟩

lemma grows_cons (hv : h.steps <+: (v.holds h).steps) (hg : Grows path (v.holds h) vs) :
    Grows path h (v :: vs) where
  pairs := by
    rw [moments, List.pairwise_append, List.pairwise_map, List.pairwise_cons, List.forall_mem_map]
    refine ⟨List.pairwise_of_forall fun _ _ => List.prefix_rfl, ⟨hg.since, hg.pairs⟩, fun _ _ => ?_⟩
    exact List.forall_mem_cons.mpr ⟨hv, fun m hm => hv.trans (hg.since m hm)⟩
  since := forall_moments_cons.mpr
    ⟨fun _ _ => List.prefix_rfl, hv, fun m hm => hv.trans (hg.since m hm)⟩
  upTo := forall_moments_cons.mpr ⟨fun _ _ => hv.trans hg.whole, hg.whole, hg.upTo⟩
  whole := hv.trans hg.whole

lemma grows_of_walks (hw : Walks d seen queue r e vs ending r' e') (path : Visit → List Store)
    (hh : h.steps <+: r.steps) : Grows path h vs ∧ (heldAfter h vs).steps <+: r'.steps := by
  induction hw generalizing h with
  | done | raise => exact ⟨grows_nil path h, hh⟩
  | pass _ _ ih => exact ih hh
  | visit _ hv _ _ ih =>
    obtain ⟨hgrow, hdone⟩ := grows_holds hv hh
    obtain ⟨hrest, hlast⟩ := ih hdone
    exact ⟨grows_cons hgrow hrest, hlast⟩
  | stop _ hv =>
    obtain ⟨hgrow, hdone⟩ := grows_holds hv hh
    exact ⟨grows_cons hgrow (grows_nil path _), hdone⟩

lemma status_of_moments (path : Visit → List Store) (h : Held) (vs : List Visit) :
    (∀ m ∈ moments path h vs, m.held.status = h.status) ∧
      (heldAfter h vs).status = h.status := by
  induction vs generalizing h with
  | nil => exact ⟨by simp [moments], rfl⟩
  | cons v vs ih =>
    obtain ⟨hms, hend⟩ := ih (v.holds h)
    rw [status_holds] at hms hend
    exact ⟨forall_moments_cons.mpr ⟨fun _ _ => rfl, status_holds v h, hms⟩, hend⟩

/-! ### The moments of a run -/

lemma moments_of_ends (h : ∀ n f, t.ending ≠ .raised n f) (path : Visit → List Store) :
    t.moments d path = t.during path ++ [t.closing d] := by
  unfold Trace.moments
  split
  · rename_i n f he
    exact absurd he (h n f)
  · rfl
  · rfl

lemma moments_sublist (d : Definition) (t : Trace) (path : Visit → List Store) :
    (t.moments d path).Sublist (t.during path ++ [t.closing d]) := by
  unfold Trace.moments
  split
  · exact List.sublist_append_left _ _
  · exact List.Sublist.refl _
  · exact List.Sublist.refl _

lemma exists_through (ht : Ran d event payload retryCount e t)
    (ha : ∀ v ∈ t.visits, ∀ a ∈ v.node.asks v.run.scope, a.1 = .select ∨ a.2 ≠ executionsTable) :
    ∃ path, t.Through path := by
  have hpass : ∀ v : Visit, ∃ ss, v ∈ t.visits →
      Store.Passes (· ≠ executionsTable) v.before.store ss v.after.store := by
    intro v
    by_cases hv : v ∈ t.visits
    · have hk := Node.keeps_execute (frame_passes (· ≠ executionsTable)) v.node d.flow v.run.scope
        (ha v hv) v.before
      rw [(happens_of_mem ht.walked v hv).executed] at hk
      obtain ⟨ss, hss⟩ := hk
      exact ⟨ss, fun _ => hss⟩
    · exact ⟨[], fun hv' => absurd hv' hv⟩
  choose path hpath using hpass
  exact ⟨path, hpath⟩

lemma made_moves (ht : Ran d event payload retryCount e t) :
    Store.Moves (fun _ => True) e.store t.made.store := by
  obtain ⟨row, hs⟩ := store_of_launch ht.launched
  rw [hs]
  exact .insert e.store e.clock executionsTable row trivial

lemma kept_of_made (ht : Ran d event payload retryCount e t) :
    Kept (e.store.rows executionsTable) t.first.id ⟨t.made.store, {}⟩ := by
  obtain ⟨row, hrows, hrow⟩ := record_of_launch ht.launched
  refine ⟨row, hrows, hrow.toRecords, hrow.status, ?_, hrow.current⟩
  have hj : (stepsValue []).IsJson := rfl
  rw [hrow.steps]
  exact congrArg some (Store.brings_of_isJson hj).symm

lemma kept_of_closing (hold : ∀ o ∈ old, o.get "id" ≠ .text t.last.id)
    (hk : Kept old t.last.id ⟨t.walked.store, heldAfter {} t.visits⟩) :
    Kept old t.last.id (t.closing d) := by
  unfold Trace.closing
  dsimp only
  split
  · rename_i hc
    obtain ⟨row, hrow, hs⟩ := hk
    -- no earlier write changes the state, so this one does, and the row is written whole
    have hstatus : row.find? "status" = some RunStatus.running.value := by
      rw [hs.status]
      exact congrArg (fun st => some (RunStatus.value st)) (status_of_moments (fun _ => []) {} _).2
    have hother := fun {k : Key} =>
      find?_outcomePatch t.last (t.status d) (t.error d) t.walked.clock (k := k)
    have hfind := find?_overwrite_outcome d t hs.plain hstatus t.walked.clock t.walked.store
    have hmove : Store.Moves (fun _ => True) t.walked.store _ :=
      .update t.walked.store executionsTable (t.patch d) (ownRecord t.last.id) trivial
    refine ⟨_, rows_of_takes ((closes_iff rfl).mp hc) hrow hs.toRecords hold,
      records_overwrite hs.toRecords (plain_outcomePatch _ _ _ _) (hother (by decide)) _,
      ?_, ?_, ?_⟩
    · rw [hfind, hother (by decide)]
      exact congrArg some (Store.brings_of_isJson (Value.isJson_text _))
    · rw [hfind, hother (by decide)]
      show some (t.walked.store.brings _) = some (Store.brings _ _)
      rw [Store.brings_of_moves hmove]
      rfl
    · rw [hfind, hother (by decide)]
      show (row.find? "current_step_id").map _ = _
      rw [hs.current]
      exact congrArg some (Store.brings_of_isJson (isJson_ofText? _))
  · rename_i hc
    exact kept_of_refused hk fun ht => hc ((closes_iff rfl).mpr ht)

lemma closing_of_once (hs : e.store.Steady executionsTable)
    (ht : Ran d event payload retryCount e t) (hy : ∀ n f, t.ending ≠ .raised n f) :
    ((once d event payload retryCount).perform e).2.store = (t.closing d).store := by
  obtain ⟨closed, hf, -⟩ := finalize_returns (steady_of_walks ht.walked (steady_made ht hs)) t.last
    (t.status d) (t.error d)
  rw [once_of_returned ht ⟨hy, hf⟩]
  rw [finalize_eq] at hf
  have hw := store_write (t.patch d) t.last.id "Failed to finalize execution" t.walked
  obtain ⟨⟨⟩, k, hk, hl⟩ := perform_bind_ok.mp hf
  rw [Trace.patch, hk] at hw
  cases hl
  exact hw

lemma walked_of_once {f : Failure} (ht : Ran d event payload retryCount e t)
    (hr : t.ending = .raised n f) :
    ((once d event payload retryCount).perform e).2.store = t.walked.store := by
  rw [once_error_iff.mpr (Or.inr ⟨t, ht, Or.inl ⟨n, hr, rfl⟩⟩)]

lemma kept_of_ran (hs : e.store.Steady executionsTable) (ht : Ran d event payload retryCount e t)
    (hfresh : ∀ row ∈ e.store.rows executionsTable, row.get "id" ≠ .text t.first.id)
    (hp : t.Through path) :
    (∀ m ∈ t.during path, Kept (e.store.rows executionsTable) t.first.id m) ∧
      Kept (e.store.rows executionsTable) t.first.id (t.closing d) := by
  have hmade := kept_of_made ht
  obtain ⟨hwalk, hend⟩ :=
    kept_of_walks ht.walked (steady_made ht hs) hp hfresh List.nil_prefix hmade
  rw [← id_of_walks ht.walked] at hend hfresh
  refine ⟨List.forall_mem_cons.mpr ⟨hmade, hwalk⟩, ?_⟩
  rw [← id_of_walks ht.walked]
  exact kept_of_closing hfresh hend

lemma grows_of_ran (ht : Ran d event payload retryCount e t) (path : Visit → List Store) :
    (t.during path ++ [t.closing d]).Pairwise (fun m m' => m.held.steps <+: m'.held.steps) ∧
      ∀ m ∈ t.during path ++ [t.closing d], m.held.steps <+: t.steps := by
  obtain ⟨hg, hlast⟩ := grows_of_walks ht.walked path (h := {}) List.nil_prefix
  have hclose : (heldAfter {} t.visits).steps <+: (t.closing d).held.steps ∧
      (t.closing d).held.steps <+: t.steps := by
    unfold Trace.closing
    dsimp only
    split
    · exact ⟨hlast, List.prefix_rfl⟩
    · exact ⟨List.prefix_rfl, hlast⟩
  constructor
  · rw [List.pairwise_append, Trace.during, List.pairwise_cons, List.forall_mem_cons]
    refine ⟨⟨fun m _ => List.nil_prefix, hg.pairs⟩, List.pairwise_singleton _ _, ?_, fun m hm => ?_⟩
    · exact fun _ _ => List.nil_prefix
    · rw [List.forall_mem_singleton]
      exact (hg.upTo m hm).trans hclose.1
  · rw [List.forall_mem_append, Trace.during, List.forall_mem_cons, List.forall_mem_singleton]
    exact ⟨⟨List.nil_prefix, fun m hm => (hg.upTo m hm).trans hlast⟩, hclose.2⟩

lemma passes_of_once (hs : e.store.Steady executionsTable)
    (ht : Ran d event payload retryCount e t) (hp : t.Through path) :
    Store.Passes (fun _ => True) e.store ((t.moments d path).map Moment.store)
      ((once d event payload retryCount).perform e).2.store := by
  have hduring : Store.Passes (fun _ => True) e.store ((t.during path).map Moment.store)
      t.walked.store :=
    .move (made_moves ht) (passes_of_walks ht.walked (steady_made ht hs) hp {})
  by_cases hr : ∃ n f, t.ending = .raised n f
  · obtain ⟨n, f, hr⟩ := hr
    rw [walked_of_once ht hr, Trace.moments, hr]
    exact hduring
  · have hy : ∀ n f, t.ending ≠ .raised n f := fun n f h => hr ⟨n, f, h⟩
    rw [closing_of_once hs ht hy, moments_of_ends hy, List.map_append]
    exact hduring.append (.one (.update _ _ _ _ trivial))

/-- **The record at every moment** of a run in which the updates of its record may fail as they
will, and whose nodes write to other tables. The moments are the stores that the run passes through,
one operation after the other. At each of them the table of executions is what it was, with the
record of the run, and the record lists exactly the steps done by the last write that was taken.
These lists only grow, up to the steps of the run. The record says that the run is in progress until
the outcome is taken, which is the last thing that happens to it. -/
theorem record_at_moments (hs : e.store.Steady executionsTable)
    (ht : Ran d event payload retryCount e t)
    (hfresh : ∀ row ∈ e.store.rows executionsTable, row.get "id" ≠ .text t.first.id)
    (ha : ∀ v ∈ t.visits, ∀ a ∈ v.node.asks v.run.scope, a.1 = .select ∨ a.2 ≠ executionsTable) :
    (∃ path, t.Through path) ∧ ∀ path, t.Through path →
      Store.Passes (fun _ => True) e.store ((t.moments d path).map Moment.store)
        ((once d event payload retryCount).perform e).2.store ∧
      (∀ m ∈ t.moments d path, Kept (e.store.rows executionsTable) t.first.id m) ∧
      (t.moments d path).Pairwise (fun m m' => m.held.steps <+: m'.held.steps) ∧
      (∀ m ∈ t.moments d path, m.held.steps <+: t.steps) ∧
      (∀ m ∈ t.during path, m.held.status = .running) ∧
      (t.closing d).held.status = if t.Closes d then t.status d else .running := by
  refine ⟨exists_through ht ha, fun path hp => ⟨passes_of_once hs ht hp, ?_, ?_, ?_, ?_, ?_⟩⟩
  · obtain ⟨hduring, hclosing⟩ := kept_of_ran hs ht hfresh hp
    intro m hm
    rcases List.mem_append.mp ((moments_sublist d t path).subset hm) with hm | hm
    · exact hduring m hm
    · rw [List.mem_singleton.mp hm]
      exact hclosing
  · exact (grows_of_ran ht path).1.sublist (moments_sublist d t path)
  · exact fun m hm => (grows_of_ran ht path).2 m ((moments_sublist d t path).subset hm)
  · exact List.forall_mem_cons.mpr ⟨rfl, (status_of_moments path {} t.visits).1⟩
  · unfold Trace.closing
    dsimp only
    split
    · rfl
    · exact (status_of_moments path {} t.visits).2

/-- A trigger, and a task after it. -/
def tasked : Definition where
  id := "tasked"
  flow := {
    nodes := [
      { id := "a", type := some "trigger" },
      { id := "b", type := some "create_task", data := [("title", .text "call")] }]
    edges := [{ source := "a", target := "b" }] }

/-- The store takes so many updates of the records of runs, fails at the next one, and then takes
all of them. -/
def hindrance (taken : Int) : Store.PlannedFault where
  operation := some .update
  table := some executionsTable
  skip := taken
  times := some 1

def hinderedEngine (taken : Int) : Engine := { store := { planned := [hindrance taken] } }

def hinderedTrace (taken : Int) : Option Trace :=
  trace? 9 tasked .null (.object []) (.int 0) (hinderedEngine taken)

theorem record_at_moments_tasked :
    ∃ t, Ran tasked .null (.object []) (.int 0) (hinderedEngine 0) t ∧
      t.visits.map (fun v => (v.node.id, decide v.Recorded)) = [("a", false), ("b", true)] ∧
      ∃ path, t.Through path ∧ ∀ m ∈ t.moments tasked path, Kept [] t.first.id m := by
  let t := (hinderedTrace 0).get (by decide +kernel)
  have ht : Ran tasked .null (.object []) (.int 0) (hinderedEngine 0) t :=
    ran_of_trace? (Option.some_get _).symm
  obtain ⟨⟨path, hpath⟩, h⟩ := record_at_moments (by unfold Store.Steady; decide +kernel) ht
    (by decide +kernel) (by decide +kernel)
  exact ⟨t, ht, by decide +kernel, path, hpath, (h path hpath).2.1⟩

end Run

end CrmAutomation

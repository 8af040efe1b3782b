import CrmAutomation.Proofs.Node.Outcome
import Mathlib.Data.List.Forall2

/-!
What executing a node changes in the tables and among the variables of its run.

Before a node asks the store for anything it may refuse, and then nothing was done. Otherwise it
comes to what one operation of the store comes to: it is done if the operation is, and the operation
changes no row if it fails. So a node that fails has not half happened, and one that is done has
changed what its kind says and nothing else.
-/

namespace CrmAutomation

open EngineM Record Calendar

/-! ### Changes of tables -/

namespace Store

/-- No table has other rows. -/
def SameRows (s s' : Store) : Prop := ∀ table, s'.rows table = s.rows table

/-- One row is added to a table, at its end, and no other row is touched. -/
def Appends (table : String) (s s' : Store) : Prop :=
  ∃ row, ∀ other, s'.rows other = if table = other then s.rows table ++ [row] else s.rows other

/-- Rows stand in the store as it brings them back. All rows in memory do, and in a database all
that operations have written. -/
def Kept (s : Store) : Prop := ∀ table, ∀ row ∈ s.rows table, s.brings (.object row) = .object row

/-- A value was set in a field of a row: no other field is touched, and what stands there now is the
value as the store brings it back, or what stood there before and is equal to it. -/
structure Assigned (s : Store) (field : String) (value : Value) (row row' : Row) : Prop where
  others : ∀ key : Key, key ≠ field → row'.find? key = row.find? key
  field : ∃ v, row'.find? field = some v ∧
    (v = s.brings value ∨ row' = row ∧ (Value.isSameNoNumber value v || value.agrees v) = true)

/-- A value was set in a field of the rows of a table that have an id, and no other row is
touched. -/
structure Assigns (table field : String) (id value : Value) (s s' : Store) : Prop where
  others : ∀ other, other ≠ table → s'.rows other = s.rows other
  rows : List.Forall₂
    (fun row row' =>
      if (row.get "id").agrees id then s.Assigned field value row row' else row' = row)
    (s.rows table) (s'.rows table)

variable {s s' : Store} {t : Instant} {table field : String} {row stored : Row} {n : ℕ}
  {id value : Value}

lemma keep_of_kept (hk : s.Kept) (hrow : row ∈ s.rows table) : s.keep row = row := by
  have h := hk table row hrow
  rw [brings_object, Value.object.injEq] at h
  exact h

lemma appends_of_insert (h : s.insert t table row = (.ok stored, s')) : s.Appends table s' :=
  ⟨s.keep stored, fun other => (rows_insert h other).2⟩

lemma assigned_overwrite (hk : s.keep row = row) (field : String) (value : Value) :
    s.Assigned field value row (s.overwrite row [(.text field, value)]) := by
  have hset : Fields.find? [(.text field, value)] (.text field) = some value := by
    simp [Fields.find?_cons]
  have hunset : ∀ key : Key, key ≠ field → Fields.find? [(.text field, value)] key = none :=
    fun key hkey => by simp [Fields.find?, Ne.symm hkey]
  have hf : Fields.Plain [(.text field, value)] := ⟨by simp, by simp⟩
  rcases overwrite_of_keep hk hf with ho | ⟨ho, ha⟩
  · refine ⟨fun key hkey => ?_, s.brings value, by rw [ho, hset]; rfl, Or.inl rfl⟩
    rw [ho, hunset key hkey]
    rfl
  · have hv : (row.merge [(.text field, value)]).find? (.text field) = some value := by
      rw [Fields.find?_merge row hf.nodup, hset, Option.some_or]
    obtain ⟨w, hw, hs⟩ := Value.agrees_find? ha hv
    rw [ho]
    exact ⟨fun _ _ => rfl, w, hw, Or.inr ⟨rfl, hs⟩⟩

lemma matchesAll_value {row : Row} :
    matchesAll [⟨"id", .equals, id⟩] row = (row.get "id").agrees id := by
  simp [matchesAll, Filter.passes, Relation.holds]

lemma assigns_of_update (hk : s.Kept)
    (h : s.update table [(.text field, value)] [⟨"id", .equals, id⟩] = (.ok n, s')) :
    s.Assigns table field id value s' := by
  refine ⟨fun other ho => by rw [rows_update h, if_neg (Ne.symm ho)], ?_⟩
  rw [rows_update h, if_pos rfl, List.forall₂_map_right_iff, List.forall₂_same]
  intro row hrow
  rw [matchesAll_value]
  split
  · exact assigned_overwrite (keep_of_kept hk hrow) field value
  · rfl

lemma brings_overwrite (hk : s.brings (.object row) = .object row) (fields : Fields) :
    s.brings (.object (s.overwrite row fields)) = .object (s.overwrite row fields) := by
  rcases hb : s.backend with tables | ⟨phase, archive⟩
  · simp only [brings, hb, id]
  · simp only [brings, hb] at hk
    simp only [brings, overwrite, hb, Archive.patchRow]
    split
    · exact hk
    · exact Value.isJson_restored (.object (row.merge fields))

/-- Every operation leaves rows as they are brought back: those that it writes go the same way. -/
theorem kept_of_moves {writes : String → Prop} {k : Store} (h : Moves writes s k) (hs : s.Kept) :
    k.Kept := by
  have hb := brings_of_moves h
  have hsame : s.SameRows k → k.Kept := fun hr table row hrow => by
    rw [hb]
    exact hs table row (hr table ▸ hrow)
  cases h with
  | insert t table row =>
    rcases hi : s.insert t table row with ⟨r | stored, k⟩
    · rw [hi] at hsame
      exact hsame fun other => rows_insert_error hi other
    · rw [hi] at hb
      intro other row hrow
      rw [hb]
      rw [(rows_insert hi other).2] at hrow
      split at hrow
      · rcases List.mem_append.mp hrow with hold | hnew
        · exact hs table row hold
        · rw [List.mem_singleton.mp hnew, ← brings_object, brings_brings]
      · exact hs other row hrow
  | update table fields fs =>
    rcases hu : s.update table fields fs with ⟨r | n, k⟩
    · rw [hu] at hsame
      exact hsame fun other => rows_update_error hu other
    · rw [hu] at hb
      intro other row hrow
      rw [hb]
      rw [rows_update hu other] at hrow
      split at hrow
      · obtain ⟨old, hold, rfl⟩ := List.mem_map.mp hrow
        split
        · exact brings_overwrite (hs table old hold) fields
        · exact hs table old hold
      · exact hs other row hrow
  | select table q => exact hsame fun other => rows_select s table q other

end Store

namespace Node

/-! ### Refusing, or coming to an operation -/

/-- A result that is no failure. -/
def Succeeds (o : Except Failure NodeResult) : Prop := ∃ r, o = .ok r ∧ r.succeeded = true

/-- Work on an engine came to nothing, and did not touch the store. -/
structure Refuses (e : Engine) (o : Except Failure NodeResult × Engine) : Prop where
  store : o.2.store = e.store
  failed : ¬Succeeds o.1

variable {α β : Type}

/-- Work on an engine came to one operation of the store, and is done if that is. What is handed to
later nodes is decided by what the operation yields. -/
structure ComesTo (op : Store → Store.Outcome β) (binding : β → Option (String × Value))
    (e : Engine) (o : Except Failure NodeResult × Engine) : Prop where
  store : o.2.store = (op e.store).2
  done : ∀ b, (op e.store).1 = .ok b →
    ∃ r, o.1 = .ok r ∧ r.succeeded = true ∧ r.binding = binding b
  failed : ∀ g, (op e.store).1 = .error g → ¬Succeeds o.1

/-- Work refuses, or comes to one of some operations. -/
def Ends (ops : (Store → Store.Outcome β) → Prop) (binding : β → Option (String × Value))
    (e : Engine) (o : Except Failure NodeResult × Engine) : Prop :=
  Refuses e o ∨ ∃ op, ops op ∧ ComesTo op binding e o

/-- Work comes to a result, and does not touch the store. -/
def Finishes (x : EngineM NodeResult) (r : NodeResult) : Prop :=
  ∀ e, ∃ k, x.perform e = (.ok r, k) ∧ k.store = e.store

variable {x : EngineM NodeResult} {e e' : Engine} {op : Store → Store.Outcome β}
  {ops : (Store → Store.Outcome β) → Prop} {binding : β → Option (String × Value)}
  {r : NodeResult} {scope : Scope} {node : Node} {flow : Flow}

lemma not_succeeds_error (f : Failure) : ¬Succeeds (.error f) := by
  rintro ⟨r, h, -⟩
  cases h

lemma not_succeeds_of_failed (h : r.succeeded = false) : ¬Succeeds (.ok r) := by
  rintro ⟨r', h', hs⟩
  cases h'
  rw [h] at hs
  cases hs

lemma finishes_pure (r : NodeResult) : Finishes (pure r) r := fun e => ⟨e, rfl, rfl⟩

lemma finishes_log (level : Log.Level) (event : String) (h : Finishes x r) :
    Finishes (do log level event; x) r := by
  intro e
  obtain ⟨k, hk, hs⟩ := h (e.noting level event)
  exact ⟨k, (perform_bind_of_ok (perform_log _ _ _)).trans hk, hs⟩

lemma ends_failed (f : NodeFault) (output : Option Fields) (e : Engine) :
    Ends ops binding e (.ok (.failed f output), e) :=
  Or.inl ⟨rfl, not_succeeds_of_failed rfl⟩

lemma ends_bind {x : EngineM α} {f : α → EngineM NodeResult} (hx : (x.perform e).2 = e)
    (hf : ∀ a, x.perform e = (.ok a, e) → Ends ops binding e ((f a).perform e)) :
    Ends ops binding e ((x >>= f).perform e) := by
  rcases hp : x.perform e with ⟨g | a, k⟩
  · rw [hp] at hx
    cases hx
    rw [perform_bind_of_error hp]
    exact Or.inl ⟨rfl, not_succeeds_error g⟩
  · rw [hp] at hx
    cases hx
    rw [perform_bind_of_ok hp]
    exact hf a hp

lemma looks_ofExcept {ε : Type} (c : ε → Crash) (r : Except ε α) (e : Engine) :
    ((ofExcept c r).perform e).2 = e := by
  rcases r with k | a
  · rfl
  · rfl

lemma looks_expandOptional (scope : Scope) (template : Option String) (e : Engine) :
    ((scope.expandOptional template).perform e).2 = e := by
  rcases template with _ | template
  · rfl
  · rw [Scope.expandOptional, Scope.expand]
    rcases Template.expand scope.value template with k | s
    · rfl
    · rfl

lemma looks_resolveFilters (scope : Scope) (fs : List FetchFilter) (e : Engine) :
    ((fs.mapM (resolveFilter scope)).perform e).2 = e := by
  induction fs with
  | nil => rfl
  | cons f fs ih =>
    rw [List.mapM_cons, perform_bind]
    unfold resolveFilter Scope.resolve
    rcases Value.resolve scope.value f.value with k | v
    · rfl
    · show ((fs.mapM (resolveFilter scope) >>= fun rest => pure (_ :: rest)).perform e).2 = e
      rw [perform_bind]
      rcases hp : (fs.mapM (resolveFilter scope)).perform e with ⟨g | rest, k⟩
      · rw [hp] at ih
        exact ih
      · rw [hp] at ih
        exact ih

lemma comesTo_stored {y : β → EngineM NodeResult} {h : Store.Fault → EngineM NodeResult}
    (op : Store → Store.Outcome β)
    (hy : ∀ b, ∃ r, Finishes (y b) r ∧ r.succeeded = true ∧ r.binding = binding b)
    (hh : ∀ f, ∃ r, Finishes (h f) r ∧ r.succeeded = false) (e : Engine) :
    ComesTo op binding e (((stored op >>= y).onStorageFault h).perform e) := by
  have hreturns : ∀ b e, ∃ r k, (y b).perform e = (.ok r, k) := fun b e => by
    obtain ⟨r, hr, -⟩ := hy b
    obtain ⟨k, hk, -⟩ := hr e
    exact ⟨r, k, hk⟩
  rw [onStorageFault_stored op hreturns]
  rcases ho : op e.store with ⟨g | b, s⟩
  · cases g with
    | fault f =>
      obtain ⟨r, hr, hs⟩ := hh f
      obtain ⟨k, hk, hstore⟩ := hr ({ e with store := s }.notingAll (databaseNotes f))
      dsimp only
      rw [hk]
      refine ⟨by rw [ho]; exact hstore, fun b hb => ?_, fun _ _ => not_succeeds_of_failed hs⟩
      rw [ho] at hb
      cases hb
    | program text | hugeKey =>
      refine ⟨by rw [ho], fun b hb => ?_, fun _ _ => not_succeeds_error _⟩
      rw [ho] at hb
      cases hb
  · obtain ⟨r, hr, hs, hb⟩ := hy b
    obtain ⟨k, hk, hstore⟩ := hr { e with store := s }
    dsimp only
    rw [hk]
    refine ⟨by rw [ho]; exact hstore, fun b' hb' => ?_, fun g hg => ?_⟩
    · rw [ho] at hb'
      cases hb'
      exact ⟨r, rfl, hs, hb⟩
    · rw [ho] at hg
      cases hg

lemma comesTo_insert {y : Row → EngineM NodeResult} {h : Store.Fault → EngineM NodeResult}
    {binding : Row → Option (String × Value)} (table : String) (row : Row)
    (hy : ∀ b, ∃ r, Finishes (y b) r ∧ r.succeeded = true ∧ r.binding = binding b)
    (hh : ∀ f, ∃ r, Finishes (h f) r ∧ r.succeeded = false) (e : Engine) :
    ComesTo (·.insert e.clock table row) binding e
      (((insert table row >>= y).onStorageFault h).perform e) := by
  have hins : (insert table row >>= y).perform e =
      (stored (·.insert e.clock table row) >>= y).perform e := by
    show (now >>= _ >>= y).perform e = _
    rw [bind_assoc, perform_bind_of_ok (perform_now e)]
  rw [onStorageFault_congr hins]
  exact comesTo_stored _ hy hh e

/-! ### Nodes that write or fetch -/

lemma ends_runTask (p : TaskParams) (scope : Scope) (e : Engine) :
    Ends (fun op => ∃ row, op = fun s => s.insert e.clock tasksTable row) (fun _ => none) e
      ((runTask p scope).perform e) := by
  refine ends_bind (looks_ofExcept _ _ e) fun title _ => ?_
  split
  · exact ends_failed _ _ e
  · refine ends_bind rfl fun today _ => ?_
    refine ends_bind (looks_ofExcept _ _ e) fun due _ => ?_
    refine ends_bind (looks_ofExcept _ _ e) fun description _ => ?_
    refine ends_bind (looks_expandOptional _ _ e) fun assignee _ => ?_
    refine Or.inr ⟨_, ⟨_, rfl⟩, comesTo_insert tasksTable _ (fun b => ?_) (fun f => ?_) e⟩
    · exact ⟨_, finishes_pure _, rfl, rfl⟩
    · exact ⟨_, finishes_pure _, rfl⟩

lemma ends_runStatus (p : StatusParams) (scope : Scope) (e : Engine) :
    Ends (fun op => ∃ value, Value.resolve scope.value p.value = .ok value ∧
        op = fun s => s.update p.table [(.text p.field, value)]
          [⟨"id", .equals, scope.get "entity_id"⟩]) (fun _ => none) e
      ((runStatus p scope).perform e) := by
  refine ends_bind (looks_ofExcept _ _ e) fun value hv => ?_
  dsimp only
  split
  · exact ends_failed _ _ e
  · refine Or.inr ⟨_, ⟨value, (perform_ofExcept_ok.mp hv).1, rfl⟩, ?_⟩
    refine comesTo_stored _ (fun b => ?_) (fun f => ?_) e
    · exact ⟨_, finishes_pure _, rfl, rfl⟩
    · exact ⟨_, finishes_pure _, rfl⟩

/-- The variable that a fetch sets. -/
def fetchBinding (p : FetchParams) (rows : List Row) : Option (String × Value) :=
  some (resultsName p.table, .list (rows.map .object))

/-- What a fetch asks for: the rows that pass its filters with their values resolved, and no more
than the settings allow. -/
def Seeks (p : FetchParams) (scope : Scope) (e : Engine) (op : Store → Store.Outcome (List Row)) :
    Prop :=
  ∃ filters, (p.filters.mapM (resolveFilter scope)).perform e = (.ok filters, e) ∧
    op = fun s => s.select p.table { filters, limit := some e.settings.fetchRowLimit }

lemma ends_runFetch (p : FetchParams) (scope : Scope) (e : Engine) :
    Ends (Seeks p scope e) (fetchBinding p) e ((runFetch p scope).perform e) := by
  unfold runFetch
  split
  · exact ends_failed _ _ e
  · refine ends_bind (looks_resolveFilters _ _ e) fun filters hf => ?_
    refine ends_bind rfl fun s hs => ?_
    cases hs
    refine Or.inr ⟨_, ⟨filters, hf, rfl⟩, comesTo_stored _ (fun rows => ?_) (fun f => ?_) e⟩
    · exact ⟨_, finishes_log _ _ (finishes_pure _), rfl, rfl⟩
    · exact ⟨_, finishes_pure _, rfl⟩

lemma perform_make {n : Notification} (h : n.user.isTruthy = true) (e : Engine) :
    n.make.perform e =
      match e.store.insert e.clock notificationsTable n.row with
      | (.ok row, s) => (.ok row, { e with store := s }.noting .debug "Notification created")
      | (.error (.fault f), s) =>
        (.error (.notification (.notStored f)), { e with store := s }.notingAll (databaseNotes f))
      | (.error r, s) => (.error r.failure, { e with store := s }) := by
  have hins := onStorageFault_insert notificationsTable n.row (y := pure)
    (fun row k => ⟨row, k, rfl⟩) (fun f => throw (.notification (.notStored f))) e
  rw [bind_pure] at hins
  unfold Notification.make
  rw [if_pos h, perform_bind, hins]
  rcases e.store.insert e.clock notificationsTable n.row with ⟨(_ | _ | _) | _, s⟩
  iterate 4 rfl

lemma ends_runNotification (p : NotificationParams) (scope : Scope) (e : Engine) :
    Ends (fun op => ∃ row, op = fun s => s.insert e.clock notificationsTable row) (fun _ => none) e
      ((runNotification p scope).perform e) := by
  refine ends_bind (looks_ofExcept _ _ e) fun title _ => ?_
  refine ends_bind (looks_ofExcept _ _ e) fun message _ => ?_
  split
  · exact ends_failed _ _ e
  · refine ends_bind rfl fun s _ => ?_
    let n : Notification := {
      user := actor scope s, title := .text title, message := .text message
      type := .text p.notificationType, entityType := scope.get "entity_type"
      entityId := scope.get "entity_id" }
    dsimp only
    rw [perform_onNotificationFault, perform_bind]
    by_cases hu : n.user.isTruthy = true
    · rw [perform_make hu]
      refine Or.inr ⟨_, ⟨n.row, rfl⟩, ?_⟩
      rcases hi : e.store.insert e.clock notificationsTable n.row with ⟨g | row, s⟩
      · refine ⟨?_, fun b hb => ?_, fun _ _ => ?_⟩
        · rw [hi]
          cases g <;> rfl
        · rw [hi] at hb
          cases hb
        · cases g with
          | fault f => exact not_succeeds_of_failed rfl
          | program text | hugeKey => exact not_succeeds_error _
      · refine ⟨by rw [hi]; rfl, fun b _ => ⟨_, rfl, rfl, rfl⟩, fun g hg => ?_⟩
        rw [hi] at hg
        cases hg
    · have hno : n.make.perform e = (.error (.notification .noUser), e) := by
        unfold Notification.make
        rw [if_neg hu]
        rfl
      rw [hno]
      exact ends_failed _ _ e

/-! ### Execution -/

lemma ends_onFailure {h : Failure → EngineM NodeResult} (hx : Ends ops binding e (x.perform e))
    (hh : ∀ f, ∃ r, Finishes (h f) r ∧ r.succeeded = false) :
    Ends ops binding e ((x.onFailure h).perform e) := by
  rcases hp : x.perform e with ⟨f | r, k⟩
  · obtain ⟨r, hr, hs⟩ := hh f
    obtain ⟨k', hk', hstore⟩ := hr k
    rw [onFailure_of_error hp, hk']
    rw [hp] at hx
    rcases hx with hx | ⟨op, hop, hx⟩
    · exact Or.inl ⟨hstore.trans hx.store, not_succeeds_of_failed hs⟩
    · refine Or.inr ⟨op, hop, hstore.trans hx.store, fun b hb => ?_,
        fun _ _ => not_succeeds_of_failed hs⟩
      obtain ⟨r', hr', -⟩ := hx.done b hb
      cases hr'
  · rw [onFailure_of_ok hp, ← hp]
    exact hx

lemma params?_eq_some {p : Params} (h : node.params? = some p) :
    ∃ name given kind known, node.form = .ok (name, given) ∧ kindOf name = some kind ∧
      readParams kind given = .ok known ∧ known.params = p := by
  unfold params? at h
  obtain ⟨⟨name, given⟩, hform, h⟩ := Option.bind_eq_some_iff.mp h
  obtain ⟨kind, hkind, h⟩ := Option.bind_eq_some_iff.mp h
  split at h
  · rename_i known hknown
    refine ⟨name, given, kind, known, ?_, hkind, hknown, Option.some.inj h⟩
    rcases hf : node.form with k | form
    · rw [hf] at hform
      cases hform
    · rw [hf] at hform
      cases hform
      rfl
  · cases h

lemma perform_execute {p : Params} (hp : node.params? = some p) (flow : Flow) (scope : Scope)
    (e : Engine) :
    (node.execute flow scope).perform e =
      ((work node flow scope p).onFailure fun f => do
        log .error "Node execution error"
        pure (.failed (.failure f))).perform e := by
  obtain ⟨name, given, kind, known, hform, hkind, hknown, rfl⟩ := params?_eq_some hp
  rw [execute_of_form hform hkind]
  unfold executeKind
  rw [hknown]

lemma ends_execute {p : Params} (hp : node.params? = some p)
    (h : Ends ops binding e ((work node flow scope p).perform e)) :
    Ends ops binding e ((node.execute flow scope).perform e) := by
  rw [perform_execute hp]
  exact ends_onFailure h fun f => ⟨_, finishes_log _ _ (finishes_pure _), rfl⟩

variable {o : Except Failure NodeResult × Engine}

lemma sameRows_of_ends (h : Ends ops binding e o) (ho : o = (.ok r, e'))
    (hr : r.succeeded = false)
    (hops : ∀ op, ops op → ∀ s g s', op s = (.error g, s') → s.SameRows s') :
    e.store.SameRows e'.store := by
  subst ho
  rcases h with h | ⟨op, hop, h⟩
  · intro table
    rw [show e'.store = e.store from h.store]
  · rcases hx : op e.store with ⟨g | b, s⟩
    · have hs : e'.store = s := by rw [show e'.store = _ from h.store, hx]
      rw [hs]
      exact hops op hop e.store g s hx
    · obtain ⟨r', hr', hs, -⟩ := h.done b (congrArg Prod.fst hx)
      cases hr'
      rw [hr] at hs
      cases hs

lemma done_of_ends (h : Ends ops binding e o) (ho : o = (.ok r, e')) (hr : r.succeeded = true) :
    ∃ op b, ops op ∧ op e.store = (.ok b, e'.store) ∧ r.binding = binding b := by
  subst ho
  rcases h with h | ⟨op, hop, h⟩
  · exact absurd ⟨r, rfl, hr⟩ h.failed
  · rcases hx : op e.store with ⟨g | b, s⟩
    · exact absurd ⟨r, rfl, hr⟩ (h.failed g (congrArg Prod.fst hx))
    · obtain ⟨r', hr', -, hb⟩ := h.done b (congrArg Prod.fst hx)
      cases hr'
      refine ⟨op, b, hop, ?_, hb⟩
      rw [hx, show e'.store = _ from h.store, hx]

/-! ### What a node changes -/

/-- The fetch selects the rows. -/
def Fetched (p : FetchParams) (scope : Scope) (e : Engine) (rows : List Row) : Prop :=
  ∃ filters s, (p.filters.mapM (resolveFilter scope)).perform e = (.ok filters, e) ∧
    e.store.select p.table { filters, limit := some e.settings.fetchRowLimit } = (.ok rows, s)

/-- What a node that is done has made of the tables and of the scope, by its parameters. Kinds that
are not known have none. -/
def Changes (scope : Scope) (e : Engine) (after : Scope) (s : Store) : Option Params → Prop
  | some (.createTask _) => e.store.Appends tasksTable s ∧ after = scope
  | some (.notification _) => e.store.Appends notificationsTable s ∧ after = scope
  | some (.fetchData p) => e.store.SameRows s ∧ ∃ rows, Fetched p scope e rows ∧
      after = scope.bind (resultsName p.table, .list (rows.map .object))
  | some (.updateStatus p) => (∃ value, Value.resolve scope.value p.value = .ok value ∧
      e.store.Assigns p.table p.field (scope.get "entity_id") value s) ∧ after = scope
  | some (.trigger _) | some (.sendEmail _) | some (.condition _) | some (.delay _)
  | some (.loop _) | none => e.store.SameRows s ∧ after = scope

lemma frame_sameRows : Frame (fun _ => False) fun e e' => e.store.SameRows e'.store where
  refl _ _ := rfl
  trans _ _ _ h₁ h₂ table := (h₂ table).trans (h₁ table)
  journal _ _ _ := rfl
  clock _ _ _ := rfl
  mail _ _ _ := rfl
  insert _ _ _ _ h := h.elim
  update _ _ _ _ h := h.elim
  select e table q other := Store.rows_select e.store table q other

lemma sameRows_of_asks (ha : ∀ a ∈ node.asks scope, a.1 = .select)
    (h : (node.execute flow scope).perform e = (.ok r, e')) : e.store.SameRows e'.store := by
  have hk := keeps_execute frame_sameRows node flow scope (fun a h => Or.inl (ha a h)) e
  rw [h] at hk
  exact hk

lemma select_of_fetch {p : FetchParams} (hp : node.params? = some (.fetchData p)) :
    ∀ a ∈ node.asks scope, a.1 = .select := by
  simp only [asks, hp, Params.asks]
  split
  · simp
  · simp

lemma settle_of_unbound (h : r.binding = none) (scope : Scope) : r.settle scope = scope := by
  rw [NodeResult.settle, h]

lemma unbound_of_failed (h : r.succeeded = false) : r.binding = none := by
  cases r with
  | done => cases h
  | failed => rfl

lemma fetched_of_execute {p : FetchParams} (hp : node.params? = some (.fetchData p))
    (h : (node.execute flow scope).perform e = (.ok r, e')) (hr : r.succeeded = true) :
    ∃ rows, Fetched p scope e rows ∧
      r.settle scope = scope.bind (resultsName p.table, .list (rows.map .object)) := by
  obtain ⟨_, rows, ⟨filters, hf, rfl⟩, hs, hb⟩ :=
    done_of_ends (ends_execute hp (ends_runFetch p scope e)) h hr
  refine ⟨rows, ⟨filters, _, hf, hs⟩, ?_⟩
  rw [NodeResult.settle, hb]
  rfl

lemma settle_of_execute (h : (node.execute flow scope).perform e = (.ok r, e'))
    (hno : r.succeeded = true → ∀ p, node.params? ≠ some (.fetchData p)) :
    r.settle scope = scope := by
  rcases hr : r.succeeded with _ | _
  · exact settle_of_unbound (unbound_of_failed hr) scope
  · exact settle_of_unbound ((fits_execute h).unbound (hno hr)) scope

lemma sameRows_of_failed (h : (node.execute flow scope).perform e = (.ok r, e'))
    (hr : r.succeeded = false) : e.store.SameRows e'.store := by
  rcases hp : node.params? with _ | p
  · exact sameRows_of_asks (by simp [asks, hp]) h
  cases p with
  | createTask p =>
    refine sameRows_of_ends (ends_execute hp (ends_runTask p scope e)) h hr ?_
    rintro _ ⟨row, rfl⟩ s g s' ho table
    exact Store.rows_insert_error ho table
  | notification p =>
    refine sameRows_of_ends (ends_execute hp (ends_runNotification p scope e)) h hr ?_
    rintro _ ⟨row, rfl⟩ s g s' ho table
    exact Store.rows_insert_error ho table
  | updateStatus p =>
    refine sameRows_of_ends (ends_execute hp (ends_runStatus p scope e)) h hr ?_
    rintro _ ⟨value, -, rfl⟩ s g s' ho table
    exact Store.rows_update_error ho table
  | fetchData p => exact sameRows_of_asks (select_of_fetch hp) h
  | trigger | sendEmail | condition | delay | loop =>
    exact sameRows_of_asks (by simp [asks, hp, Params.asks]) h

/-- **What a node changes**: a node that fails leaves every table and the scope as they were. One
that is done adds one row to the tasks or the notifications, sets one variable to the rows that it
selected, or sets one field of the rows that have the entity's id, by its kind, and changes nothing
else; nodes of other kinds, and of those that are not known, change nothing at all. -/
theorem execute_changes (hk : e.store.Kept)
    (h : (node.execute flow scope).perform e = (.ok r, e')) :
    (r.succeeded = false → e.store.SameRows e'.store ∧ r.settle scope = scope) ∧
      (r.succeeded = true → Changes scope e (r.settle scope) e'.store node.params?) := by
  constructor
  · intro hr
    exact ⟨sameRows_of_failed h hr, settle_of_unbound (unbound_of_failed hr) scope⟩
  · intro hr
    have hscope : (∀ p, node.params? ≠ some (.fetchData p)) → r.settle scope = scope :=
      fun hno => settle_of_execute h fun _ => hno
    rcases hp : node.params? with _ | p
    · exact ⟨sameRows_of_asks (by simp [asks, hp]) h, hscope (by simp [hp])⟩
    cases p with
    | createTask p =>
      obtain ⟨_, stored, ⟨row, rfl⟩, hi, -⟩ :=
        done_of_ends (ends_execute hp (ends_runTask p scope e)) h hr
      exact ⟨Store.appends_of_insert hi, hscope (by simp [hp])⟩
    | notification p =>
      obtain ⟨_, stored, ⟨row, rfl⟩, hi, -⟩ :=
        done_of_ends (ends_execute hp (ends_runNotification p scope e)) h hr
      exact ⟨Store.appends_of_insert hi, hscope (by simp [hp])⟩
    | updateStatus p =>
      obtain ⟨_, count, ⟨value, hv, rfl⟩, hu, -⟩ :=
        done_of_ends (ends_execute hp (ends_runStatus p scope e)) h hr
      exact ⟨⟨value, hv, Store.assigns_of_update hk hu⟩, hscope (by simp [hp])⟩
    | fetchData p =>
      exact ⟨sameRows_of_asks (select_of_fetch hp) h, fetched_of_execute hp h hr⟩
    | trigger | sendEmail | condition | delay | loop =>
      exact ⟨sameRows_of_asks (by simp [asks, hp, Params.asks]) h, hscope (by simp [hp])⟩

/-- An open deal in a database. -/
def dealing : Engine where
  store := ({ backend := .database .started [] } : Store).insert 0 "deals"
    [("id", .text "D1"), ("stage", .text "open")] |>.2

def winning : Node where
  id := "n"
  type := some "update_status"
  data := [("table", .text "deals"), ("field", .text "stage"), ("value", .text "won")]

def aboutDeal : Scope := { execution := "x", vars := [("entity_id", .text "D1")] }

theorem execute_changes_winning :
    ∃ r e', (winning.execute {} aboutDeal).perform dealing = (.ok r, e') ∧
      dealing.store.Assigns "deals" "stage" (.text "D1") (.text "won") e'.store ∧
      r.settle aboutDeal = aboutDeal := by
  have hkept : dealing.store.Kept := by
    have hmove : Store.Moves (fun _ => True) { backend := .database .started [] } dealing.store :=
      .insert _ 0 "deals" _ trivial
    refine Store.kept_of_moves hmove fun table row hrow => ?_
    cases hrow
  let p : StatusParams := ⟨"deals", "stage", .text "won"⟩
  have hparams : winning.params? = some (.updateStatus p) := rfl
  have hdone : ∃ r, ((winning.execute {} aboutDeal).perform dealing).1 = .ok r ∧
      r.succeeded = true := ⟨_, rfl, rfl⟩
  obtain ⟨r, hr, hs⟩ := hdone
  have hchanges := (execute_changes hkept (Prod.ext hr rfl)).2 hs
  rw [hparams] at hchanges
  obtain ⟨⟨value, hv, hassigns⟩, hscope⟩ := hchanges
  have hwon : Value.resolve aboutDeal.value (.text "won") = .ok (.text "won") := rfl
  cases hwon.symm.trans hv
  exact ⟨r, _, Prod.ext hr rfl, hassigns, hscope⟩

end Node

end CrmAutomation

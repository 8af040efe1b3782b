import CrmAutomation.Engine.Basic
import CrmAutomation.Proofs.Store.Rows
import Mathlib.Tactic.Common

/-!
Performing work of the engine, step by step.

The outcome of a chain of steps is the outcome of its first step that fails, or of its last one;
each step finds the engine as the one before it left it.
-/

namespace CrmAutomation

/-- The failure that a refusal of the store is to the engine. -/
def Store.Refusal.failure : Store.Refusal → Failure
  | .fault f => .storage f
  | .program text => .crash (.program text)
  | .hugeKey => .crash .hugeKey

def Store.Refusal.notes : Store.Refusal → List Log.Note
  | .fault f => EngineM.databaseNotes f
  | .program _ | .hugeKey => []

namespace Engine

/-- The engine with lines about the run in progress added to its journal. -/
def notingAll (e : Engine) (notes : List Log.Note) : Engine :=
  { e with journal := e.journal ++ notes.map fun n => ⟨n.level, n.event, e.run, none⟩ }

def noting (e : Engine) (level : Log.Level) (event : String) : Engine :=
  { e with journal := e.journal ++ [⟨level, event, e.run, none⟩] }

@[simp] lemma store_noting (e : Engine) (l : Log.Level) (s : String) :
    (e.noting l s).store = e.store := rfl

@[simp] lemma mail_noting (e : Engine) (l : Log.Level) (s : String) :
    (e.noting l s).mail = e.mail := rfl

end Engine

open Record

namespace EngineM

variable {α β : Type} {x : EngineM α} {f : α → EngineM β} {e e' e'' : Engine}

@[simp] lemma perform_pure (a : α) (e : Engine) : (pure a : EngineM α).perform e = (.ok a, e) :=
  rfl

@[simp] lemma perform_throw (g : Failure) (e : Engine) :
    (throw g : EngineM α).perform e = (.error g, e) := rfl

@[simp] lemma perform_crash (c : Crash) (e : Engine) :
    (crash c : EngineM α).perform e = (.error (.crash c), e) := rfl

lemma perform_bind (x : EngineM α) (f : α → EngineM β) (e : Engine) :
    (x >>= f).perform e =
      match x.perform e with
      | (.ok a, e') => (f a).perform e'
      | (.error g, e') => (.error g, e') := by
  rcases h : x.perform e with ⟨_ | _, e'⟩
  all_goals
    simp only [perform] at h ⊢
    simp only [bind, ExceptT.bind, ExceptT.mk, StateT.bind, h]
    rfl

lemma perform_bind_of_ok {a : α} (h : x.perform e = (.ok a, e')) :
    (x >>= f).perform e = (f a).perform e' := by
  rw [perform_bind, h]

lemma perform_bind_of_error {g : Failure} (h : x.perform e = (.error g, e')) :
    (x >>= f).perform e = (.error g, e') := by
  rw [perform_bind, h]

lemma perform_bind_ok {b : β} :
    (x >>= f).perform e = (.ok b, e'') ↔
      ∃ a e', x.perform e = (.ok a, e') ∧ (f a).perform e' = (.ok b, e'') := by
  rw [perform_bind]
  rcases h : x.perform e with ⟨g | a, e'⟩
  · simp
  · constructor
    · exact fun h' => ⟨a, e', rfl, h'⟩
    · rintro ⟨a, e', h', hf⟩
      cases h'
      exact hf

lemma perform_bind_error {g : Failure} :
    (x >>= f).perform e = (.error g, e'') ↔
      x.perform e = (.error g, e'') ∨
        ∃ a e', x.perform e = (.ok a, e') ∧ (f a).perform e' = (.error g, e'') := by
  rw [perform_bind]
  rcases h : x.perform e with ⟨k | a, e'⟩
  · simp
  · constructor
    · exact fun h' => Or.inr ⟨a, e', rfl, h'⟩
    · rintro (h' | ⟨a, e', h', hf⟩)
      · cases h'
      · cases h'
        exact hf

lemma perform_of_fst {o : Except Failure α} (h : (x.perform e).1 = o) :
    x.perform e = (o, (x.perform e).2) := Prod.ext h rfl

@[simp] lemma perform_now (e : Engine) : now.perform e = (.ok e.clock, e) := rfl

@[simp] lemma perform_log (level : Log.Level) (event : String) (e : Engine) :
    (log level event).perform e = (.ok (), e.noting level event) := rfl

@[simp] lemma perform_logAll (notes : List Log.Note) (e : Engine) :
    (logAll notes).perform e = (.ok (), e.notingAll notes) := rfl

lemma perform_ofExcept_ok {ε : Type} {c : ε → Crash} {r : Except ε α} {a : α} :
    (ofExcept c r).perform e = (.ok a, e') ↔ r = .ok a ∧ e' = e := by
  rcases r with k | b
  · simp [ofExcept]
  · simp [ofExcept, eq_comm]

lemma perform_ofExcept_error {ε : Type} {c : ε → Crash} {r : Except ε α} {g : Failure} :
    (ofExcept c r).perform e = (.error g, e') ↔ ∃ k, r = .error k ∧ g = .crash (c k) ∧ e' = e := by
  rcases r with k | b
  · simp [ofExcept, eq_comm]
  · simp [ofExcept]

/-! ### Failures that are looked for -/

lemma onStorageFault_of_ok {h : Store.Fault → EngineM α} {a : α} (hx : x.perform e = (.ok a, e')) :
    (x.onStorageFault h).perform e = (.ok a, e') := by
  simp only [perform] at hx ⊢
  simp only [onStorageFault, hx]

lemma onStorageFault_of_fault {h : Store.Fault → EngineM α} {g : Store.Fault}
    (hx : x.perform e = (.error (.storage g), e')) :
    (x.onStorageFault h).perform e = (h g).perform e' := by
  simp only [perform] at hx ⊢
  simp only [onStorageFault, hx]

lemma onStorageFault_of_error {h : Store.Fault → EngineM α} {g : Failure}
    (hg : ∀ k, g ≠ .storage k) (hx : x.perform e = (.error g, e')) :
    (x.onStorageFault h).perform e = (.error g, e') := by
  simp only [perform] at hx ⊢
  simp only [onStorageFault, hx]
  split
  · rename_i k _ hk
    cases hk
    exact absurd rfl (hg k)
  · rfl

lemma onStorageFault_congr {y : EngineM α} (hxy : x.perform e = y.perform e)
    (h : Store.Fault → EngineM α) :
    (x.onStorageFault h).perform e = (y.onStorageFault h).perform e := by
  simp only [perform] at hxy ⊢
  simp only [onStorageFault, hxy]

lemma onDeliveryFault_of_ok {h : Mail.DeliveryFault → EngineM α} {a : α}
    (hx : x.perform e = (.ok a, e')) : (x.onDeliveryFault h).perform e = (.ok a, e') := by
  simp only [perform] at hx ⊢
  simp only [onDeliveryFault, hx]

lemma onDeliveryFault_of_fault {h : Mail.DeliveryFault → EngineM α} {g : Mail.DeliveryFault}
    (hx : x.perform e = (.error (.delivery g), e')) :
    (x.onDeliveryFault h).perform e = (h g).perform e' := by
  simp only [perform] at hx ⊢
  simp only [onDeliveryFault, hx]

lemma onDeliveryFault_of_error {h : Mail.DeliveryFault → EngineM α} {g : Failure}
    (hg : ∀ k, g ≠ .delivery k) (hx : x.perform e = (.error g, e')) :
    (x.onDeliveryFault h).perform e = (.error g, e') := by
  simp only [perform] at hx ⊢
  simp only [onDeliveryFault, hx]
  split
  · rename_i k _ hk
    cases hk
    exact absurd rfl (hg k)
  · rfl

lemma perform_onDeliveryFault (x : EngineM α) (h : Mail.DeliveryFault → EngineM α) (e : Engine) :
    (x.onDeliveryFault h).perform e =
      match x.perform e with
      | (.error (.delivery f), e') => (h f).perform e'
      | o => o := rfl

lemma perform_onNotificationFault (x : EngineM α) (h : NotificationFault → EngineM α)
    (e : Engine) :
    (x.onNotificationFault h).perform e =
      match x.perform e with
      | (.error (.notification f), e') => (h f).perform e'
      | o => o := rfl

lemma onFailure_of_ok {h : Failure → EngineM α} {a : α} (hx : x.perform e = (.ok a, e')) :
    (x.onFailure h).perform e = (.ok a, e') := by
  simp only [perform] at hx ⊢
  simp only [onFailure, hx]

lemma onFailure_of_error {h : Failure → EngineM α} {g : Failure}
    (hx : x.perform e = (.error g, e')) : (x.onFailure h).perform e = (h g).perform e' := by
  simp only [perform] at hx ⊢
  simp only [onFailure, hx]

/-! Work of which some failures are taken up comes to what the work comes to, or to what takes them
up afterwards. -/

lemma onStorageFault_cases (x : EngineM α) (h : Store.Fault → EngineM α) (e : Engine) :
    (x.onStorageFault h).perform e = x.perform e ∨
      ∃ g, (x.onStorageFault h).perform e = (h g).perform (x.perform e).2 := by
  rcases hp : x.perform e with ⟨f | a, k⟩
  · cases f
    case storage g => exact Or.inr ⟨g, onStorageFault_of_fault hp⟩
    all_goals exact Or.inl (onStorageFault_of_error (by simp) hp)
  · exact Or.inl (onStorageFault_of_ok hp)

lemma onDeliveryFault_cases (x : EngineM α) (h : Mail.DeliveryFault → EngineM α) (e : Engine) :
    (x.onDeliveryFault h).perform e = x.perform e ∨
      ∃ g, (x.onDeliveryFault h).perform e = (h g).perform (x.perform e).2 := by
  rcases hp : x.perform e with ⟨f | a, k⟩
  · cases f
    case delivery g => exact Or.inr ⟨g, onDeliveryFault_of_fault hp⟩
    all_goals exact Or.inl (onDeliveryFault_of_error (by simp) hp)
  · exact Or.inl (onDeliveryFault_of_ok hp)

lemma onNotificationFault_cases (x : EngineM α) (h : NotificationFault → EngineM α)
    (e : Engine) :
    (x.onNotificationFault h).perform e = x.perform e ∨
      ∃ g, (x.onNotificationFault h).perform e = (h g).perform (x.perform e).2 := by
  rw [perform_onNotificationFault]
  rcases x.perform e with ⟨f | a, k⟩
  · cases f
    case notification g => exact Or.inr ⟨g, rfl⟩
    all_goals exact Or.inl rfl
  · exact Or.inl rfl

lemma onFailure_cases (x : EngineM α) (h : Failure → EngineM α) (e : Engine) :
    (x.onFailure h).perform e = x.perform e ∨
      ∃ g, (x.onFailure h).perform e = (h g).perform (x.perform e).2 := by
  rcases hp : x.perform e with ⟨f | a, k⟩
  · exact Or.inr ⟨f, onFailure_of_error hp⟩
  · exact Or.inl (onFailure_of_ok hp)

lemma perform_within (run : RunIdentity) (x : EngineM α) (e : Engine) :
    (within run x).perform e =
      ((x.perform { e with run := some run }).1,
        { (x.perform { e with run := some run }).2 with run := e.run }) := rfl

/-! ### Operations of the store -/

lemma perform_stored (op : Store → Store.Outcome α) (e : Engine) :
    (stored op).perform e =
      match op e.store with
      | (.ok a, s) => (.ok a, { e with store := s })
      | (.error r, s) => (.error r.failure, { e with store := s }.notingAll r.notes) := by
  rcases h : op e.store with ⟨r | a, s⟩
  · rcases r with g | text | _
    · simp only [perform, stored, h]; rfl
    all_goals
      simp only [perform, stored, h, Store.Refusal.notes, Engine.notingAll, List.map_nil,
        List.append_nil]
      rfl
  · simp only [perform, stored, h]

lemma perform_stored_ok {op : Store → Store.Outcome α} {a : α} :
    (stored op).perform e = (.ok a, e') ↔
      ∃ s, op e.store = (.ok a, s) ∧ e' = { e with store := s } := by
  rw [perform_stored]
  rcases h : op e.store with ⟨r | b, s⟩
  · simp
  · simp [eq_comm]

lemma perform_select {table : String} (h : e.store.Answers table) (q : Tables.Query) :
    ∃ s, (select table q).perform e =
      (.ok (limited q.limit
        (sorted ((e.store.rows table).filter (matchesAll q.filters)) q.orderBy q.descending)),
        { e with store := s }) := by
  obtain ⟨s, hs⟩ := Store.select_of_answers h q
  exact ⟨s, perform_stored_ok.mpr ⟨s, hs, rfl⟩⟩

lemma store_stored (op : Store → Store.Outcome α) (e : Engine) :
    ((stored op).perform e).2.store = (op e.store).2 := by
  rw [perform_stored]
  rcases op e.store with ⟨r | a, s⟩
  · rfl
  · rfl

/-- An operation of the store and more work that does not fail, where faults of the store are taken
up: the operation decides. -/
lemma onStorageFault_stored (op : Store → Store.Outcome α) {y : α → EngineM β}
    (hy : ∀ a e, ∃ b e', (y a).perform e = (.ok b, e')) (h : Store.Fault → EngineM β)
    (e : Engine) :
    ((stored op >>= y).onStorageFault h).perform e =
      match op e.store with
      | (.ok a, s) => (y a).perform { e with store := s }
      | (.error (.fault f), s) => (h f).perform ({ e with store := s }.notingAll (databaseNotes f))
      | (.error r, s) => (.error r.failure, { e with store := s }) := by
  have hx := perform_stored op e
  rcases ho : op e.store with ⟨r | a, s⟩
  · rw [ho] at hx
    dsimp only at hx
    cases r with
    | fault f => exact onStorageFault_of_fault (perform_bind_of_error hx)
    | program text | hugeKey =>
      rw [onStorageFault_of_error (by simp [Store.Refusal.failure]) (perform_bind_of_error hx)]
      simp [Engine.notingAll, Store.Refusal.notes]
  · rw [ho] at hx
    obtain ⟨b, e', hb⟩ := hy a { e with store := s }
    dsimp only
    rw [hb]
    exact onStorageFault_of_ok ((perform_bind_of_ok hx).trans hb)

lemma onStorageFault_insert (table : String) (row : Row) {y : Row → EngineM β}
    (hy : ∀ a e, ∃ b e', (y a).perform e = (.ok b, e')) (h : Store.Fault → EngineM β)
    (e : Engine) :
    ((insert table row >>= y).onStorageFault h).perform e =
      match e.store.insert e.clock table row with
      | (.ok a, s) => (y a).perform { e with store := s }
      | (.error (.fault f), s) => (h f).perform ({ e with store := s }.notingAll (databaseNotes f))
      | (.error r, s) => (.error r.failure, { e with store := s }) := by
  have hins : (insert table row).perform e = (stored (·.insert e.clock table row)).perform e :=
    perform_bind_of_ok (perform_now e)
  have hbind : (insert table row >>= y).perform e =
      (stored (·.insert e.clock table row) >>= y).perform e := by
    rw [perform_bind, perform_bind, hins]
  rw [onStorageFault_congr hbind, onStorageFault_stored _ hy]
  rcases e.store.insert e.clock table row with ⟨(_ | _ | _) | _, s⟩
  iterate 4 rfl

lemma perform_stored_error {op : Store → Store.Outcome α} {g : Failure} :
    (stored op).perform e = (.error g, e') ↔
      ∃ r s, op e.store = (.error r, s) ∧ g = r.failure ∧
        e' = { e with store := s }.notingAll r.notes := by
  rw [perform_stored]
  rcases h : op e.store with ⟨r | b, s⟩
  · simp [eq_comm]
  · simp

end EngineM

end CrmAutomation

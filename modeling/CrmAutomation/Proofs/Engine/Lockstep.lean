import CrmAutomation.Proofs.Engine.Perform
import CrmAutomation.Proofs.Value.Json

/-!
Work that two engines do in lockstep.

Engines may differ and yet come to the same: a lockstep is a relation under which every step does,
and which every step keeps, as long as the store is asked only for operations of a class. Work is
described by the relation that it keeps and by what it yields; the steps of a chain are described
one by one. Whatever work fails for has a report that JSON does not change.
-/

namespace CrmAutomation

open Record Calendar

/-- An operation of the store comes to the same on engines in a relation, and keeps the relation. -/
def Matches {α : Type} (K : Engine → Engine → Prop) (op : Store → Store.Outcome α) : Prop :=
  ∀ e k, K e k → ∃ r s s', op e.store = (r, s) ∧ op k.store = (r, s') ∧
    K { e with store := s } { k with store := s' }

/-- Posting a message comes to the same on engines in a relation, and keeps the relation. -/
def PostsMatch (K : Engine → Engine → Prop) : Prop :=
  ∀ e k p, K e k → ∃ reply m m', e.mail.post p = (reply, m) ∧ k.mail.post p = (reply, m') ∧
    K { e with mail := m } { k with mail := m' }

/-- A relation between engines under which steps come to the same, and which every step keeps that
asks the store only for operations of a class. -/
structure Lockstep (may : Store.Operation → String → Prop) (K : Engine → Engine → Prop) :
    Prop where
  settings : ∀ {e k}, K e k → e.settings = k.settings
  looksUpSender : ∀ {e k}, K e k → e.looksUpSender = k.looksUpSender
  clock : ∀ {e k}, K e k → e.clock = k.clock
  notingAll : ∀ {e k} notes, K e k → K (e.notingAll notes) (k.notingAll notes)
  wait : ∀ {e k} ms, K e k → K { e with clock := e.clock + ms } { k with clock := k.clock + ms }
  insert : ∀ t table row, may .insert table → Matches K (·.insert t table row)
  update : ∀ table fields fs, may .update table → Matches K (·.update table fields fs)
  select : ∀ table q, may .select table → Matches K (·.select table q)

lemma lockstep_self {may : Store.Operation → String → Prop} {P : Engine → Prop}
    (notingAll : ∀ e notes, P e → P (e.notingAll notes))
    (clock : ∀ e clock, P e → P { e with clock })
    (insert : ∀ e t table row, may .insert table → P e →
      P { e with store := (e.store.insert t table row).2 })
    (update : ∀ e table fields fs, may .update table → P e →
      P { e with store := (e.store.update table fields fs).2 })
    (select : ∀ e table q, may .select table → P e →
      P { e with store := (e.store.select table q).2 }) :
    Lockstep may fun e k => e = k ∧ P e where
  settings h := by rw [h.1]
  looksUpSender h := by rw [h.1]
  clock h := by rw [h.1]
  notingAll notes h := ⟨by rw [h.1], notingAll _ notes h.2⟩
  wait ms h := ⟨by rw [h.1], clock _ _ h.2⟩
  insert t table row ha e k h := by
    obtain ⟨rfl, h⟩ := h
    exact ⟨_, _, _, rfl, rfl, rfl, insert e t table row ha h⟩
  update table fields fs ha e k h := by
    obtain ⟨rfl, h⟩ := h
    exact ⟨_, _, _, rfl, rfl, rfl, update e table fields fs ha h⟩
  select table q ha e k h := by
    obtain ⟨rfl, h⟩ := h
    exact ⟨_, _, _, rfl, rfl, rfl, select e table q ha h⟩

namespace EngineM

variable {α β : Type}

/-- Work comes to the same on engines in a relation and keeps the relation, and what it yields
satisfies a predicate. -/
structure Does (K : Engine → Engine → Prop) (Q : α → Prop) (x : EngineM α) : Prop where
  meets : ∀ {e k}, K e k →
    ∃ r e' k', x.perform e = (r, e') ∧ x.perform k = (r, k') ∧ K e' k'
  yields : ∀ {e a e'}, x.perform e = (.ok a, e') → Q a
  fails : ∀ {e f e'}, x.perform e = (.error f, e') → f.report.IsJson

variable {may : Store.Operation → String → Prop} {K : Engine → Engine → Prop} {Q : α → Prop}
  {x : EngineM α}

lemma Does.mono {P : α → Prop} (h : Does K P x) (hPQ : ∀ a, P a → Q a) : Does K Q x :=
  ⟨h.meets, fun ha => hPQ _ (h.yields ha), h.fails⟩

lemma does_pure {a : α} (h : Q a) : Does K Q (pure a) where
  meets h' := ⟨_, _, _, rfl, rfl, h'⟩
  yields h' := by cases h'; exact h
  fails h' := by cases h'

lemma does_throw {f : Failure} (h : f.report.IsJson) : Does K Q (throw f : EngineM α) where
  meets h' := ⟨_, _, _, rfl, rfl, h'⟩
  yields h' := by cases h'
  fails h' := by cases h'; exact h

lemma does_crash (c : Crash) : Does K Q (crash c : EngineM α) :=
  does_throw (Value.isJson_text c.text)

lemma does_bind {P : α → Prop} {Q : β → Prop} {f : α → EngineM β} (hx : Does K P x)
    (hf : ∀ a, P a → Does K Q (f a)) : Does K Q (x >>= f) where
  meets h := by
    obtain ⟨g | a, e', k', he, hk, h'⟩ := hx.meets h
    · exact ⟨_, e', k', perform_bind_of_error he, perform_bind_of_error hk, h'⟩
    · rw [perform_bind_of_ok he, perform_bind_of_ok hk]
      exact (hf a (hx.yields he)).meets h'
  yields h := by
    obtain ⟨a, e', hx', hf'⟩ := perform_bind_ok.mp h
    exact (hf a (hx.yields hx')).yields hf'
  fails h := by
    rcases perform_bind_error.mp h with h | ⟨a, e', hx', hf'⟩
    · exact hx.fails h
    · exact (hf a (hx.yields hx')).fails hf'

lemma does_ofExcept {ε : Type} (c : ε → Crash) (r : Except ε α) :
    Does K (fun a => r = .ok a) (ofExcept c r) := by
  rcases r with k | a
  · exact does_crash (c k)
  · exact does_pure rfl

lemma does_mapM {P : β → Prop} {f : β → EngineM α} (h : ∀ b, Does K (fun _ => P b) (f b))
    (bs : List β) : Does K (fun _ => ∀ b ∈ bs, P b) (bs.mapM f) := by
  induction bs with
  | nil => exact does_pure (by simp)
  | cons b bs ih =>
    rw [List.mapM_cons]
    refine does_bind (h b) fun _ hb => does_bind ih fun _ hbs => does_pure ?_
    exact List.forall_mem_cons.mpr ⟨hb, hbs⟩

lemma does_engine {f : Engine → EngineM α} (hf : ∀ e, Does K Q (f e))
    (hsame : ∀ {e k}, K e k → f e = f k) : Does K Q (engine >>= f) where
  meets {e k} h := by
    have he : (engine >>= f).perform e = (f e).perform e := rfl
    have hk : (engine >>= f).perform k = (f k).perform k := rfl
    rw [he, hk, ← hsame h]
    exact (hf e).meets h
  yields {e _ _} h := (hf e).yields h
  fails {e _ _} h := (hf e).fails h

section Steps

variable (hK : Lockstep may K)
include hK

lemma does_logAll (notes : List Log.Note) : Does K (fun _ => True) (logAll notes) where
  meets h := ⟨_, _, _, rfl, rfl, hK.notingAll notes h⟩
  yields _ := trivial
  fails h := by cases h

lemma does_log (level : Log.Level) (event : String) : Does K (fun _ => True) (log level event) :=
  does_logAll hK [⟨level, event⟩]

lemma does_wait (ms : Int) : Does K (fun _ => True) (wait ms) where
  meets h := ⟨_, _, _, rfl, rfl, hK.wait ms h⟩
  yields _ := trivial
  fails h := by cases h

lemma does_now : Does K (fun _ => True) now where
  meets h := ⟨_, _, _, rfl, by rw [hK.clock h]; rfl, h⟩
  yields _ := trivial
  fails h := by cases h

lemma does_settings : Does K (fun _ => True) settings where
  meets h := ⟨_, _, _, rfl, by rw [hK.settings h]; rfl, h⟩
  yields _ := trivial
  fails h := by cases h

/-! ### The store -/

lemma does_stored {op : Store → Store.Outcome α} (h : Matches K op) :
    Does K (fun _ => True) (stored op) where
  meets {e k} hek := by
    obtain ⟨r | a, s, s', he, hk, hs⟩ := h e k hek
    · rw [perform_stored, perform_stored, he, hk]
      exact ⟨_, _, _, rfl, rfl, hK.notingAll r.notes hs⟩
    · rw [perform_stored, perform_stored, he, hk]
      exact ⟨_, _, _, rfl, rfl, hs⟩
  yields _ := trivial
  fails h' := by
    obtain ⟨r, s, -, rfl, -⟩ := perform_stored_error.mp h'
    cases r <;> exact Value.isJson_text _

lemma does_insert {table : String} (ha : may .insert table) (row : Row) :
    Does K (fun _ => True) (insert table row) :=
  does_bind (does_now hK) fun t _ => does_stored hK (hK.insert t table row ha)

lemma does_update {table : String} (ha : may .update table) (fields : Fields) (fs : List Filter) :
    Does K (fun _ => True) (update table fields fs) := does_stored hK (hK.update table fields fs ha)

lemma does_select {table : String} (ha : may .select table) (q : Tables.Query) :
    Does K (fun _ => True) (select table q) := does_stored hK (hK.select table q ha)

end Steps

/-! ### Failures that are looked for -/

lemma does_takenUp {y : EngineM α} (hx : Does K Q x)
    (h : ∀ f, f.report.IsJson →
      (∀ e e', x.perform e = (.error f, e') → y.perform e = (.error f, e')) ∨
        ∃ z : EngineM α, Does K Q z ∧
          ∀ e e', x.perform e = (.error f, e') → y.perform e = z.perform e')
    (hok : ∀ e a e', x.perform e = (.ok a, e') → y.perform e = (.ok a, e')) : Does K Q y := by
  -- each time, the work itself decides what comes of it, or what takes up its failure does
  have key : ∀ e, x.perform e = y.perform e ∨
      ∃ z : EngineM α, Does K Q z ∧ ∃ e', y.perform e = z.perform e' := by
    intro e
    rcases hp : x.perform e with ⟨f | a, e'⟩
    · rcases h f (hx.fails hp) with hy | ⟨z, hz, hy⟩
      · exact Or.inl (hy e e' hp).symm
      · exact Or.inr ⟨z, hz, e', hy e e' hp⟩
    · exact Or.inl (hok e a e' hp).symm
  refine ⟨fun {e k} hek => ?_, fun {e a e'} hy => ?_, fun {e f e'} hy => ?_⟩
  · obtain ⟨f | a, e', k', he, hk, h'⟩ := hx.meets hek
    · rcases h f (hx.fails he) with hy | ⟨z, hz, hy⟩
      · exact ⟨_, e', k', hy e e' he, hy k k' hk, h'⟩
      · rw [hy e e' he, hy k k' hk]
        exact hz.meets h'
    · exact ⟨_, e', k', hok e a e' he, hok k a k' hk, h'⟩
  · rcases key e with hx' | ⟨z, hz, e₁, hx'⟩
    · exact hx.yields (hx'.trans hy)
    · exact hz.yields (hx'.symm.trans hy)
  · rcases key e with hx' | ⟨z, hz, e₁, hx'⟩
    · exact hx.fails (hx'.trans hy)
    · exact hz.fails (hx'.symm.trans hy)

lemma does_onStorageFault (hx : Does K Q x) {h : Store.Fault → EngineM α}
    (hh : ∀ f, Does K Q (h f)) : Does K Q (x.onStorageFault h) := by
  refine does_takenUp hx (fun f _ => ?_) fun e a e' hp => onStorageFault_of_ok hp
  by_cases hf : ∃ k, f = .storage k
  · obtain ⟨k, rfl⟩ := hf
    exact Or.inr ⟨h k, hh k, fun _ _ hp => onStorageFault_of_fault hp⟩
  · exact Or.inl fun _ _ hp => onStorageFault_of_error (fun k hk => hf ⟨k, hk⟩) hp

lemma does_selectOrNone (hK : Lockstep may K) {table : String} (ha : may .select table)
    (q : Tables.Query) (level : Log.Level) (event : String) :
    Does K (fun _ => True) ((select table q).onStorageFault fun _ => do
      log level event
      pure []) :=
  does_onStorageFault (does_select hK ha q) fun _ =>
    does_bind (does_log hK level event) fun _ _ => does_pure trivial

lemma does_onFailure (hx : Does K Q x) {h : Failure → EngineM α}
    (hh : ∀ f, f.report.IsJson → Does K Q (h f)) : Does K Q (x.onFailure h) :=
  does_takenUp hx (fun f hf => Or.inr ⟨h f, hh f hf, fun _ _ hp => onFailure_of_error hp⟩)
    fun _ _ _ hp => onFailure_of_ok hp

lemma does_onDeliveryFault (hx : Does K Q x) {h : Mail.DeliveryFault → EngineM α}
    (hh : ∀ f, (Failure.delivery f).report.IsJson → Does K Q (h f)) :
    Does K Q (x.onDeliveryFault h) := by
  refine does_takenUp hx (fun f hf => ?_) fun e a e' hp => onDeliveryFault_of_ok hp
  cases f
  case delivery d => exact Or.inr ⟨h d, hh d hf, fun e e' hp => onDeliveryFault_of_fault hp⟩
  all_goals exact Or.inl fun e e' hp => onDeliveryFault_of_error (by simp) hp

lemma does_onNotificationFault (hx : Does K Q x) {h : NotificationFault → EngineM α}
    (hh : ∀ f, Does K Q (h f)) : Does K Q (x.onNotificationFault h) := by
  refine does_takenUp hx (fun f hf => ?_) fun e a e' hp => ?_
  · cases f
    case notification n =>
      refine Or.inr ⟨h n, hh n, fun e e' hp => ?_⟩
      simp only [perform] at hp ⊢
      simp only [onNotificationFault, hp]
    all_goals
      refine Or.inl fun e e' hp => ?_
      simp only [perform] at hp ⊢
      simp only [onNotificationFault, hp]
  · simp only [perform] at hp ⊢
    simp only [onNotificationFault, hp]

end EngineM

end CrmAutomation

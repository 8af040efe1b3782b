import CrmAutomation.Proofs.Engine.Lockstep
import CrmAutomation.Proofs.Store.Passage
import CrmAutomation.Proofs.Store.Refusal

/-!
What work of the engine leaves alone, whatever comes of it.

A frame is a relation between the engines before and after. An engine is in lockstep with itself,
and stays in the frame while it is.
-/

namespace CrmAutomation

open Record Calendar

/-- A relation between engines that every step keeps which writes only to tables of a class. -/
structure Frame (writes : String → Prop) (R : Engine → Engine → Prop) : Prop where
  refl : ∀ e, R e e
  trans : ∀ e₁ e₂ e₃, R e₁ e₂ → R e₂ e₃ → R e₁ e₃
  journal : ∀ e journal, R e { e with journal }
  clock : ∀ e clock, R e { e with clock }
  mail : ∀ e mail, R e { e with mail }
  insert : ∀ e t table row, writes table →
    R e { e with store := (e.store.insert t table row).2 }
  update : ∀ e table fields fs, writes table →
    R e { e with store := (e.store.update table fields fs).2 }
  select : ∀ e table q, R e { e with store := (e.store.select table q).2 }

lemma Frame.mono {W W' : String → Prop} {R : Engine → Engine → Prop} (hR : Frame W' R)
    (h : ∀ table, W table → W' table) : Frame W R :=
  { hR with
    insert := fun e t table row hw => hR.insert e t table row (h table hw)
    update := fun e table fields fs hw => hR.update e table fields fs (h table hw) }

lemma frame_plans {P : Store.PlannedFault → Prop} (hP : Store.PlannedFault.Lasting P) :
    Frame (fun _ => True) fun e e' => e.store.Plans P → e'.store.Plans P where
  refl _ h := h
  trans _ _ _ h₁ h₂ h := h₂ (h₁ h)
  journal _ _ h := h
  clock _ _ h := h
  mail _ _ h := h
  insert _ _ _ _ _ h := Store.plans_insert hP h
  update _ _ _ _ _ h := Store.plans_update hP h
  select _ _ q h := Store.plans_select hP h q

lemma frame_orderly : Frame (fun _ => True) fun e e' => e.store.Orderly → e'.store.Orderly :=
  frame_plans Store.lasting_orderly

lemma frame_steady (table : String) :
    Frame (fun _ => True) fun e e' => e.store.Steady table → e'.store.Steady table :=
  frame_plans (Store.lasting_steady table)

lemma frame_rows (name : String) :
    Frame (· ≠ name) fun e e' => e'.store.rows name = e.store.rows name where
  refl _ := rfl
  trans _ _ _ h₁ h₂ := h₂.trans h₁
  journal _ _ := rfl
  clock _ _ := rfl
  mail _ _ := rfl
  insert e t table row h := Store.rows_of_moves (.insert e.store t table row h)
  update e table fields fs h := Store.rows_of_moves (.update e.store table fields fs h)
  select e table q := Store.rows_of_moves (.select e.store table q)

lemma frame_passes (W : String → Prop) :
    Frame W fun e e' => ∃ ss, Store.Passes W e.store ss e'.store where
  refl _ := ⟨_, .still⟩
  trans := by
    rintro e₁ e₂ e₃ ⟨ss, h⟩ ⟨ss', h'⟩
    exact ⟨_, h.append h'⟩
  journal _ _ := ⟨_, .still⟩
  clock _ _ := ⟨_, .still⟩
  mail _ _ := ⟨_, .still⟩
  insert e t table row h := ⟨_, .one (.insert e.store t table row h)⟩
  update e table fields fs h := ⟨_, .one (.update e.store table fields fs h)⟩
  select e table q := ⟨_, .one (.select e.store table q)⟩

lemma Frame.lockstep {W : String → Prop} {R : Engine → Engine → Prop} (hR : Frame W R)
    (e₀ : Engine) :
    Lockstep (fun op table => op = .select ∨ W table) fun e k => e = k ∧ R e₀ e :=
  lockstep_self (fun e _ h => hR.trans _ _ _ h (hR.journal e _))
    (fun e c h => hR.trans _ _ _ h (hR.clock e c))
    (fun e t table row ha h =>
      hR.trans _ _ _ h (hR.insert e t table row (ha.resolve_left (by simp))))
    (fun e table fields fs ha h =>
      hR.trans _ _ _ h (hR.update e table fields fs (ha.resolve_left (by simp))))
    fun e table q _ h => hR.trans _ _ _ h (hR.select e table q)

lemma Frame.postsMatch {W : String → Prop} {R : Engine → Engine → Prop} (hR : Frame W R)
    (e₀ : Engine) : PostsMatch fun e k => e = k ∧ R e₀ e := by
  rintro e k p ⟨rfl, h⟩
  exact ⟨_, _, _, rfl, rfl, rfl, hR.trans _ _ _ h (hR.mail _ _)⟩

lemma Frame.keeps {W : String → Prop} {R : Engine → Engine → Prop} {α : Type} {Q : α → Prop}
    {x : EngineM α} (hR : Frame W R) (e : Engine)
    (h : EngineM.Does (fun e' k => e' = k ∧ R e e') Q x) : R e (x.perform e).2 := by
  obtain ⟨r, e', k', he, -, -, hk⟩ := h.meets ⟨rfl, hR.refl e⟩
  rw [he]
  exact hk

lemma passes_of_does {W : String → Prop} {α : Type} {Q : α → Prop} {x : EngineM α}
    (h : ∀ K, Lockstep (fun op table => op = .select ∨ W table) K → PostsMatch K →
      EngineM.Does K Q x)
    (e : Engine) : ∃ ss, Store.Passes W e.store ss (x.perform e).2.store :=
  (frame_passes W).keeps e (h _ ((frame_passes W).lockstep e) ((frame_passes W).postsMatch e))

lemma Frame.keeps_bind {W : String → Prop} {R : Engine → Engine → Prop} {α β : Type}
    {x : EngineM α} {f : α → EngineM β} {e : Engine} (hR : Frame W R)
    (hx : R e (x.perform e).2)
    (hf : ∀ a k, x.perform e = (.ok a, k) → R k ((f a).perform k).2) :
    R e ((x >>= f).perform e).2 := by
  rw [EngineM.perform_bind]
  rcases hp : x.perform e with ⟨g | a, k⟩
  · rw [hp] at hx
    exact hx
  · rw [hp] at hx
    exact hR.trans _ _ _ hx (hf a k hp)

end CrmAutomation

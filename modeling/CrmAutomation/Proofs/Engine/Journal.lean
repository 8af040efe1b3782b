import CrmAutomation.Proofs.Engine.Frame

/-!
What work of the engine logs.

A line carries the run in progress, and only work in the name of a run changes which one that is.
All other work adds lines at the end of the journal that carry the run that is in progress when it
begins, and leaves that run in progress, whatever comes of the work.
-/

namespace CrmAutomation

/-- The line carries the run in progress, and names no execution by itself. -/
structure JournalEntry.Bears (run : Option RunIdentity) (l : JournalEntry) : Prop where
  run : l.run = run
  unnamed : l.about = none

lemma JournalEntry.Bears.execution {run : Option RunIdentity} {l : JournalEntry} (h : l.Bears run) :
    l.execution = RunIdentity.executionOf run := by
  rw [JournalEntry.execution, h.unnamed, h.run]
  rfl

/-- From one engine to another, lines with a property are logged, and the run in progress stays. -/
structure Engine.Logs (P : JournalEntry → Prop) (e e' : Engine) : Prop where
  run : e'.run = e.run
  lines : ∃ lines, e'.journal = e.journal ++ lines ∧ ∀ l ∈ lines, P l

variable {P Q : JournalEntry → Prop} {e e' e'' : Engine}

namespace Engine.Logs

lemma of_same (hrun : e'.run = e.run) (hjournal : e'.journal = e.journal) : e.Logs P e' :=
  ⟨hrun, [], by rw [hjournal, List.append_nil], by simp⟩

lemma refl (P : JournalEntry → Prop) (e : Engine) : e.Logs P e := of_same rfl rfl

lemma trans (h : e.Logs P e') (h' : e'.Logs P e'') : e.Logs P e'' := by
  obtain ⟨hrun, ls, hls, hP⟩ := h
  obtain ⟨hrun', ls', hls', hP'⟩ := h'
  refine ⟨hrun'.trans hrun, ls ++ ls', by rw [hls', hls, List.append_assoc], ?_⟩
  exact List.forall_mem_append.mpr ⟨hP, hP'⟩

lemma mono (h : e.Logs P e') (hPQ : ∀ l, P l → Q l) : e.Logs Q e' := by
  obtain ⟨hrun, ls, hls, hP⟩ := h
  exact ⟨hrun, ls, hls, fun l hl => hPQ l (hP l hl)⟩

lemma notingAll (e : Engine) (notes : List Log.Note) :
    e.Logs (·.Bears e.run) (e.notingAll notes) := by
  refine ⟨rfl, _, rfl, fun l hl => ?_⟩
  obtain ⟨n, -, rfl⟩ := List.mem_map.mp hl
  exact ⟨rfl, rfl⟩

lemma noting (e : Engine) (level : Log.Level) (event : String) :
    e.Logs (·.Bears e.run) (e.noting level event) := notingAll e [⟨level, event⟩]

lemma then_bears (h : e.Logs (·.Bears e.run) e') (h' : e'.Logs (·.Bears e'.run) e'') :
    e.Logs (·.Bears e.run) e'' := by
  rw [h.run] at h'
  exact h.trans h'

end Engine.Logs

lemma lockstep_logs (e₀ : Engine) :
    Lockstep (fun _ _ => True) fun e k => e = k ∧ e₀.Logs (·.Bears e₀.run) e :=
  lockstep_self (fun e notes h => h.then_bears (.notingAll e notes))
    (fun _ _ h => h.then_bears (.of_same rfl rfl))
    (fun _ _ _ _ _ h => h.then_bears (.of_same rfl rfl))
    (fun _ _ _ _ _ h => h.then_bears (.of_same rfl rfl))
    fun _ _ _ _ h => h.then_bears (.of_same rfl rfl)

lemma postsMatch_logs (e₀ : Engine) :
    PostsMatch fun e k => e = k ∧ e₀.Logs (·.Bears e₀.run) e := by
  rintro e k p ⟨rfl, h⟩
  exact ⟨_, _, _, rfl, rfl, rfl, h.then_bears (.of_same rfl rfl)⟩

lemma logs_of_does {α : Type} {Y : α → Prop} {x : EngineM α}
    (h : ∀ K, Lockstep (fun _ _ => True) K → PostsMatch K → EngineM.Does K Y x) (e : Engine) :
    e.Logs (·.Bears e.run) (x.perform e).2 := by
  obtain ⟨r, e', k, he, -, -, hk⟩ :=
    (h _ (lockstep_logs e) (postsMatch_logs e)).meets ⟨rfl, .refl _ e⟩
  rw [he]
  exact hk

lemma logs_bind {α β : Type} {x : EngineM α} {f : α → EngineM β} (hx : e.Logs P (x.perform e).2)
    (hf : ∀ a k, x.perform e = (.ok a, k) → e.Logs P k → k.Logs P ((f a).perform k).2) :
    e.Logs P ((x >>= f).perform e).2 := by
  rw [EngineM.perform_bind]
  rcases hp : x.perform e with ⟨g | a, k⟩
  · rw [hp] at hx
    exact hx
  · rw [hp] at hx
    exact hx.trans (hf a k hp hx)

end CrmAutomation

import CrmAutomation.Proofs.Value.Fields
import CrmAutomation.Schema.Reader

/-!
What it takes for authored data to be read.

A record is read if each of its fields is, and a field that is missing takes its default.
-/

namespace CrmAutomation.Schema

variable {α β : Type}

lemma Issues.append_assoc (a b c : Issues) : (a.append b).append c = a.append (b.append c) := by
  simp [Issues.append, Issues.toList]

namespace Checked

/-- It does not matter how the fields of a record are put together. -/
instance : LawfulApplicative Checked where
  map_const := rfl
  id_map x := by cases x <;> rfl
  seqLeft_eq x y := by cases x <;> cases y <;> rfl
  seqRight_eq x y := by cases x <;> cases y <;> rfl
  pure_seq g x := by cases x <;> rfl
  map_pure g x := rfl
  seq_pure g x := by cases g <;> rfl
  seq_assoc x g h := by
    rcases x with _ | is
    · rcases g with _ | js
      · cases h <;> rfl
      · cases h <;> rfl
    · rcases g with _ | js
      · cases h <;> rfl
      · rcases h with _ | ks
        · rfl
        · exact congrArg refused (Issues.append_assoc ks js is).symm

lemma map_eq (f : α → β) (x : Checked α) : x.map f = f <$> x := rfl

lemma map_within (f : α → β) (k : String) (x : Checked α) :
    f <$> x.within k = (f <$> x).within k := by
  cases x <;> rfl

/-- All that is wrong with what was read. -/
def issues : Checked α → List Issue
  | ok _ => []
  | refused is => is.toList

@[simp] lemma issues_seq (f : Checked (α → β)) (x : Checked α) :
    (f <*> x).issues = f.issues ++ x.issues := by
  show (f.ap x).issues = _
  rcases f with _ | is
  · cases x <;> rfl
  · rcases x with _ | js
    · simp [ap, issues]
    · simp [ap, issues, Issues.append, Issues.toList]

@[simp] lemma issues_map (f : α → β) (x : Checked α) : (f <$> x).issues = x.issues := by
  cases x <;> rfl

@[simp] lemma issues_within (k : String) (x : Checked α) :
    (x.within k).issues = x.issues.map (·.within k) := by
  cases x <;> rfl

lemma bind_eq_ok {x : Checked α} {f : α → Checked β} {b : β} :
    x.bind f = .ok b ↔ ∃ a, x = .ok a ∧ f a = .ok b := by
  rcases x with a | issues
  · simp [bind]
  · simp [bind]

lemma seq_eq_ok {f : Checked (α → β)} {x : Checked α} {b : β} :
    f <*> x = .ok b ↔ ∃ g a, f = .ok g ∧ x = .ok a ∧ g a = b := by
  show f.ap x = .ok b ↔ _
  rcases f with g | issues
  · rcases x with a | issues'
    · simp [ap]
    · simp [ap]
  · rcases x with a | issues'
    · simp [ap]
    · simp [ap]

lemma map_eq_ok {f : α → β} {x : Checked α} {b : β} :
    f <$> x = .ok b ↔ ∃ a, x = .ok a ∧ f a = b := by
  show x.map f = .ok b ↔ _
  rcases x with a | issues
  · simp [map]
  · simp [map]

lemma within_eq_ok {k : String} {x : Checked α} {a : α} : x.within k = .ok a ↔ x = .ok a := by
  rcases x with b | issues
  · simp [within]
  · simp [within]

end Checked

namespace Field

/-- The keys under which a field may be given. -/
def keys (f : Field) : List Key := (f.name :: f.otherName.toList).map .text

lemma key?_congr {f : Field} {fs gs : Fields} (h : ∀ k ∈ f.keys, fs.find? k = gs.find? k) :
    f.key? fs = f.key? gs := by
  obtain ⟨name, _ | other⟩ := f
  · have hname := h name (by simp [keys])
    simp only [key?, Fields.has_eq_isSome, hname]
  · have hname := h name (by simp [keys])
    have hother := h other (by simp [keys])
    simp only [key?, Fields.has_eq_isSome, hname, hother]

lemma key?_mem {f : Field} {fs : Fields} {k : String} (h : f.key? fs = some k) :
    Key.text k ∈ f.keys := by
  obtain ⟨name, _ | other⟩ := f
  · simp only [key?, Option.ite_none_right_eq_some, Option.some.injEq] at h
    simp [keys, h.2]
  · simp only [key?] at h
    split at h
    · simp [keys, Option.some.inj h]
    · simp only [Option.ite_none_right_eq_some, Option.some.injEq] at h
      simp [keys, h.2]

lemma withDefault_congr {f : Field} {fs gs : Fields}
    (h : ∀ k ∈ f.keys, fs.find? k = gs.find? k) (d : α) (r : Reader α) :
    f.withDefault d r fs = f.withDefault d r gs := by
  unfold withDefault
  rw [key?_congr h]
  rcases hk : f.key? gs with _ | k
  · rfl
  · dsimp only
    rw [Fields.get, Fields.get, h _ (key?_mem hk)]

lemma withDefault_eq (name : String) (d : α) (r : Reader α) (fs : Fields) :
    withDefault ⟨name, none⟩ d r fs =
      match fs.find? name with
      | some v => (r v).within name
      | none => .ok d := by
  have hk : key? ⟨name, none⟩ fs = if (fs.find? name).isSome then some name else none := by
    rw [← Fields.has_eq_isSome]
    rfl
  unfold withDefault
  rw [hk]
  rcases h : fs.find? name with _ | v
  · rfl
  · rw [Option.isSome_some, if_pos rfl]
    dsimp only
    rw [Fields.get, h]
    rfl

/-- The fields give a value under a name: it is read there, or nothing is there and it is the
default. -/
def Gives (fs : Fields) (name : String) (r : Reader α) (d a : α) : Prop :=
  match fs.find? name with
  | some v => r v = .ok a
  | none => a = d

lemma Gives.exists_of_ne {name : String} {d a : α} {r : Reader α} {fs : Fields}
    (h : Gives fs name r d a) (hne : a ≠ d) : ∃ v, fs.find? name = some v ∧ r v = .ok a := by
  unfold Gives at h
  rcases hf : fs.find? name with _ | v
  · rw [hf] at h
    exact absurd h hne
  · rw [hf] at h
    exact ⟨v, rfl, h⟩

lemma withDefault_eq_ok {name : String} {d a : α} {r : Reader α} {fs : Fields} :
    withDefault ⟨name, none⟩ d r fs = .ok a ↔ Gives fs name r d a := by
  unfold Gives
  rw [withDefault_eq]
  rcases fs.find? name with _ | v
  · rw [Checked.ok.injEq, eq_comm]
  · exact Checked.within_eq_ok

lemma required_eq (name : String) (r : Reader α) (fs : Fields) :
    required ⟨name, none⟩ r fs =
      match fs.find? name with
      | some v => (r v).within name
      | none => .refused ⟨⟨[name], .missing⟩, []⟩ := by
  have hk : key? ⟨name, none⟩ fs = if (fs.find? name).isSome then some name else none := by
    rw [← Fields.has_eq_isSome]
    rfl
  unfold required
  rw [hk]
  rcases h : fs.find? name with _ | v
  · rfl
  · rw [Option.isSome_some, if_pos rfl]
    dsimp only
    rw [Fields.get, h]
    rfl

lemma required_eq_ok {name : String} {r : Reader α} {fs : Fields} {a : α} :
    required ⟨name, none⟩ r fs = .ok a ↔ ∃ v, fs.find? name = some v ∧ r v = .ok a := by
  rw [required_eq]
  rcases fs.find? name with _ | v
  · simp
  · simp [Checked.within_eq_ok]

end Field

lemma text_eq_ok {v : Value} {s : String} : text v = .ok s ↔ v = .text s := by
  cases v <;> simp [text, Checked.fail]

lemma optional_text_eq_some {v : Value} {s : String} :
    optional text v = .ok (some s) ↔ v = .text s := by
  cases v <;> simp [optional, text, Checked.fail, Checked.map]

lemma integer_float {x : Numeric.Binary64} {n : Int} (h : integer (.float x) = .ok n) :
    x.isWhole = true ∧ x.truncate? = some n := by
  simp only [integer] at h
  split at h
  · cases h
  · split at h
    · cases h
    · rename_i hw
      refine ⟨by simpa using hw, ?_⟩
      split at h
      · rename_i m hm
        split at h
        · cases h
          exact hm
        · cases h
      · cases h

end CrmAutomation.Schema

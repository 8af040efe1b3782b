import CrmAutomation.Proofs.Value.Fields
import CrmAutomation.Value.Bytes

/-!
Values that JSON brings back as they are.

What was written as JSON and read again is such a value, and so is every value that a JSON text
writes.
-/

namespace CrmAutomation

open Numeric

namespace Value

/-- JSON brings the value back as it is. -/
def IsJson (v : Value) : Prop := v.restored = v

lemma isJson_text (s : String) : (text s).IsJson := rfl

lemma restoredList_eq (xs : List Value) : restoredList xs = xs.map restored := by
  induction xs with
  | nil => rfl
  | cons x xs ih => simp [restoredList, ih]

lemma isJson_list {xs : List Value} (h : ∀ x ∈ xs, x.IsJson) : (list xs).IsJson := by
  show list (restoredList xs) = list xs
  rw [restoredList_eq, List.map_congr_left h, List.map_id']

lemma isJson_object {fs : Fields} (hf : fs.Plain) (h : ∀ p ∈ fs, p.2.IsJson) :
    (object fs).IsJson := by
  show object fs.restored = object fs
  have hid : (fs.map fun p => (p.1, p.2.restored)) = fs.map id :=
    List.map_congr_left fun p hp => by rw [h p hp]; rfl
  rw [hf.restored_eq, hid, List.map_id]

lemma mem_restored {fs : Fields} {p : Key × Value} (h : p ∈ fs.restored) :
    ∃ q ∈ fs, p.2 = q.2.restored := by
  rcases Fields.mem_of_mem_merge h with h | h
  · cases h
  · rw [Fields.restoredPairs_eq] at h
    obtain ⟨q, hq, rfl⟩ := List.mem_map.mp h
    exact ⟨q, hq, rfl⟩

mutual

/-- JSON changes no value twice. -/
theorem isJson_restored : ∀ v : Value, v.restored.IsJson
  | .float (.nan _) => rfl
  | .float (.infinite _) | .float (.finite _ _) => rfl
  | .null | .bool _ | .int _ | .text _ => rfl
  | .list xs => isJson_list (isJson_restoredList xs)
  | .object fs => isJson_object (Fields.restored_plain fs) fun p hp => by
      obtain ⟨q, hq, he⟩ := mem_restored hp
      rw [he]
      exact isJson_restoredFields fs q hq

theorem isJson_restoredList : ∀ xs : List Value, ∀ x ∈ restoredList xs, x.IsJson
  | [], _, h => by cases h
  | x :: xs, y, h => by
    rcases List.mem_cons.mp h with rfl | h
    · exact isJson_restored x
    · exact isJson_restoredList xs y h

theorem isJson_restoredFields : ∀ fs : Fields, ∀ p ∈ fs, p.2.restored.IsJson
  | [], _, h => by cases h
  | (_, x) :: fs, p, h => by
    rcases List.mem_cons.mp h with rfl | h
    · exact isJson_restored x
    · exact isJson_restoredFields fs p h

end

lemma isJson_get {fs : Fields} (h : (object fs).IsJson) (k : Key) : (fs.get k).IsJson := by
  have hr : fs.restored = fs := by injection h
  rw [Fields.get]
  rcases hv : fs.find? k with _ | v
  · rfl
  · rw [← hr] at hv
    obtain ⟨q, -, he⟩ := mem_restored (Fields.mem_of_find? hv)
    exact (show v = q.2.restored from he) ▸ isJson_restored q.2

lemma isJson_orElse {v w : Value} (hv : v.IsJson) (hw : w.IsJson) : (v.orElse w).IsJson := by
  rw [orElse]
  split
  · exact hv
  · exact hw

end Value

/-! ### Values that texts write -/

namespace Json

open Value

/-- What a container holds so far is such a value. -/
def Frame.Sound : Frame → Prop
  | .list items => ∀ v ∈ items, v.IsJson
  | .object fields _ => fields.Plain ∧ ∀ p ∈ fields, p.2.IsJson

/-- So is what a machine holds. -/
structure Machine.Sound (m : Machine) : Prop where
  stack : ∀ f ∈ m.stack, f.Sound
  result : ∀ v, m.expect = .nothing v → v.IsJson

lemma sound_deliver {stack : List Frame} {v : Value} (hs : ∀ f ∈ stack, f.Sound)
    (hv : v.IsJson) : (Machine.deliver stack v).Sound := by
  rcases stack with _ | ⟨_ | _, rest⟩
  · exact ⟨by simp [Machine.deliver], fun w hw => by cases hw; exact hv⟩
  · rename_i items
    refine ⟨fun f hf => ?_, by simp [Machine.deliver]⟩
    rcases List.mem_cons.mp hf with rfl | hf
    · intro w hw
      rcases List.mem_cons.mp hw with rfl | hw
      · exact hv
      · exact hs (.list items) List.mem_cons_self w hw
    · exact hs f (List.mem_cons_of_mem _ hf)
  · rename_i fields key
    obtain ⟨hp, hj⟩ := hs (.object fields key) List.mem_cons_self
    refine ⟨fun f hf => ?_, by simp [Machine.deliver]⟩
    rcases List.mem_cons.mp hf with rfl | hf
    · refine ⟨hp.insert key v, fun p hm => ?_⟩
      rcases Fields.mem_insert hm with rfl | hm
      · exact hv
      · exact hj p hm
    · exact hs f (List.mem_cons_of_mem _ hf)

lemma isJson_float {x : Binary64} (h : ∀ n, x ≠ .nan n) : (float x).IsJson := by
  rcases x with n | b | ⟨b, u⟩
  · exact absurd rfl (h n)
  · rfl
  · rfl

lemma ofRatio_ne_nan (b : Bool) (num den n : ℕ) : Binary64.ofRatio b num den ≠ .nan n := by
  unfold Binary64.ofRatio Binary64.ofUnits
  dsimp only
  split <;> simp

lemma toBinary64_ne_nan (d : Decimal) (n : ℕ) : d.toBinary64 ≠ .nan n := by
  unfold Decimal.toBinary64
  dsimp only
  split_ifs
  iterate 3 simp
  iterate 2 exact ofRatio_ne_nan _ _ _ _

lemma isJson_of_wordValue? {cs : List Char} {v : Value} (h : wordValue? cs = some v) :
    v.IsJson := by
  unfold wordValue? at h
  dsimp only at h
  -- the words come first
  iterate 6
    split at h
    · cases h
      rfl
  split at h
  · split at h
    · split at h
      · cases h
      · cases h
        rfl
    · obtain ⟨d, -, rfl⟩ := Option.map_eq_some_iff.mp h
      exact isJson_float (toBinary64_ne_nan d)
  · cases h

lemma sound_cons {f : Frame} {stack : List Frame} {x : Expect} (hf : f.Sound)
    (hs : ∀ g ∈ stack, g.Sound) (hx : ∀ v, x ≠ .nothing v) : (Machine.mk (f :: stack) x).Sound :=
  ⟨List.forall_mem_cons.mpr ⟨hf, hs⟩, fun v hv => absurd hv (hx v)⟩

lemma sound_step {m m' : Machine} {t : Token} (hm : m.Sound) (h : m.step t = some m') :
    m'.Sound := by
  obtain ⟨stack, x⟩ := m
  have hs : ∀ f ∈ stack, f.Sound := hm.stack
  unfold Machine.step at h
  dsimp only at h
  split at h
  -- a word or a string is a value of its own
  iterate 2
    · obtain ⟨v, hv, rfl⟩ := Option.map_eq_some_iff.mp h
      exact sound_deliver hs (isJson_of_wordValue? hv)
  iterate 2
    · cases h; exact sound_deliver hs (isJson_text _)
  -- a container begins
  iterate 2
    · cases h; exact sound_cons (by simp [Frame.Sound]) hs (by simp)
  iterate 2
    · cases h; exact sound_cons ⟨Fields.plain_nil, by simp⟩ hs (by simp)
  -- an empty container ends
  iterate 2
    · cases h
      exact sound_deliver (fun f hf => hs f (List.mem_of_mem_tail hf)) rfl
  -- a key is read
  iterate 2
    · split at h
      · cases h
        have hf := hs _ List.mem_cons_self
        exact sound_cons hf (fun g hg => hs g (List.mem_cons_of_mem _ hg)) (by simp)
      · cases h
  · cases h; exact ⟨hs, by simp⟩
  · split at h <;> cases h <;> exact ⟨hs, by simp⟩
  -- a container with contents ends
  · split at h
    · cases h
      have hf := hs _ List.mem_cons_self
      refine sound_deliver (fun g hg => hs g (List.mem_cons_of_mem _ hg)) (isJson_list ?_)
      exact fun v hv => hf v (List.mem_reverse.mp hv)
    · cases h
  · split at h
    · cases h
      have hf := hs _ List.mem_cons_self
      exact sound_deliver (fun g hg => hs g (List.mem_cons_of_mem _ hg)) (isJson_object hf.1 hf.2)
    · cases h
  · cases h

lemma sound_steps {m m' : Machine} {ts : List Token} (hm : m.Sound)
    (h : ts.foldlM Machine.step m = some m') : m'.Sound := by
  induction ts generalizing m with
  | nil => cases h; exact hm
  | cons t ts ih =>
    rw [List.foldlM_cons] at h
    obtain ⟨k, hk, h⟩ := Option.bind_eq_some_iff.mp h
    exact ih (sound_step hm hk) h

lemma sound_feed {st st' : Scan × Machine} {cs : List Char} (hm : st.2.Sound)
    (h : cs.foldlM feed st = some st') : st'.2.Sound := by
  induction cs generalizing st with
  | nil => cases h; exact hm
  | cons c cs ih =>
    rw [List.foldlM_cons] at h
    obtain ⟨k, hk, h⟩ := Option.bind_eq_some_iff.mp h
    refine ih ?_ h
    unfold feed at hk
    split at hk
    · cases hk
    · obtain ⟨m, hm', rfl⟩ := Option.map_eq_some_iff.mp hk
      exact sound_steps hm hm'

/-- What a JSON text writes, JSON brings back as it is. -/
theorem isJson_of_parse? {s : String} {v : Value} (h : parse? s = some v) : v.IsJson := by
  unfold parse? at h
  split at h
  · rename_i stack w hw
    cases h
    obtain ⟨st, hst, hf⟩ := Option.bind_eq_some_iff.mp hw
    have hm := sound_feed (⟨by simp, by simp⟩ : (Machine.mk [] .value).Sound) hst
    have hend : (Machine.mk stack (.nothing v)).Sound := by
      unfold finish at hf
      split at hf
      · exact Option.some.inj hf ▸ hm
      · exact sound_step hm hf
      · cases hf
    exact hend.result v rfl
  · cases h

end Json

end CrmAutomation

import CrmAutomation.Value.Restored
import Mathlib.Data.List.Nodup
import Mathlib.Tactic.Common

/-!
Fields of objects under insertion, merging and the way through JSON.

Fields are plain if their keys are distinct texts. Plain fields come back from JSON key by key, with
only their values restored.
-/

namespace CrmAutomation.Value

lemma orElse_text {s : String} (h : s ≠ "") (v : Value) : (text s).orElse v = .text s := by
  have hpresent : (text s).isTruthy = true := by simp [isTruthy, h]
  unfold orElse
  rw [if_pos hpresent]

lemma orElse_object (fs : Fields) : (object fs).orElse (.object []) = .object fs := by
  rcases fs with _ | ⟨p, fs⟩
  · rfl
  · rfl

end CrmAutomation.Value

namespace CrmAutomation.Fields

/-- The keys are texts, and no two are the same. -/
structure Plain (fs : Fields) : Prop where
  texts : ∀ p ∈ fs, ∃ s : String, p.1 = .text s
  nodup : (fs.map (·.1)).Nodup

lemma plain_nil : Plain [] := ⟨by simp, by simp⟩

lemma find?_eq_none_of_notMem {fs : Fields} {k : Key} (h : k ∉ fs.map (·.1)) :
    fs.find? k = none := by
  simp only [find?, Option.map_eq_none_iff, List.find?_eq_none]
  rintro p hp hk
  exact h (List.mem_map.mpr ⟨p, hp, by simpa using hk⟩)

lemma mem_of_find? {fs : Fields} {k : Key} {v : Value} (h : fs.find? k = some v) :
    (k, v) ∈ fs := by
  simp only [find?, Option.map_eq_some_iff] at h
  obtain ⟨p, hp, rfl⟩ := h
  have hk : p.1 = k := by simpa using List.find?_some hp
  rw [← hk]
  exact List.mem_of_find?_eq_some hp

lemma find?_of_mem {fs : Fields} (h : (fs.map (·.1)).Nodup) {p : Key × Value} (hp : p ∈ fs) :
    fs.find? p.1 = some p.2 := by
  induction fs with
  | nil => cases hp
  | cons q fs ih =>
    rw [List.map_cons, List.nodup_cons] at h
    rw [find?_cons]
    rcases List.mem_cons.mp hp with rfl | hp
    · rw [if_pos (beq_self_eq_true _)]
    · have hne : ¬(q.1 == p.1) = true := by
        intro heq
        exact h.1 (beq_iff_eq.mp heq ▸ List.mem_map_of_mem hp)
      rw [if_neg hne, ih h.2 hp]

lemma find?_map_value (f : Value → Value) (fs : Fields) (k : Key) :
    find? (fs.map fun p => (p.1, f p.2)) k = (fs.find? k).map f := by
  induction fs with
  | nil => rfl
  | cons p fs ih =>
    obtain ⟨l, w⟩ := p
    rw [List.map_cons, find?_cons, find?_cons]
    split
    · rfl
    · exact ih

/-! ### Selection -/

lemma find?_filter_keys (P : Key → Bool) (fs : Fields) (k : Key) :
    find? (fs.filter fun p => P p.1) k = if P k then fs.find? k else none := by
  induction fs with
  | nil => simp
  | cons p fs ih =>
    obtain ⟨l, w⟩ := p
    by_cases hl : l = k
    · subst hl
      by_cases hP : P l = true
      · simp [find?_cons, hP]
      · simp [hP, ih]
    · by_cases hP : P l = true
      · simp [find?_cons, hP, hl, ih]
      · simp [find?_cons, hP, hl, ih]

lemma find?_without (fs : Fields) (k l : Key) :
    (fs.without l).find? k = if k = l then none else fs.find? k := by
  unfold without
  rw [find?_filter_keys (· != l)]
  by_cases h : k = l <;> simp [h]

lemma find?_filter (P : Key × Value → Bool) {fs : Fields} (h : (fs.map (·.1)).Nodup) (k : Key) :
    find? (fs.filter P) k = (fs.find? k).filter fun v => P (k, v) := by
  induction fs with
  | nil => rfl
  | cons p fs ih =>
    obtain ⟨l, w⟩ := p
    rw [List.map_cons, List.nodup_cons] at h
    by_cases hl : l = k
    · subst hl
      have hrest : find? fs l = none := find?_eq_none_of_notMem h.1
      by_cases hP : P (l, w) = true
      · simp [find?_cons, Option.filter, hP]
      · simp [find?_cons, Option.filter, hP, ih h.2, hrest]
    · by_cases hP : P (l, w) = true
      · simp [find?_cons, hP, hl, ih h.2]
      · simp [find?_cons, hP, hl, ih h.2]

/-! ### Insertion -/

lemma keys_insert (fs : Fields) (k : Key) (v : Value) :
    (fs.insert k v).map (·.1) =
      if k ∈ fs.map (·.1) then fs.map (·.1) else fs.map (·.1) ++ [k] := by
  induction fs with
  | nil => simp [insert]
  | cons p fs ih =>
    obtain ⟨l, w⟩ := p
    by_cases h : l = k
    · subst h; simp [insert]
    · simp only [insert, beq_iff_eq, h, if_false, List.map_cons, ih, List.mem_cons, Ne.symm h,
        false_or]
      split <;> simp

lemma mem_insert {fs : Fields} {k : Key} {v : Value} {p : Key × Value}
    (h : p ∈ fs.insert k v) : p = (k, v) ∨ p ∈ fs := by
  induction fs with
  | nil => simpa [insert] using h
  | cons q fs ih =>
    obtain ⟨l, w⟩ := q
    simp only [insert] at h
    split at h
    · rcases List.mem_cons.mp h with h | h
      · exact Or.inl h
      · exact Or.inr (List.mem_cons_of_mem _ h)
    · rcases List.mem_cons.mp h with h | h
      · exact Or.inr (h ▸ List.mem_cons_self)
      · exact (ih h).imp_right (List.mem_cons_of_mem _)

lemma nodup_insert {fs : Fields} (h : (fs.map (·.1)).Nodup) (k : Key) (v : Value) :
    ((fs.insert k v).map (·.1)).Nodup := by
  rw [keys_insert]
  split
  · exact h
  · rename_i hk
    exact List.nodup_append.mpr ⟨h, by simp, by
      rintro a ha b hb rfl
      exact hk (List.mem_singleton.mp hb ▸ ha)⟩

lemma Plain.insert {fs : Fields} (h : fs.Plain) (s : String) (v : Value) :
    (fs.insert s v).Plain where
  texts := by
    intro p hp
    rcases mem_insert hp with rfl | hp
    · exact ⟨s, rfl⟩
    · exact h.texts p hp
  nodup := nodup_insert h.nodup s v

lemma insert_of_notMem {fs : Fields} {k : Key} (v : Value) (h : k ∉ fs.map (·.1)) :
    fs.insert k v = fs ++ [(k, v)] := by
  induction fs with
  | nil => rfl
  | cons p fs ih =>
    obtain ⟨l, w⟩ := p
    simp only [List.map_cons, List.mem_cons, not_or] at h
    simp [insert, Ne.symm h.1, ih h.2]

lemma has_eq_isSome (fs : Fields) (k : Key) : fs.has k = (fs.find? k).isSome := by
  simp only [has, find?, Option.isSome_map]
  rw [List.isSome_find?]

lemma find?_insertNew (fs : Fields) (k l : Key) (v : Value) :
    (fs.insertNew k v).find? l = if k = l then some ((fs.find? k).getD v) else fs.find? l := by
  unfold insertNew
  rw [has_eq_isSome]
  rcases h : fs.find? k with _ | w
  · rw [Option.isSome_none, if_neg Bool.false_ne_true, find?_insert]
    rfl
  · rw [Option.isSome_some, if_pos rfl]
    split
    · rename_i hk
      exact hk ▸ h
    · rfl

lemma Plain.insertNew {fs : Fields} (h : fs.Plain) (s : String) (v : Value) :
    (fs.insertNew s v).Plain := by
  unfold Fields.insertNew
  split
  · exact h
  · exact h.insert s v

/-! ### Merging -/

lemma merge_cons (fs : Fields) (p : Key × Value) (gs : Fields) :
    fs.merge (p :: gs) = (fs.insert p.1 p.2).merge gs := rfl

lemma nodup_merge {fs : Fields} (h : (fs.map (·.1)).Nodup) (gs : Fields) :
    ((fs.merge gs).map (·.1)).Nodup := by
  induction gs generalizing fs with
  | nil => exact h
  | cons p gs ih => exact ih (nodup_insert h p.1 p.2)

lemma find?_merge (fs : Fields) {gs : Fields} (h : (gs.map (·.1)).Nodup) (k : Key) :
    (fs.merge gs).find? k = (gs.find? k).or (fs.find? k) := by
  induction gs generalizing fs with
  | nil => rfl
  | cons p gs ih =>
    obtain ⟨l, w⟩ := p
    rw [List.map_cons, List.nodup_cons] at h
    rw [merge_cons, ih _ h.2, find?_insert, find?_cons]
    by_cases hk : l = k
    · subst hk
      simp [find?_eq_none_of_notMem h.1]
    · simp [hk]

lemma Plain.merge {fs gs : Fields} (hf : fs.Plain) (hg : ∀ p ∈ gs, ∃ s : String, p.1 = .text s) :
    (fs.merge gs).Plain := by
  induction gs generalizing fs with
  | nil => exact hf
  | cons p gs ih =>
    obtain ⟨s, hs⟩ := hg p List.mem_cons_self
    rw [merge_cons, hs]
    exact ih (hf.insert s p.2) fun q hq => hg q (List.mem_cons_of_mem _ hq)

lemma merge_of_nodup {fs gs : Fields} (h : ((fs ++ gs).map (·.1)).Nodup) :
    fs.merge gs = fs ++ gs := by
  induction gs generalizing fs with
  | nil => simp [merge]
  | cons p gs ih =>
    have hp : p.1 ∉ fs.map (·.1) := by
      rw [List.map_append, List.nodup_append] at h
      exact fun hm => h.2.2 p.1 hm p.1 (by simp) rfl
    rw [merge_cons, insert_of_notMem p.2 hp, ih (by simpa using h)]
    simp

lemma mem_of_mem_merge {fs gs : Fields} {p : Key × Value} (h : p ∈ fs.merge gs) :
    p ∈ fs ∨ p ∈ gs := by
  induction gs generalizing fs with
  | nil => exact Or.inl h
  | cons q gs ih =>
    rcases ih h with h | h
    · rcases mem_insert h with rfl | h
      · exact Or.inr List.mem_cons_self
      · exact Or.inl h
    · exact Or.inr (List.mem_cons_of_mem _ h)

/-! ### Through JSON -/

lemma restoredPairs_eq (fs : Fields) :
    Value.restoredPairs fs = fs.map fun p => (.text p.1.asText, p.2.restored) := by
  induction fs with
  | nil => rfl
  | cons p fs ih => obtain ⟨k, x⟩ := p; simp [Value.restoredPairs, ih]

lemma restored_plain (fs : Fields) : fs.restored.Plain := by
  refine plain_nil.merge fun p hp => ?_
  rw [restoredPairs_eq] at hp
  obtain ⟨q, -, rfl⟩ := List.mem_map.mp hp
  exact ⟨_, rfl⟩

lemma Plain.restored_eq {fs : Fields} (h : fs.Plain) :
    fs.restored = fs.map fun p => (p.1, p.2.restored) := by
  have hmap : Value.restoredPairs fs = fs.map fun p => (p.1, p.2.restored) := by
    rw [restoredPairs_eq]
    refine List.map_congr_left fun p hp => ?_
    obtain ⟨s, hs⟩ := h.texts p hp
    rw [hs]; rfl
  have hkeys : (fs.map fun p => (p.1, p.2.restored)).map (·.1) = fs.map (·.1) := by
    rw [List.map_map]; rfl
  rw [restored, hmap, ofPairs]
  refine merge_of_nodup ?_
  rw [List.nil_append, hkeys]
  exact h.nodup

lemma Plain.find?_restored {fs : Fields} (h : fs.Plain) (k : Key) :
    fs.restored.find? k = (fs.find? k).map Value.restored := by
  rw [h.restored_eq, find?_map_value]

end CrmAutomation.Fields

import CrmAutomation.Proofs.Store.Rows
import CrmAutomation.Proofs.Value.Json

/-!
What stands in a row after some of its fields are set.

A store in memory sets the fields as they are. A database writes the row again, through JSON, unless
it comes to be equal to what it was.
-/

namespace CrmAutomation

open Record Calendar

namespace Value

lemma agrees_text {v : Value} {s : String} : v.agrees (.text s) = true ↔ v = .text s := by
  cases v <;> simp [agrees, asNumber?]

lemma text_agrees {v : Value} {s : String} : (text s).agrees v = true ↔ v = .text s := by
  cases v with
  | text t => rw [agrees, beq_iff_eq, Value.text.injEq]; exact eq_comm
  | _ => simp [agrees, asNumber?]

lemma findSame?_text (fs : Fields) (s : String) : findSame? fs (.text s) = fs.find? (.text s) := by
  have hk : ∀ k : Key, k.isSame (.text s) = (k == .text s) := by
    intro k
    cases k <;> simp [Key.isSame, Key.asNumber?]
  simp only [findSame?, Fields.find?, hk]

lemma agreesField_of_mem {xs ys : Fields} {p : Key × Value} (h : agreesFields xs ys = true)
    (hp : p ∈ xs) : agreesField p ys = true := by
  induction xs with
  | nil => cases hp
  | cons q xs ih =>
    simp only [agreesFields, Bool.and_eq_true] at h
    rcases List.mem_cons.mp hp with rfl | hp
    · exact h.1
    · exact ih h.2 hp

lemma agrees_find? {xs ys : Fields} {s : String} {v : Value}
    (h : (object xs).agrees (.object ys) = true) (hv : xs.find? (.text s) = some v) :
    ∃ w, ys.find? (.text s) = some w ∧ (isSameNoNumber v w || v.agrees w) = true := by
  simp only [agrees, Bool.and_eq_true] at h
  have hf := agreesField_of_mem h.2 (Fields.mem_of_find? hv)
  simp only [agreesField, findSame?_text] at hf
  rcases hw : ys.find? (.text s) with _ | w
  · simp [hw] at hf
  · exact ⟨w, rfl, by simpa [hw] using hf⟩

lemma length_of_agreesList {xs ys : List Value} (h : agreesList xs ys = true) :
    xs.length = ys.length := by
  induction xs generalizing ys with
  | nil => cases ys <;> simp_all [agreesList]
  | cons x xs ih =>
    rcases ys with _ | ⟨y, ys⟩
    · simp [agreesList] at h
    · simp only [agreesList, Bool.and_eq_true] at h
      simp [ih h.2]

end Value

namespace Record

lemma matchesAll_id {row : Row} {id : String} :
    matchesAll [⟨"id", .equals, .text id⟩] row = true ↔ row.get "id" = .text id := by
  simp [matchesAll, Filter.passes, Relation.holds, Value.agrees_text]

end Record

namespace Store

lemma find?_complete_id {row : Row} (h : row.find? "id" = none) (id : String) (t : Instant) :
    (complete id t row).find? "id" = some (.text id) := by
  unfold complete
  rw [Fields.find?_insertNew, if_neg (by decide), Fields.find?_insertNew, if_pos rfl, h]
  rfl

lemma find?_complete_other {k : Key} (hid : k ≠ "id") (hc : k ≠ "created_at") (id : String)
    (t : Instant) (row : Row) : (complete id t row).find? k = row.find? k := by
  unfold complete
  rw [Fields.find?_insertNew, if_neg (Ne.symm hc), Fields.find?_insertNew, if_neg (Ne.symm hid)]

/-- A value as the store brings it back. -/
def brings (s : Store) : Value → Value :=
  match s.backend with
  | .memory _ => id
  | .database _ _ => Value.restored

lemma brings_of_isJson {s : Store} {v : Value} (h : v.IsJson) : s.brings v = v := by
  rcases hb : s.backend with tables | ⟨phase, archive⟩
  · simp only [brings, hb, id]
  · simp only [brings, hb]
    exact h

lemma brings_brings (s : Store) (v : Value) : s.brings (s.brings v) = s.brings v := by
  rcases hb : s.backend with tables | ⟨phase, archive⟩
  · simp only [brings, hb, id]
  · simp only [brings, hb]
    exact Value.isJson_restored v

variable {s : Store} {row fields : Fields} {k : String} {v : Value}

lemma brings_object (s : Store) (row : Fields) : s.brings (.object row) = .object (s.keep row) := by
  unfold brings keep
  cases s.backend with
  | memory tables => rfl
  | database phase archive => rfl

lemma plain_keep (hr : row.Plain) : (s.keep row).Plain := by
  unfold keep
  split
  · exact hr
  · exact Fields.restored_plain row

lemma find?_keep (hr : row.Plain) (k : Key) :
    (s.keep row).find? k = (row.find? k).map s.brings := by
  rcases hb : s.backend with tables | ⟨phase, archive⟩
  · simp only [keep, brings, hb, Option.map_id, id]
  · simp only [keep, brings, hb]
    exact hr.find?_restored k

lemma plain_overwrite (hr : row.Plain) (hf : fields.Plain) : (s.overwrite row fields).Plain := by
  unfold overwrite
  split
  · exact hr.merge hf.texts
  · unfold Archive.patchRow
    dsimp only
    split
    · exact hr
    · exact Fields.restored_plain _

/-- The row is written with the fields, or was equal to that before. -/
lemma overwrite_cases (hr : row.Plain) (hf : fields.Plain) :
    (∀ k, (s.overwrite row fields).find? k = ((fields.find? k).or (row.find? k)).map s.brings) ∨
      s.overwrite row fields = row ∧
        (Value.object (row.merge fields)).agrees (.object row) = true := by
  have hm : (row.merge fields).Plain := hr.merge hf.texts
  rcases hb : s.backend with tables | ⟨phase, archive⟩
  · simp only [overwrite, brings, hb, Option.map_id, id]
    exact Or.inl (Fields.find?_merge row hf.nodup)
  · simp only [overwrite, brings, hb, Archive.patchRow]
    split
    · rename_i h
      exact Or.inr ⟨rfl, h⟩
    · exact Or.inl fun k => by rw [hm.find?_restored, Fields.find?_merge row hf.nodup]

lemma overwrite_of_keep (hk : s.keep row = row) (hf : fields.Plain) :
    (∀ l, (s.overwrite row fields).find? l =
        ((fields.find? l).map s.brings).or (row.find? l)) ∨
      s.overwrite row fields = row ∧
        (Value.object (row.merge fields)).agrees (.object row) = true := by
  rcases hb : s.backend with tables | ⟨phase, archive⟩
  · simp only [overwrite, brings, hb, Option.map_id, id]
    exact Or.inl (Fields.find?_merge row hf.nodup)
  · have hr : row.Plain := by
      rw [← hk]
      simp only [keep, hb]
      exact Fields.restored_plain row
    refine (overwrite_cases hr hf).imp_left fun ho l => ?_
    have hrow : (row.find? l).map s.brings = row.find? l := by rw [← find?_keep hr, hk]
    rw [ho]
    rcases fields.find? l with _ | w
    · rw [Option.none_or, hrow]
      rfl
    · rfl

lemma find?_overwrite_text {t : String} (hr : row.Plain) (hf : fields.Plain)
    (h : fields.find? k = some (.text t)) :
    (s.overwrite row fields).find? k = some (.text t) := by
  rcases overwrite_cases (s := s) hr hf with ho | ⟨ho, ha⟩
  · rw [ho, h]
    exact congrArg some (brings_of_isJson (Value.isJson_text t))
  · have hv : (row.merge fields).find? k = some (.text t) := by
      rw [Fields.find?_merge row hf.nodup, h]; rfl
    obtain ⟨w, hw, hs⟩ := Value.agrees_find? ha hv
    rw [ho, hw]
    rw [show Value.isSameNoNumber (.text t) w = false from rfl, Bool.false_or] at hs
    rw [Value.text_agrees.mp hs]

lemma find?_overwrite_kept (hr : row.Plain) (hf : fields.Plain) (h : fields.find? k = none)
    (hv : ∀ v, row.find? k = some v → s.brings v = v) :
    (s.overwrite row fields).find? k = row.find? k := by
  rcases overwrite_cases (s := s) hr hf with ho | ⟨ho, -⟩
  · rw [ho, h, Option.none_or]
    rcases hk : row.find? k with _ | v
    · rfl
    · exact congrArg some (hv v hk)
  · rw [ho]

lemma find?_overwrite_other (hr : row.Plain) (hf : fields.Plain) (h : fields.find? k = none)
    (hv : ∀ v, row.find? k = some v → v.IsJson) :
    (s.overwrite row fields).find? k = row.find? k :=
  find?_overwrite_kept hr hf h fun v hk => brings_of_isJson (hv v hk)

lemma find?_overwrite (hr : row.Plain) (hf : fields.Plain) (h : fields.find? k = some v)
    (hd : ∀ w, row.find? k = some w → (Value.isSameNoNumber v w || v.agrees w) = false)
    (l : Key) :
    (s.overwrite row fields).find? l = ((fields.find? l).or (row.find? l)).map s.brings := by
  rcases overwrite_cases (s := s) hr hf with ho | ⟨-, ha⟩
  · exact ho l
  · have hv : (row.merge fields).find? k = some v := by
      rw [Fields.find?_merge row hf.nodup, h]; rfl
    obtain ⟨w, hw, hs⟩ := Value.agrees_find? ha hv
    rw [hd w hw] at hs
    cases hs

end Store

end CrmAutomation

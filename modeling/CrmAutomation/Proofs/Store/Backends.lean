import CrmAutomation.Proofs.Node.Effect

/-!
Tables in memory and documents in a database under the same requests.

Both kinds of store keep the rows of a table in the order of their insertion, and select them in the
same way. They come apart only where an update changes a row, but not into one that is unequal to
it: in memory the row is replaced, and in a database it stays as it was written.
-/

namespace CrmAutomation

open Record Calendar

namespace Value

variable {fs gs : Fields}

lemma fields_of_isJson (h : (object fs).IsJson) : fs.Plain ∧ ∀ p ∈ fs, p.2.IsJson := by
  have hr : fs.restored = fs := by injection h
  have hplain : fs.Plain := hr ▸ Fields.restored_plain fs
  rw [hplain.restored_eq] at hr
  refine ⟨hplain, fun p hp => ?_⟩
  have hsame := List.map_inj_left.mp (hr.trans (List.map_id fs).symm) p hp
  exact congrArg Prod.snd hsame

lemma isJson_merge (hf : (object fs).IsJson) (hg : (object gs).IsJson) :
    (object (fs.merge gs)).IsJson := by
  obtain ⟨hfp, hfv⟩ := fields_of_isJson hf
  obtain ⟨hgp, hgv⟩ := fields_of_isJson hg
  refine isJson_object (hfp.merge hgp.texts) fun p hp => ?_
  rcases Fields.mem_of_mem_merge hp with hp | hp
  · exact hfv p hp
  · exact hgv p hp

lemma isJson_insertNew (hf : (object fs).IsJson) (s t : String) :
    (object (fs.insertNew s (.text t))).IsJson := by
  obtain ⟨hfp, hfv⟩ := fields_of_isJson hf
  refine isJson_object (hfp.insertNew s _) fun p hp => ?_
  unfold Fields.insertNew at hp
  split at hp
  · exact hfv p hp
  · rcases Fields.mem_insert hp with rfl | hp
    · rfl
    · exact hfv p hp

end Value

namespace Store

/-- A request to a store; rows are added at a time. -/
inductive Request where
  | insert (t : Instant) (table : String) (row : Row)
  | update (table : String) (fields : Fields) (fs : List Filter)
  | select (table : String) (q : Tables.Query)

/-- What a store answers. -/
inductive Answer where
  | inserted (row : Row)
  | updated (count : ℕ)
  | selected (rows : List Row)
  deriving DecidableEq

namespace Request

/-- What comes of a request. -/
def perform (s : Store) : Request → Outcome Answer
  | .insert t table row => ((s.insert t table row).1.map .inserted, (s.insert t table row).2)
  | .update table fields fs =>
    ((s.update table fields fs).1.map .updated, (s.update table fields fs).2)
  | .select table q => ((s.select table q).1.map .selected, (s.select table q).2)

/-- What is written came from JSON; a row that is added has a text for an id, or leaves it to the
store. -/
def IsJson : Request → Prop
  | .insert _ _ row =>
    (Value.object row).IsJson ∧ (row.find? "id" = none ∨ ∃ id, row.find? "id" = some (.text id))
  | .update _ fields _ => (Value.object fields).IsJson
  | .select _ _ => True

/-- The request changes a row into another one that is equal to it. -/
def Hides (s : Store) : Request → Prop
  | .update table fields fs => ∃ row ∈ s.rows table, matchesAll fs row = true ∧
      row.merge fields ≠ row ∧ (Value.object (row.merge fields)).agrees (.object row) = true
  | .insert .. | .select .. => False

end Request

/-- What requests come to, one after the other, and the store after each. -/
def answers : List Request → Store → List (Except Refusal Answer × Store)
  | [], _ => []
  | r :: rs, s => r.perform s :: answers rs (r.perform s).2

/-- No request changes a row into another one that is equal to it. -/
def NeverHides : List Request → Store → Prop
  | [], _ => True
  | r :: rs, s => ¬r.Hides s ∧ NeverHides rs (r.perform s).2

instance : (r : Request) → (s : Store) → Decidable (r.Hides s)
  | .update table fields fs, s =>
    inferInstanceAs (Decidable (∃ row ∈ s.rows table, matchesAll fs row = true ∧
      row.merge fields ≠ row ∧ (Value.object (row.merge fields)).agrees (.object row) = true))
  | .insert .., _ | .select .., _ => instDecidableFalse

instance decidableNeverHides : (rs : List Request) → (s : Store) → Decidable (NeverHides rs s)
  | [], _ => instDecidableTrue
  | r :: rs, s => @instDecidableAnd _ _ _ (decidableNeverHides rs (r.perform s).2)

/-- A store in memory. -/
def inMemory (tables : Tables) (drawn : ℕ) : Store := { backend := .memory tables, drawn }

/-- A database that was started. -/
def inDatabase (archive : Archive) (drawn : ℕ) : Store :=
  { backend := .database .started archive, drawn }

/-- Tables and documents hold the same rows, all of which came from JSON. -/
structure Agree (tables : Tables) (archive : Archive) : Prop where
  rows : ∀ table, archive.rows table = tables.rows table
  json : ∀ table, ∀ row ∈ tables.rows table, (Value.object row).IsJson

variable {tables : Tables} {archive : Archive} {drawn : ℕ} {r : Request} {rs : List Request}
  {t : Instant} {table : String} {row fields : Fields} {fs : List Filter} {q : Tables.Query}

/-! ### One request -/

lemma usable_of_isJson (hr : (Request.insert t table row).IsJson) (id : String) :
    Archive.keyKind ((complete id t row).get "id") = .usable := by
  obtain ⟨-, hid⟩ := hr
  unfold complete
  rw [Fields.get, Fields.find?_insertNew, if_neg (by decide), Fields.find?_insertNew, if_pos rfl]
  rcases hid with hid | ⟨given, hid⟩
  · rw [hid]
    rfl
  · rw [hid]
    rfl

lemma isJson_complete (hr : (Value.object row).IsJson) (id : String) (t : Instant) :
    (Value.object (complete id t row)).IsJson :=
  Value.isJson_insertNew (Value.isJson_insertNew hr "id" id) "created_at" _

lemma restored_of_isJson (hr : (Value.object row).IsJson) : row.restored = row := by injection hr

/-- In a database a row is replaced by the one that it is changed into, unless that is hidden. -/
lemma patchRow_eq_iff (hr : (Value.object row).IsJson) (hf : (Value.object fields).IsJson) :
    Archive.patchRow row fields = row.merge fields ↔
      ¬(row.merge fields ≠ row ∧
        (Value.object (row.merge fields)).agrees (.object row) = true) := by
  unfold Archive.patchRow
  dsimp only
  split
  · rename_i ha
    simp [ha, eq_comm]
  · rename_i ha
    simp [ha, restored_of_isJson (Value.isJson_merge hr hf)]

lemma Agree.forall_patch_iff (h : Agree tables archive) :
    (∀ other, (archive.patch table fields fs).rows other =
        (tables.patch table fields fs).rows other) ↔
      ∀ row ∈ tables.rows table, matchesAll fs row = true →
        Archive.patchRow row fields = row.merge fields := by
  constructor
  · intro hrows row hrow hm
    have htable := hrows table
    rw [Archive.rows_patch, Tables.rows_patch, if_pos rfl, if_pos rfl, h.rows] at htable
    have hpatch := List.map_inj_left.mp htable row hrow
    rwa [if_pos hm, if_pos hm] at hpatch
  · intro hpatch other
    rw [Archive.rows_patch, Tables.rows_patch, h.rows, h.rows]
    split
    · refine List.map_congr_left fun row hrow => ?_
      split
      · exact hpatch row hrow ‹_›
      · rfl
    · rfl

lemma perform_agree (h : Agree tables archive) (hr : r.IsJson) (drawn : ℕ) :
    ∃ a tables' archive' drawn',
      r.perform (inMemory tables drawn) = (.ok a, inMemory tables' drawn') ∧
      r.perform (inDatabase archive drawn) = (.ok a, inDatabase archive' drawn') ∧
      (∀ table, ∀ row ∈ tables'.rows table, (Value.object row).IsJson) ∧
      ((∀ table, archive'.rows table = tables'.rows table) ↔
        ¬r.Hides (inMemory tables drawn)) := by
  cases r with
  | insert t table row =>
    let stored := complete (identifier (drawn + 1)) t row
    have hstored : (Value.object stored).IsJson := isJson_complete hr.1 _ t
    have hinsert : (inDatabase archive drawn).insert t table row =
        (.ok stored, inDatabase (archive.append table stored) (drawn + 1)) := by
      simp [insert, guarded, PlannedFault.strike, inDatabase, usable_of_isJson hr, stored]
    refine ⟨.inserted stored, tables.append table stored, archive.append table stored, drawn + 1,
      rfl, by simp only [Request.perform, hinsert]; rfl, fun other row hrow => ?_, ?_⟩
    · rw [Tables.rows_append] at hrow
      split at hrow
      · rcases List.mem_append.mp hrow with hrow | hrow
        · exact h.json table row hrow
        · rw [List.mem_singleton.mp hrow]
          exact hstored
      · exact h.json other row hrow
    · refine iff_of_true (fun other => ?_) fun hno => hno
      rw [Archive.rows_append, Tables.rows_append, restored_of_isJson hstored, h.rows, h.rows]
  | update table fields fs =>
    have hcount : archive.count table fs = tables.count table fs := by
      rw [Archive.count_eq, h.rows]
      rfl
    refine ⟨.updated (tables.count table fs), tables.patch table fields fs,
      archive.patch table fields fs, drawn, rfl, by rw [← hcount]; rfl,
      fun other row hrow => ?_, ?_⟩
    · rw [Tables.rows_patch] at hrow
      split at hrow
      · obtain ⟨old, hold, rfl⟩ := List.mem_map.mp hrow
        split
        · exact Value.isJson_merge (h.json table old hold) hr
        · exact h.json table old hold
      · exact h.json other row hrow
    · rw [h.forall_patch_iff]
      simp only [Request.Hides, not_exists, not_and]
      exact forall₃_congr fun row hrow _ => by
        rw [patchRow_eq_iff (h.json table row hrow) hr, not_and]
  | select table q =>
    have hselect : archive.select table q = tables.select table q := by
      unfold Archive.select Tables.select
      rw [h.rows]
    exact ⟨.selected (tables.select table q), tables, archive, drawn, rfl,
      by rw [← hselect]; rfl, h.json, iff_of_true h.rows fun hno => hno⟩

/-! ### Any number of requests -/

/-- **A store in memory and a database come to the same** on requests whose data are JSON: every
request yields the same, and leaves the same rows in the same order in every table, exactly if no
update changes a row into another one that is equal to it. -/
theorem answers_agree_iff (h : Agree tables archive) (hrs : ∀ r ∈ rs, r.IsJson) (drawn : ℕ) :
    List.Forall₂ (fun o o' => o.1 = o'.1 ∧ o.2.SameRows o'.2)
        (answers rs (inMemory tables drawn)) (answers rs (inDatabase archive drawn)) ↔
      NeverHides rs (inMemory tables drawn) := by
  induction rs generalizing tables archive drawn with
  | nil => exact iff_of_true .nil trivial
  | cons r rs ih =>
    obtain ⟨a, tables', archive', drawn', hm, hd, hjson, hrows⟩ :=
      perform_agree h (hrs r List.mem_cons_self) drawn
    rw [answers, answers, NeverHides, List.forall₂_cons, ← hrows, hm, hd]
    simp only [true_and]
    exact and_congr_right fun hsame =>
      ih ⟨hsame, hjson⟩ (fun r hr => hrs r (List.mem_cons_of_mem _ hr)) drawn'

/-- A number and a text are added; the number is changed, and the rows are selected in order. -/
def changing (x : Value) : List Request :=
  [.insert 1709294400000 "contacts" [("id", .text "a"), ("rank", .int 1)],
    .insert 1709294400000 "contacts" [("rank", .text "A")],
    .update "contacts" [("rank", x)] [⟨"id", .equals, .text "a"⟩],
    .select "contacts" { orderBy := some "rank" }]

/-- The number `2` can replace `1` in a database, but `true` cannot. -/
theorem answers_agree_iff_changing :
    (∀ x : Value, x.IsJson → ∀ r ∈ changing x, r.IsJson) ∧
    (List.Forall₂ (fun o o' => o.1 = o'.1 ∧ o.2.SameRows o'.2)
      (answers (changing (.int 2)) (inMemory [] 0))
      (answers (changing (.int 2)) (inDatabase [] 0))) ∧
    ¬List.Forall₂ (fun o o' => o.1 = o'.1 ∧ o.2.SameRows o'.2)
      (answers (changing (.bool true)) (inMemory [] 0))
      (answers (changing (.bool true)) (inDatabase [] 0)) := by
  have hempty : Agree [] [] := ⟨fun _ => rfl, fun _ _ h => nomatch h⟩
  have hjson : ∀ x : Value, x.IsJson → ∀ r ∈ changing x, r.IsJson := fun x hx r hr => by
    simp only [changing, List.mem_cons, List.not_mem_nil, or_false] at hr
    rcases hr with rfl | rfl | rfl | rfl
    · exact ⟨rfl, .inr ⟨_, rfl⟩⟩
    · exact ⟨rfl, .inl rfl⟩
    · exact Value.isJson_object (Fields.plain_nil.insert "rank" x) fun p hp =>
        List.mem_singleton.mp hp ▸ hx
    · trivial
  refine ⟨hjson, (answers_agree_iff hempty (hjson (.int 2) rfl) 0).mpr (by decide +kernel), ?_⟩
  exact fun hsame =>
    absurd ((answers_agree_iff hempty (hjson (.bool true) rfl) 0).mp hsame) (by decide +kernel)

end Store

end CrmAutomation

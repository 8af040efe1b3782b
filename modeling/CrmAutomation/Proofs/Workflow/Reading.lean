import CrmAutomation.Proofs.Schema.Reader
import CrmAutomation.Workflow.Definition
import Mathlib.Algebra.Group.Int.Defs

/-!
What it takes for a stored row to hold a definition.

Each column is read by itself, and one that is missing leaves its default; a row of which a column
cannot be read holds no definition, and neither does one that an event is to start but that names
none. An error policy that is a list or an object is different: it is refused before anything is
read, and what is wrong with the row is not reported.
-/

namespace CrmAutomation

open Schema Workflow

namespace Workflow

lemma TriggerType.ofName?_eq_some {s : String} {t : TriggerType} :
    TriggerType.ofName? s = some t ↔ s = t.name := by
  constructor
  · intro h
    unfold TriggerType.ofName? at h
    have hname := List.find?_some h
    exact (beq_iff_eq.mp hname).symm
  · rintro rfl
    cases t <;> rfl

lemma TriggerType.reader_eq_ok {v : Value} {t : TriggerType} :
    TriggerType.reader v = .ok t ↔ v = .text t.name := by
  unfold TriggerType.reader
  rw [Checked.bind_eq_ok]
  simp only [text_eq_ok]
  constructor
  · rintro ⟨s, rfl, h⟩
    split at h
    · rename_i t' ht
      cases h
      rw [TriggerType.ofName?_eq_some.mp ht]
    · cases h
  · rintro rfl
    refine ⟨t.name, rfl, ?_⟩
    rw [TriggerType.ofName?_eq_some.mpr rfl]

lemma TriggerType.name_eq_event {t : TriggerType} : t.name = "event" ↔ t = .event := by
  cases t <;> decide

lemma ErrorPolicy.ofName?_eq_some {s : String} {p : ErrorPolicy} :
    ErrorPolicy.ofName? s = some p ↔ s = p.name := by
  constructor
  · intro h
    unfold ErrorPolicy.ofName? at h
    have hname := List.find?_some h
    exact (beq_iff_eq.mp hname).symm
  · rintro rfl
    cases p <;> rfl

lemma ErrorPolicy.reader_eq_ok {v : Value} {p : ErrorPolicy} :
    ErrorPolicy.reader v = .ok p ↔ v = .null ∧ p = .stop ∨ v = .text p.name := by
  cases v with
  | null => simp [ErrorPolicy.reader, eq_comm]
  | text s =>
    have hs : ErrorPolicy.reader (.text s) = .ok p ↔ ErrorPolicy.ofName? s = some p := by
      unfold ErrorPolicy.reader
      dsimp only
      rcases ErrorPolicy.ofName? s with _ | q
      · simp [Checked.fail]
      · simp
    rw [hs, ErrorPolicy.ofName?_eq_some]
    simp
  | bool | int | float | list | object => simp [ErrorPolicy.reader, Checked.fail]

lemma TriggerConfig.namesEvent_iff {c : TriggerConfig} :
    c.namesEvent = true ↔ ∃ s, s ≠ "" ∧ c.event = some s := by
  unfold TriggerConfig.namesEvent
  rcases c.event with _ | s
  · simp
  · simp

lemma TriggerConfig.event_of_reader {v : Value} {c : TriggerConfig} {s : String}
    (h : Definition.emptyForNull TriggerConfig.reader v = .ok c) (hs : c.event = some s) :
    ∃ config, v = .object config ∧ Fields.get config "event" = .text s := by
  cases v with
  | object config =>
    have hread : TriggerConfig.ofFields config = .ok c := h
    simp only [TriggerConfig.ofFields, Checked.seq_eq_ok, Checked.map_eq_ok] at hread
    obtain ⟨_, conditions, ⟨event, hevent, rfl⟩, -, rfl⟩ := hread
    have hsome : event = some s := hs
    subst hsome
    obtain ⟨w, hw, htext⟩ := (Field.withDefault_eq_ok.mp hevent).exists_of_ne (by simp)
    refine ⟨config, rfl, ?_⟩
    rw [Fields.get, hw]
    exact optional_text_eq_some.mp htext
  | null =>
    rw [← Checked.ok.inj h] at hs
    cases hs
  | bool | int | float | text | list => cases h

end Workflow

namespace Definition

open Field

/-- The columns give the parts of the definition. -/
structure GivenBy (d : Definition) (fs : Fields) : Prop where
  id : Fields.get fs "id" = .text d.id
  name : Gives fs "name" text "" d.name
  description : Gives fs "description" (optional text) none d.description
  type : fs.find? "trigger_type" = none ∧ d.triggerType = .event ∨
    fs.find? "trigger_type" = some (.text d.triggerType.name)
  config : Gives fs "trigger_config" (emptyForNull TriggerConfig.reader) {} d.triggerConfig
  flow : Gives fs "flow_definition" (emptyForNull Flow.reader) {} d.flow
  active : Gives fs "is_active" boolean true d.isActive
  policy : Fields.get fs "error_handling" = .null ∧ d.errorHandling = .stop ∨
    Fields.get fs "error_handling" = .text d.errorHandling.name
  retries : fs.find? "max_retries" = none ∧ d.maxRetries = 3 ∨
    ∃ v, fs.find? "max_retries" = some v ∧ integer v = .ok (d.maxRetries : ℤ)
  tags : Gives fs "tags" (list text) [] d.tags

/-- The row holds the definition: its columns give it, and it names the event if one is to start
it. -/
structure HeldBy (d : Definition) (row : Row) : Prop extends d.GivenBy row where
  event : d.triggerType = .event → ∃ s, s ≠ "" ∧ d.triggerConfig.event = some s

variable {row : Row} {d : Definition} {fs : Fields}

/-! ### Columns -/

lemma find?_columns (row : Row) {k : Key} (hk : columns.contains k = true) :
    Fields.find? (row.filter fun p => columns.contains p.1) k = row.find? k := by
  rw [Fields.find?_filter_keys columns.contains, if_pos hk]

lemma withDefault_columns {α : Type} {name : String} {a : α} {r : Reader α}
    (hk : columns.contains (.text name) = true) :
    withDefault ⟨name, none⟩ a r (row.filter fun p => columns.contains p.1) =
      withDefault ⟨name, none⟩ a r row := by
  rw [withDefault_eq, withDefault_eq, find?_columns row hk]

lemma required_columns {α : Type} {name : String} {r : Reader α}
    (hk : columns.contains (.text name) = true) :
    Field.required ⟨name, none⟩ r (row.filter fun p => columns.contains p.1) =
      Field.required ⟨name, none⟩ r row := by
  rw [required_eq, required_eq, find?_columns row hk]

lemma ofColumns_columns (row : Row) :
    ofColumns (row.filter fun p => columns.contains p.1) = ofColumns row := by
  unfold ofColumns
  simp (disch := decide) only [withDefault_columns, required_columns]

lemma gives_type {t : TriggerType} : Gives fs "trigger_type" TriggerType.reader .event t ↔
    fs.find? "trigger_type" = none ∧ t = .event ∨
      fs.find? "trigger_type" = some (.text t.name) := by
  unfold Gives
  rcases fs.find? "trigger_type" with _ | v
  · simp
  · simp [TriggerType.reader_eq_ok]

lemma gives_policy {p : ErrorPolicy} : Gives fs "error_handling" ErrorPolicy.reader .stop p ↔
    Fields.get fs "error_handling" = .null ∧ p = .stop ∨
      Fields.get fs "error_handling" = .text p.name := by
  unfold Gives Fields.get
  rcases fs.find? "error_handling" with _ | v
  · simp
  · exact ErrorPolicy.reader_eq_ok

lemma atLeast_eq_ok {bound : ℕ} {r : Reader ℤ} {v : Value} {n : ℤ} :
    atLeast bound r v = .ok n ↔ r v = .ok n ∧ (bound : ℤ) ≤ n := by
  unfold atLeast
  rw [Checked.bind_eq_ok]
  constructor
  · rintro ⟨m, hm, h⟩
    split at h
    · cases h
    · cases h
      exact ⟨hm, by omega⟩
  · rintro ⟨hn, hle⟩
    exact ⟨n, hn, if_neg (by omega)⟩

lemma gives_retries {m : ℕ} :
    (∃ n, Gives fs "max_retries" (atLeast 0 integer) 3 n ∧ n.toNat = m) ↔
      fs.find? "max_retries" = none ∧ m = 3 ∨
        ∃ v, fs.find? "max_retries" = some v ∧ integer v = .ok (m : ℤ) := by
  unfold Gives
  rcases fs.find? "max_retries" with _ | v
  · simp [eq_comm]
  · simp only [reduceCtorEq, false_and, false_or, Option.some.injEq, atLeast_eq_ok]
    constructor
    · rintro ⟨n, ⟨hread, hle⟩, rfl⟩
      exact ⟨v, rfl, by rw [hread, Int.toNat_of_nonneg hle]⟩
    · rintro ⟨w, rfl, hread⟩
      exact ⟨m, ⟨hread, by omega⟩, Int.toNat_natCast m⟩

/-! ### Definitions -/

lemma ofColumns_eq_ok : ofColumns fs = .ok d ↔ d.GivenBy fs := by
  unfold ofColumns
  constructor
  · intro h
    simp only [Checked.seq_eq_ok, Checked.map_eq_ok] at h
    obtain ⟨_, tags, ⟨_, retries, ⟨_, policy, ⟨_, active, ⟨_, flow, ⟨_, config, ⟨_, type,
      ⟨_, description, ⟨_, name, ⟨id, hid, rfl⟩, hname, rfl⟩, hdescription, rfl⟩, htype, rfl⟩,
      hconfig, rfl⟩, hflow, rfl⟩, hactive, rfl⟩, hpolicy, rfl⟩, hretries, rfl⟩, htags, rfl⟩ := h
    rw [withDefault_eq_ok] at hname hdescription htype hconfig hflow hactive hpolicy htags
    obtain ⟨v, hv, ht⟩ := required_eq_ok.mp hid
    obtain ⟨n, hn, hm⟩ := Checked.map_eq_ok.mp hretries
    refine ⟨?_, hname, hdescription, gives_type.mp htype, hconfig, hflow, hactive,
      gives_policy.mp hpolicy, gives_retries.mp ⟨n, withDefault_eq_ok.mp hn, hm⟩, htags⟩
    rw [Fields.get, hv]
    exact text_eq_ok.mp ht
  · intro h
    have hid : Field.required ⟨"id", none⟩ text fs = .ok d.id := by
      refine required_eq_ok.mpr ?_
      have hget := h.id
      rw [Fields.get] at hget
      rcases hf : fs.find? "id" with _ | v
      · rw [hf] at hget
        cases hget
      · rw [hf] at hget
        exact ⟨v, rfl, text_eq_ok.mpr hget⟩
    have hretries : (withDefault ⟨"max_retries", none⟩ 3 (atLeast 0 integer) fs).map
        Int.toNat = .ok d.maxRetries := by
      obtain ⟨n, hn, hm⟩ := gives_retries.mpr h.retries
      exact Checked.map_eq_ok.mpr ⟨n, withDefault_eq_ok.mpr hn, hm⟩
    rw [hid, withDefault_eq_ok.mpr h.name, withDefault_eq_ok.mpr h.description,
      withDefault_eq_ok.mpr (gives_type.mpr h.type), withDefault_eq_ok.mpr h.config,
      withDefault_eq_ok.mpr h.flow, withDefault_eq_ok.mpr h.active,
      withDefault_eq_ok.mpr (gives_policy.mpr h.policy), hretries, withDefault_eq_ok.mpr h.tags]
    rfl

lemma checkEvent_eq_ok {d' : Definition} : checkEvent d' = .ok d ↔
    d' = d ∧ (d.triggerType = .event → ∃ s, s ≠ "" ∧ d.triggerConfig.event = some s) := by
  unfold checkEvent
  rw [← TriggerConfig.namesEvent_iff]
  constructor
  · intro h
    split at h
    · cases h
    · rename_i hne
      cases h
      refine ⟨rfl, fun ht => ?_⟩
      simpa [ht] using hne
  · rintro ⟨rfl, hevent⟩
    refine if_neg fun hne => ?_
    rw [Bool.and_eq_true, decide_eq_true_eq, Bool.not_eq_true'] at hne
    rw [hevent hne.1] at hne
    cases hne.2

lemma checked_eq_ok : (ofColumns row).bind checkEvent = .ok d ↔ d.HeldBy row := by
  rw [Checked.bind_eq_ok]
  constructor
  · rintro ⟨d', hread, hcheck⟩
    obtain ⟨rfl, hevent⟩ := checkEvent_eq_ok.mp hcheck
    exact ⟨ofColumns_eq_ok.mp hread, hevent⟩
  · intro h
    exact ⟨d, ofColumns_eq_ok.mpr h.toGivenBy, checkEvent_eq_ok.mpr ⟨rfl, h.event⟩⟩

/-! ### Rows -/

lemma policyIsNoName_columns (row : Row) :
    policyIsNoName (row.filter fun p => columns.contains p.1) = policyIsNoName row := by
  unfold policyIsNoName Fields.get
  rw [find?_columns row (by decide)]

lemma policyIsNoName_iff : policyIsNoName fs = true ↔
    (∃ vs, Fields.get fs "error_handling" = .list vs) ∨
      ∃ fields, Fields.get fs "error_handling" = .object fields := by
  unfold policyIsNoName
  rcases Fields.get fs "error_handling" with _ | _ | _ | _ | _ | _ | _ <;> simp

lemma HeldBy.policyIsNoName_eq (h : d.HeldBy row) : policyIsNoName row = false := by
  unfold policyIsNoName
  rcases h.policy with ⟨hp, -⟩ | hp
  · rw [hp]
  · rw [hp]

lemma ofRow_error_iff : (∃ fault, ofRow row = .error fault) ↔ policyIsNoName row = true := by
  unfold ofRow ofFields
  rw [policyIsNoName_columns]
  split
  · rename_i h
    exact ⟨fun _ => h, fun _ => ⟨_, rfl⟩⟩
  · rename_i h
    exact ⟨fun ⟨_, hf⟩ => (by cases hf), fun h' => absurd h' h⟩

lemma ofRow_of_policy (h : policyIsNoName row = false) :
    ofRow row = .ok (match (ofColumns row).bind checkEvent with
      | .ok d => .ok d
      | .refused is => .error ⟨row.get "id", is.first.complaint⟩) := by
  unfold ofRow ofFields
  rw [policyIsNoName_columns, h, ofColumns_columns]
  rfl

lemma ofRow_eq_ok : ofRow row = .ok (.ok d) ↔ d.HeldBy row := by
  rcases hp : policyIsNoName row with _ | _
  · rw [ofRow_of_policy hp, ← checked_eq_ok]
    rcases (ofColumns row).bind checkEvent with d' | is
    · simp
    · simp
  · obtain ⟨fault, hf⟩ := ofRow_error_iff.mpr hp
    constructor
    · intro h
      rw [hf] at h
      cases h
    · intro h
      rw [h.policyIsNoName_eq] at hp
      cases hp

lemma ofRow_invalid {invalid : Invalid} (h : ofRow row = .ok (.error invalid)) :
    invalid.id = row.get "id" := by
  rcases hp : policyIsNoName row with _ | _
  · rw [ofRow_of_policy hp] at h
    rcases hread : (ofColumns row).bind checkEvent with d | is
    · rw [hread] at h
      cases h
    · rw [hread] at h
      cases h
      rfl
  · obtain ⟨fault, hf⟩ := ofRow_error_iff.mpr hp
    rw [hf] at h
    cases h

/-- **What comes of a stored row**: an error policy that is a list or an object is refused without
a report. Otherwise the row is read as the definition that it holds, whose trigger and policy are
known and which names its event; if it holds none, it is reported under its id. -/
theorem ofRow_outcome (row : Row) :
    ((∃ fault, ofRow row = .error fault) ↔
      (∃ vs, row.get "error_handling" = .list vs) ∨
        ∃ fields, row.get "error_handling" = .object fields) ∧
    (∀ d : Definition, ofRow row = .ok (.ok d) ↔ d.HeldBy row) ∧
    (∀ d, ofRow row = .ok (.ok d) →
      d.triggerType.name ∈ ["event", "schedule", "webhook", "manual"] ∧
      d.errorHandling.name ∈ ["stop", "continue", "retry"] ∧ 0 ≤ d.maxRetries ∧
      (d.triggerType.name = "event" → ∃ s, s ≠ "" ∧ d.triggerConfig.event = some s)) ∧
    ((∃ invalid, ofRow row = .ok (.error invalid) ∧ invalid.id = row.get "id") ↔
      (∀ vs, row.get "error_handling" ≠ .list vs) ∧
        (∀ fields, row.get "error_handling" ≠ .object fields) ∧
          ∀ d : Definition, ¬d.HeldBy row) := by
  refine ⟨ofRow_error_iff.trans policyIsNoName_iff, fun d => ofRow_eq_ok, fun d hd => ?_, ?_⟩
  · refine ⟨?_, ?_, Nat.zero_le _, fun ht => ?_⟩
    · cases d.triggerType <;> decide
    · cases d.errorHandling <;> decide
    · exact (ofRow_eq_ok.mp hd).event (TriggerType.name_eq_event.mp ht)
  · constructor
    · rintro ⟨invalid, hinvalid, -⟩
      have hpolicy : ¬policyIsNoName row = true := by
        rw [← ofRow_error_iff]
        rintro ⟨fault, hf⟩
        rw [hinvalid] at hf
        cases hf
      rw [policyIsNoName_iff, not_or] at hpolicy
      refine ⟨fun vs hvs => hpolicy.1 ⟨vs, hvs⟩, fun fields hf => hpolicy.2 ⟨fields, hf⟩, ?_⟩
      intro d hd
      rw [ofRow_eq_ok.mpr hd] at hinvalid
      cases hinvalid
    · rintro ⟨hlist, hobject, hnone⟩
      rcases hrow : ofRow row with fault | invalid | d
      · rcases policyIsNoName_iff.mp (ofRow_error_iff.mp ⟨fault, hrow⟩) with ⟨vs, h⟩ | ⟨fields, h⟩
        · exact absurd h (hlist vs)
        · exact absurd h (hobject fields)
      · exact ⟨invalid, rfl, ofRow_invalid hrow⟩
      · exact absurd (ofRow_eq_ok.mp hrow) (hnone d)

/-- A row of a workflow that is started by hand. -/
def manualRow (policy : Value) : Row :=
  [("id", .text "wf"), ("trigger_type", .text "manual"), ("error_handling", policy)]

/-- The same policy is known as a text, refused without a report in a list, and reported under a
name that nobody knows. -/
theorem ofRow_outcome_manual :
    (∃ fault, ofRow (manualRow (.list [.text "stop"])) = .error fault) ∧
      ofRow (manualRow (.text "stop")) = .ok (.ok { id := "wf", triggerType := .manual }) ∧
      ∃ invalid, ofRow (manualRow (.text "explode")) = .ok (.error invalid) ∧
        invalid.id = .text "wf" := by
  refine ⟨(ofRow_outcome _).1.mpr (Or.inl ⟨_, rfl⟩), ?_, ?_⟩
  · refine ((ofRow_outcome _).2.1 _).mpr ⟨?_, fun h => (by cases h)⟩
    exact ⟨rfl, rfl, rfl, Or.inr rfl, rfl, rfl, rfl, Or.inr rfl, Or.inl ⟨rfl, rfl⟩, rfl⟩
  · refine (ofRow_outcome _).2.2.2.mpr ⟨fun vs h => (by cases h), fun fields h => (by cases h), ?_⟩
    intro d hd
    rcases hd.policy with ⟨h, -⟩ | h
    · cases h
    · have hname : "explode" = d.errorHandling.name := Value.text.inj h
      cases hcase : d.errorHandling with
      | stop | proceed | retry =>
        rw [hcase] at hname
        exact absurd hname (by decide)

end Definition

end CrmAutomation

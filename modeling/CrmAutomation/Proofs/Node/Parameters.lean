import CrmAutomation.Node.Params
import CrmAutomation.Proofs.Schema.Reader
import Mathlib.Control.Basic

/-!
The records of parameters, as tables of their fields.

Whatever the kind, the record holds for each field what is read of it, and what is wrong with one
field is reported along with the rest. A null counts as absent under either name of a field with a
default, so it hides no value that is given under the other name.
-/

namespace CrmAutomation.Node

open Schema

/-- A field of a record: what stands for it where it is missing, and what is read of a value. -/
structure Slot extends Field where
  default : Value
  reader : Reader Value

namespace Slot

/-- The slot of a field whose data are written as values. -/
def of {α : Type} (f : Field) (d : α) (r : Reader α) (write : α → Value) : Slot :=
  { toField := f, default := write d, reader := fun v => write <$> r v }

/-- What the slot holds. -/
def read (s : Slot) (fs : Fields) : Checked Value := s.toField.withDefault s.default s.reader fs

lemma read_of {α : Type} (f : Field) (d : α) (r : Reader α) (write : α → Value) (fs : Fields) :
    (of f d r write).read fs = write <$> f.withDefault d r fs := by
  unfold read of Field.withDefault
  dsimp only
  rcases f.key? fs with _ | k
  · rfl
  · dsimp only
    cases r (fs.get k) <;> rfl

end Slot

def FetchFilter.contents (f : FetchFilter) : Value :=
  .object [("field", .text f.field), ("operator", .text f.relation.name), ("value", f.value)]

/-- The slots of a kind's record. -/
def slots : NodeKind → List Slot
  | .trigger => [.of (plain "label") none (optional text) Value.ofText?]
  | .sendEmail => [
      .of (plain "to") "" nullableText .text, .of (plain "subject") "" nullableText .text,
      .of (aliased "body" "message") "" nullableText .text]
  | .createTask => [
      .of (plain "title") "" nullableText .text, .of (plain "description") "" nullableText .text,
      .of (plain "priority") "medium" text .text,
      .of (aliased "due_offset_days" "dueOffsetDays") 1 integer .int,
      .of (aliased "assigned_to" "assignedTo") none (optional text) Value.ofText?]
  | .notification => [
      .of (plain "title") "" nullableText .text, .of (plain "message") "" nullableText .text,
      .of (aliased "notification_type" "notificationType") "info" text .text]
  | .condition => [
      .of (plain "field") (.text "") anything fun v => v,
      .of (plain "operator") "equals" text .text,
      .of (plain "value") .null anything fun v => v]
  | .delay => [
      .of (aliased "delay_value" "delayValue") (.int 1) anything fun v => v,
      .of (aliased "delay_unit" "delayUnit") "minutes" text .text]
  | .loop => [
      .of (aliased "array_source" "arraySource") "" text .text,
      .of (aliased "item_variable" "itemVariable") "item" text .text]
  | .fetchData => [
      .of (plain "table") "" nullableText .text,
      .of (plain "filters") [] (list fetchFilter) fun fs => .list (fs.map (·.contents))]
  | .updateStatus => [
      .of (plain "table") "" nullableText .text, .of (plain "field") "" nullableText .text,
      .of (plain "value") .null anything fun v => v]

/-- What a record holds, slot by slot. -/
def Params.contents : Params → Fields
  | .trigger p => [("label", Value.ofText? p.label)]
  | .sendEmail p =>
    [("to", .text p.recipient), ("subject", .text p.subject), ("body", .text p.body)]
  | .createTask p => [
      ("title", .text p.title), ("description", .text p.description),
      ("priority", .text p.priority), ("due_offset_days", .int p.dueOffsetDays),
      ("assigned_to", Value.ofText? p.assignedTo)]
  | .notification p => [
      ("title", .text p.title), ("message", .text p.message),
      ("notification_type", .text p.notificationType)]
  | .condition p => [("field", p.field), ("operator", .text p.operator), ("value", p.value)]
  | .delay p => [("delay_value", p.amount), ("delay_unit", .text p.unit)]
  | .loop p => [("array_source", .text p.source), ("item_variable", .text p.itemVariable)]
  | .fetchData p => [("table", .text p.table), ("filters", .list (p.filters.map (·.contents)))]
  | .updateStatus p => [("table", .text p.table), ("field", .text p.field), ("value", p.value)]

/-- What the slots of a record hold. -/
def gather : List Slot → Fields → Checked Fields
  | [], _ => pure []
  | s :: ss, fs => (fun v held => (Key.text s.name, v) :: held) <$> s.read fs <*> gather ss fs

variable {kind : NodeKind} {fs gs held given : Fields} {ss : List Slot} {s : Slot} {k l : String}
  {v : Value}

/-! ### Tables -/

lemma contents_readKind (kind : NodeKind) (fs : Fields) :
    Params.contents <$> readKind kind fs = gather (slots kind) fs := by
  -- both sides apply a function to the fields one after the other
  cases kind <;>
    simp only [readKind, readTrigger, readEmail, readTask, readNotification, readCondition,
      readDelay, readLoop, readFetch, readStatus, slots, gather, Slot.read_of, Checked.map_eq,
      seq_pure, functor_norm] <;>
    rfl

lemma readKind_congr (h : ∀ s ∈ slots kind, ∀ k ∈ s.keys, fs.find? k = gs.find? k) :
    readKind kind fs = readKind kind gs := by
  have hfield {α : Type} : ∀ s ∈ slots kind, ∀ (d : α) (r : Reader α),
      s.toField.withDefault d r fs = s.toField.withDefault d r gs :=
    fun s hs => Field.withDefault_congr (h s hs)
  cases kind <;>
    simp only [slots, Slot.of, List.forall_mem_cons] at hfield <;>
    simp only [readKind, readTrigger, readEmail, readTask, readNotification, readCondition,
      readDelay, readLoop, readFetch, readStatus, hfield]

lemma names_slots (kind : NodeKind) : ((slots kind).map (·.name)).Nodup := by
  cases kind <;> decide

lemma paramFields_eq (kind : NodeKind) :
    paramFields kind = (slots kind).map fun s => ⟨s.toField, s.default ≠ .null⟩ := by
  cases kind <;> rfl

/-- Nulls count as absent under the names of the fields that have a default other than null. -/
lemma mem_defaultingKeys {k : Key} :
    k ∈ defaultingKeys kind ↔ ∃ s ∈ slots kind, s.default ≠ .null ∧ k ∈ s.keys := by
  simp [defaultingKeys, paramFields_eq, Field.keys, List.mem_flatMap, List.mem_filter, and_assoc]

lemma keys_ne_type : ∀ s ∈ slots kind, ∀ k ∈ s.keys, k ≠ "type" := by
  cases kind <;> decide

lemma issues_gather (ss : List Slot) (fs : Fields) :
    (gather ss fs).issues = ss.flatMap fun s => (s.read fs).issues := by
  induction ss with
  | nil => rfl
  | cons s ss ih => simp [gather, ih]

lemma find?_gather (hnames : (ss.map (·.name)).Nodup) (h : gather ss fs = .ok held) (hs : s ∈ ss) :
    ∃ v, s.read fs = .ok v ∧ held.find? s.name = some v := by
  induction ss generalizing held with
  | nil => cases hs
  | cons t ss ih =>
    rw [List.map_cons, List.nodup_cons] at hnames
    obtain ⟨_, rest, hfirst, hrest, rfl⟩ := Checked.seq_eq_ok.mp h
    obtain ⟨w, hw, rfl⟩ := Checked.map_eq_ok.mp hfirst
    rcases List.mem_cons.mp hs with rfl | hs
    · exact ⟨w, hw, by rw [Fields.find?_cons, if_pos (beq_self_eq_true _)]⟩
    · obtain ⟨v, hv, hfind⟩ := ih hnames.2 hrest hs
      refine ⟨v, hv, ?_⟩
      have hne : ¬(Key.text t.name == Key.text s.name) = true := by
        intro heq
        have hname : t.name = s.name := Key.text.inj (beq_iff_eq.mp heq)
        exact hnames.1 (hname ▸ List.mem_map_of_mem hs)
      rw [Fields.find?_cons, if_neg hne, hfind]

/-! ### Parameters -/

/-- The parameters of which the record is read. -/
def effective (kind : NodeKind) (given : Fields) : Fields :=
  dropNulls kind (given.without "type")

lemma readParams_eq (kind : NodeKind) (given : Fields) :
    readParams kind given = ((readKind kind (effective kind given)).map fun p =>
      ⟨p, extras ((paramFields kind).map (·.toField)) (effective kind given)⟩).within kind.name :=
  rfl

lemma issues_readParams (kind : NodeKind) (given : Fields) :
    (readParams kind given).issues =
      (gather (slots kind) (effective kind given)).issues.map (·.within kind.name) := by
  rw [← contents_readKind, readParams_eq, Checked.issues_within, Checked.map_eq,
    Checked.issues_map, Checked.issues_map]

lemma contents_of_readParams {known : KnownParams} (h : readParams kind given = .ok known) :
    gather (slots kind) (effective kind given) = .ok known.params.contents := by
  rw [readParams_eq, Checked.within_eq_ok] at h
  obtain ⟨p, hp, rfl⟩ := Checked.map_eq_ok.mp h
  rw [← contents_readKind, hp]
  rfl

lemma validateParams_name (kind : NodeKind) (given : Fields) :
    validateParams (.text kind.name) (.object given) =
      .ok ((readParams kind given).map .known) := by
  unfold validateParams
  rw [Value.orElse_object]
  dsimp only
  rw [NodeKind.ofName?_name]

lemma find?_effective (hgiven : (given.map (·.1)).Nodup) {k : Key} (hk : k ≠ "type") :
    (effective kind given).find? k =
      (given.find? k).filter fun v => !((defaultingKeys kind).contains k && v = .null) := by
  have hwithout : ((given.without "type").map (·.1)).Nodup :=
    hgiven.sublist (List.filter_sublist.map _)
  unfold effective dropNulls
  rw [Fields.find?_filter _ hwithout, Fields.find?_without, if_neg hk]

lemma effective_filter {ks : List Key} (hks : ∀ k ∈ ks, k ∈ defaultingKeys kind)
    (hnull : ∀ p ∈ given, p.1 ∈ ks → p.2 = .null) :
    effective kind (given.filter fun p => !ks.contains p.1) = effective kind given := by
  unfold effective dropNulls Fields.without
  simp only [List.filter_filter]
  refine List.filter_congr fun p hp => ?_
  by_cases hp' : p.1 ∈ ks
  · simp [hks _ hp', hnull p hp hp']
  · simp [hp']

lemma read_of_null (hgiven : (given.map (·.1)).Nodup) (hs : s ∈ slots kind)
    (hdefault : s.default ≠ .null)
    (hkeys : s.keys = [.text k, .text l] ∨ s.keys = [.text l, .text k])
    (hv : given.find? k = some v) (hne : v ≠ .null) (hnull : given.find? l = some .null) :
    s.read (effective kind given) = (s.reader v).within k := by
  have hmem : Key.text k ∈ s.keys ∧ Key.text l ∈ s.keys := by
    rcases hkeys with h | h
    · simp [h]
    · simp [h]
  have hk : (effective kind given).find? k = some v := by
    rw [find?_effective hgiven (keys_ne_type s hs _ hmem.1), hv]
    simp [Option.filter, hne]
  have hl : (effective kind given).find? l = none := by
    have hdrop : Key.text l ∈ defaultingKeys kind :=
      mem_defaultingKeys.mpr ⟨s, hs, hdefault, hmem.2⟩
    rw [find?_effective hgiven (keys_ne_type s hs _ hmem.2), hnull]
    simp [Option.filter, hdrop]
  have hkey : s.key? (effective kind given) = some k := by
    obtain ⟨⟨name, other⟩, d, r⟩ := s
    rcases other with _ | other
    · simp [Field.keys] at hkeys
    · simp only [Field.keys, Option.toList_some, List.map_cons, List.map_nil, List.cons.injEq,
        Key.text.injEq, and_true] at hkeys
      rcases hkeys with ⟨rfl, rfl⟩ | ⟨rfl, rfl⟩
      · simp [Field.key?, Fields.has_eq_isSome, hk, hl]
      · simp [Field.key?, Fields.has_eq_isSome, hk]
  unfold Slot.read Field.withDefault
  rw [hkey]
  dsimp only
  rw [Fields.get, hk]
  rfl

/-- **Nulls and defaults**: under the names of the fields that have a default, nulls may be left out
without a change to what is read or reported. Where such a field has a null under one of its two
names, the value under the other is read, whatever is wrong with it is reported there, and the
record holds what was read. -/
theorem validateParams_nulls (kind : NodeKind) (given : Fields)
    (hgiven : (given.map (·.1)).Nodup) :
    (∀ ks : List Key,
      (∀ k ∈ ks, (∃ s ∈ slots kind, s.default ≠ .null ∧ k ∈ s.keys) ∧
        ∀ v, given.find? k = some v → v = .null) →
      validateParams (.text kind.name) (.object (given.filter fun p => !ks.contains p.1)) =
        validateParams (.text kind.name) (.object given)) ∧
    ∀ s ∈ slots kind, s.default ≠ .null → ∀ (k l : String) (v : Value),
      s.keys = [.text k, .text l] ∨ s.keys = [.text l, .text k] →
      given.find? k = some v → v ≠ .null → given.find? l = some .null →
      ∃ read, validateParams (.text kind.name) (.object given) = .ok read ∧
        (∀ i ∈ (s.reader v).issues, (i.within k).within kind.name ∈ read.issues) ∧
        ∀ known, read = .ok (.known known) →
          ∃ c, s.reader v = .ok c ∧ known.params.contents.find? s.name = some c := by
  refine ⟨fun ks hks => ?_, fun s hs hdefault k l v hkeys hv hne hnull => ?_⟩
  · have heffective : effective kind (given.filter fun p => !ks.contains p.1) =
        effective kind given := by
      refine effective_filter (fun k hk => mem_defaultingKeys.mpr (hks k hk).1) fun p hp hk => ?_
      exact (hks p.1 hk).2 p.2 (Fields.find?_of_mem hgiven hp)
    rw [validateParams_name, validateParams_name, readParams_eq, readParams_eq, heffective]
  · have hread := read_of_null hgiven hs hdefault hkeys hv hne hnull
    refine ⟨_, validateParams_name kind given, fun i hi => ?_, fun known hknown => ?_⟩
    · have hissues : ((readParams kind given).map ReadParams.known).issues =
          (readParams kind given).issues := Checked.issues_map _ _
      have hslot : i.within k ∈ (s.read (effective kind given)).issues := by
        rw [hread, Checked.issues_within]
        exact List.mem_map_of_mem hi
      rw [hissues, issues_readParams, issues_gather]
      exact List.mem_map_of_mem (List.mem_flatMap.mpr ⟨s, hs, hslot⟩)
    · obtain ⟨known', hparams, heq⟩ := Checked.map_eq_ok.mp hknown
      cases heq
      obtain ⟨c, hc, hfind⟩ := find?_gather (names_slots kind) (contents_of_readParams hparams) hs
      rw [hread] at hc
      exact ⟨c, Checked.within_eq_ok.mp hc, hfind⟩

/-- A mail without a subject, whose body is given under one of its names and is null under the
other. -/
def halfNamed : Fields := [("subject", .null), ("message", .null), ("body", .text "hello")]

theorem validateParams_nulls_halfNamed :
    validateParams (.text "send_email") (.object [("body", .text "hello")]) =
        validateParams (.text "send_email") (.object halfNamed) ∧
      ∃ known, validateParams (.text "send_email") (.object halfNamed) = .ok (.ok (.known known)) ∧
        known.params.contents.find? "body" = some (.text "hello") := by
  obtain ⟨hdrop, hused⟩ := validateParams_nulls .sendEmail halfNamed (by decide)
  constructor
  · refine hdrop ["subject", "message"] ?_
    rw [List.forall_mem_cons, List.forall_mem_singleton]
    refine ⟨⟨⟨.of (plain "subject") "" nullableText .text, ?_⟩, ?_⟩,
      ⟨.of (aliased "body" "message") "" nullableText .text, ?_⟩, ?_⟩
    · exact ⟨by simp [slots], by simp [Slot.of], by decide⟩
    · exact fun v hv => (Option.some.inj hv).symm
    · exact ⟨by simp [slots], by simp [Slot.of], by decide⟩
    · exact fun v hv => (Option.some.inj hv).symm
  · obtain ⟨read, hread, -, hknown⟩ := hused (.of (aliased "body" "message") "" nullableText .text)
      (by simp [slots]) (by simp [Slot.of]) "body" "message" (.text "hello") (Or.inl rfl) rfl
      (by simp) rfl
    have hok : validateParams (.text "send_email") (.object halfNamed) =
        .ok (.ok (.known ⟨.sendEmail ⟨"", "", "hello"⟩, []⟩)) := by decide +kernel
    have hsame : read = .ok (.known ⟨.sendEmail ⟨"", "", "hello"⟩, []⟩) :=
      Except.ok.inj (hread.symm.trans hok)
    obtain ⟨c, hc, hfind⟩ := hknown _ hsame
    exact ⟨_, hok, hfind.trans (congrArg some (Checked.ok.inj hc).symm)⟩

end CrmAutomation.Node

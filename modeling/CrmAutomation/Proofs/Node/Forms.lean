import CrmAutomation.Proofs.Node.Outcome
import CrmAutomation.Proofs.Node.Parameters

/-!
The forms in which a node may be authored.

A generic action keeps the name of the kind and the configuration among its parameters. No kind
reads anything under these two keys, so the node is executed like one that names its kind itself,
by its name or by an alias.
-/

namespace CrmAutomation

open EngineM Schema

namespace NodeKind

/-- The name is that of the kind, or an alias of it. -/
def CalledBy (kind : NodeKind) (name : String) : Prop := name = kind.name ∨ (name, kind) ∈ aliases

variable {kind : NodeKind} {name : String}

lemma calledBy_name (kind : NodeKind) : kind.CalledBy kind.name := Or.inl rfl

lemma CalledBy.canonicalName_eq (h : kind.CalledBy name) : canonicalName name = kind.name := by
  rcases h with rfl | h
  · cases kind <;> decide
  · simp only [aliases, List.mem_cons, Prod.mk.injEq, List.not_mem_nil, or_false] at h
    rcases h with ⟨rfl, rfl⟩ | ⟨rfl, rfl⟩ | ⟨rfl, rfl⟩ <;> decide

lemma CalledBy.ne_special (h : kind.CalledBy name) : name ≠ "" ∧ name ≠ Node.actionType := by
  rcases h with rfl | h
  · cases kind <;> decide
  · simp only [aliases, List.mem_cons, Prod.mk.injEq, List.not_mem_nil, or_false] at h
    rcases h with ⟨rfl, rfl⟩ | ⟨rfl, rfl⟩ | ⟨rfl, rfl⟩ <;> decide

end NodeKind

namespace Node

/-- The node as one that names its kind itself. -/
def named (node : Node) (name : String) (data : Fields) : Node :=
  { node with type := some name, data := data }

/-- The data of a generic action. -/
def actionData (name : String) (config : Fields) : Fields :=
  [("actionType", .text name), ("config", .object config)]

/-- The node as a generic action. -/
def acting (node : Node) (name : String) (config : Fields) : Node :=
  node.named actionType (actionData name config)

variable {kind : NodeKind} {name : String} {given given' config : Fields} {node node' : Node}

/-! ### Forms -/

lemma form_named (h : kind.CalledBy name) (node : Node) (data : Fields) :
    (node.named name data).form = .ok (.text kind.name, data) := by
  obtain ⟨hnonempty, haction⟩ := h.ne_special
  have hne : ¬Value.text name = .text actionType := by simpa using haction
  unfold form normalizeFields named Value.ofText?
  dsimp only
  rw [Value.orElse_text hnonempty, if_neg hne, canonical, h.canonicalName_eq]
  rfl

lemma form_acting (h : kind.CalledBy name) (node : Node) (config : Fields) :
    (node.acting name config).form =
      .ok (.text kind.name, (actionData name config).merge config) := by
  have hparams : actionParams (actionData name config) =
      .ok ((actionData name config).merge config) := by
    unfold actionParams
    rw [show (actionData name config).get "config" = .object config from rfl,
      Value.orElse_object]
  have hkind : actionKind (actionData name config) = .text name := by
    unfold actionKind
    rw [show (actionData name config).get "actionType" = .text name from rfl,
      Value.orElse_text h.ne_special.1]
  have hform : (node.acting name config).form = (do
      let params ← actionParams (actionData name config)
      let kind ← canonical (actionKind (actionData name config))
      .ok (kind, params)) := rfl
  rw [hform, hparams, hkind, canonical, h.canonicalName_eq]
  rfl

/-! ### Parameters -/

lemma keys_ne_action : ∀ s ∈ slots kind, ∀ k ∈ s.keys, k ≠ "actionType" ∧ k ≠ "config" := by
  cases kind <;> decide

lemma params_acting (kind : NodeKind) (name : String) (hconfig : (config.map (·.1)).Nodup) :
    (readParams kind ((actionData name config).merge config)).map (·.params) =
      (readParams kind config).map (·.params) := by
  have hmerge : (((actionData name config).merge config).map (·.1)).Nodup :=
    Fields.nodup_merge (by simp [actionData]) config
  have hread : readKind kind (effective kind ((actionData name config).merge config)) =
      readKind kind (effective kind config) := by
    refine readKind_congr fun s hs k hk => ?_
    have htype := keys_ne_type s hs k hk
    obtain ⟨hname, hown⟩ := keys_ne_action s hs k hk
    have hbase : (actionData name config).find? k = none := by
      simp [actionData, Fields.find?_cons, Ne.symm hname, Ne.symm hown]
    rw [find?_effective hmerge htype, find?_effective hconfig htype, Fields.find?_merge _ hconfig,
      hbase, Option.or_none]
  simp only [readParams_eq, Checked.map_eq, Checked.map_within, Functor.map_map, hread]

/-! ### Execution -/

lemma work_congr (h : node.id = node'.id) (flow : Flow) (scope : Scope) (p : Params) :
    work node flow scope p = work node' flow scope p := by
  cases p with
  | condition p => simp only [work, h]
  | _ => rfl

lemma executeKind_congr (hid : node.id = node'.id)
    (h : (readParams kind given).map (·.params) = (readParams kind given').map (·.params))
    (flow : Flow) (scope : Scope) :
    executeKind node flow scope kind given = executeKind node' flow scope kind given' := by
  unfold executeKind
  rcases hr : readParams kind given with known | issues
  · rcases hr' : readParams kind given' with known' | issues'
    · rw [hr, hr'] at h
      have hparams : known.params = known'.params := Checked.ok.inj h
      dsimp only
      rw [hparams, work_congr hid]
    · rw [hr, hr'] at h
      cases h
  · rcases hr' : readParams kind given' with known' | issues'
    · rw [hr, hr'] at h
      cases h
    · rw [hr, hr'] at h
      cases h
      rfl

/-- **The forms of a node**: a generic action that names a kind and holds a configuration does what
a node named for the kind does with the configuration as its data, under an alias of the kind or
under its name: it comes to the same result and leaves the same behind. -/
theorem execute_forms (hname : kind.CalledBy name) (hconfig : (config.map (·.1)).Nodup)
    (node : Node) (flow : Flow) (scope : Scope) (e : Engine) :
    ((node.acting name config).execute flow scope).perform e =
        ((node.named kind.name config).execute flow scope).perform e ∧
      ((node.named name config).execute flow scope).perform e =
        ((node.named kind.name config).execute flow scope).perform e := by
  have hkind : kindOf (.text kind.name) = some kind := NodeKind.ofName?_name kind
  have hcanonical := form_named kind.calledBy_name node config
  constructor
  · rw [execute_of_form (form_acting hname node config) hkind, execute_of_form hcanonical hkind]
    exact congrArg (EngineM.perform · e)
      (executeKind_congr rfl (params_acting kind name hconfig) flow scope)
  · rw [execute_of_form (form_named hname node config) hkind, execute_of_form hcanonical hkind]
    exact congrArg (EngineM.perform · e) (executeKind_congr rfl rfl flow scope)

/-- A configuration with a key that an action's data have as well. -/
def mailConfig : Fields :=
  [("to", .text "ann"), ("message", .text "hello"), ("config", .text "own")]

/-- A mail by the alias of its kind, as an action and as a node of its own. -/
theorem execute_forms_email :
    ((acting { id := "m" } "email" mailConfig).execute {} { execution := "x" }).perform {} =
        ((named { id := "m" } NodeKind.sendEmail.name mailConfig).execute {}
          { execution := "x" }).perform {} ∧
      ((named { id := "m" } "email" mailConfig).execute {} { execution := "x" }).perform {} =
        ((named { id := "m" } NodeKind.sendEmail.name mailConfig).execute {}
          { execution := "x" }).perform {} := by
  have hname : NodeKind.sendEmail.CalledBy "email" := Or.inr (by decide)
  exact execute_forms hname (by decide) { id := "m" } {} { execution := "x" } {}

end Node

end CrmAutomation

import CrmAutomation.Node.Kind
import CrmAutomation.Schema.Reader

/-!
Flows: nodes, and directed edges between them that may carry the port they leave from.

Node ids need not be distinct and edges may lead to nodes that are not there.
-/

namespace CrmAutomation

open Numeric Schema

/-- One unit of work. -/
structure Node where
  id : String
  type : Option String := none
  data : Fields := []
  position : Option (List (String × Binary64)) := none
  extra : Fields := []
  deriving DecidableEq, Repr

/-- A connection from one node to another. -/
structure Edge where
  id : Option String := none
  source : String
  target : String
  port : Option String := none
  extra : Fields := []
  deriving DecidableEq, Repr

structure Flow where
  nodes : List Node := []
  edges : List Edge := []
  deriving DecidableEq, Repr

namespace Node

def isTrigger (n : Node) : Bool := n.type == some NodeKind.trigger.name

/-- The type as it is reported. -/
def typeName (n : Node) : String :=
  match n.type with
  | some t => if t.isEmpty then unknownType else t
  | none => unknownType

def fields : List Field := [⟨"id", none⟩, ⟨"type", none⟩, ⟨"data", none⟩, ⟨"position", none⟩]

/-- An object, empty for null. -/
def dataReader : Reader Fields
  | .null => .ok []
  | v => object v

def ofFields (fs : Fields) : Checked Node :=
  (fun id type data position => ⟨id, type, data, position, extras fields fs⟩)
    <$> Field.required ⟨"id", none⟩ text fs
    <*> Field.withDefault ⟨"type", none⟩ none (optional text) fs
    <*> Field.withDefault ⟨"data", none⟩ [] dataReader fs
    <*> Field.withDefault ⟨"position", none⟩ none (optional (dictionary number)) fs

def reader : Reader Node := record "WorkflowNode" ofFields

end Node

namespace Edge

def portField : Field := ⟨"source_handle", some "sourceHandle"⟩

def fields : List Field := [⟨"id", none⟩, ⟨"source", none⟩, ⟨"target", none⟩, portField]

def ofFields (fs : Fields) : Checked Edge :=
  (fun id source target port => ⟨id, source, target, port, extras fields fs⟩)
    <$> Field.withDefault ⟨"id", none⟩ none (optional text) fs
    <*> Field.required ⟨"source", none⟩ text fs
    <*> Field.required ⟨"target", none⟩ text fs
    <*> portField.withDefault none (optional text) fs

def reader : Reader Edge := record "WorkflowEdge" ofFields

end Edge

namespace Flow

def ofFields (fs : Fields) : Checked Flow :=
  (fun nodes edges => ⟨nodes, edges⟩)
    <$> Field.withDefault ⟨"nodes", none⟩ [] (list Node.reader) fs
    <*> Field.withDefault ⟨"edges", none⟩ [] (list Edge.reader) fs

def reader : Reader Flow := record "FlowDefinition" ofFields

/-- The first node with an id. -/
def node? (f : Flow) (id : String) : Option Node := f.nodes.find? (·.id == id)

/-- The edges that leave a node. -/
def outgoing (f : Flow) (id : String) : List Edge := f.edges.filter (·.source == id)

/-- The nodes with an id among those given, in the order of the flow. -/
def nodesWithIds (f : Flow) (ids : List String) : List Node :=
  f.nodes.filter fun n => ids.contains n.id

/-- Where a run starts: at all triggers, or else at the first node. -/
def starts (f : Flow) : List Node :=
  let triggers := f.nodes.filter (·.isTrigger)
  if triggers.isEmpty then f.nodes.take 1 else triggers

/-- The nodes to run after one: those it chose, or without a choice the targets of its edges. -/
def successors (f : Flow) (id : String) (chosen : Option (List String)) : List Node :=
  f.nodesWithIds (chosen.getD ((f.outgoing id).map (·.target)))

/-- The target of the first edge that leaves a node from a port. -/
def targetAt? (f : Flow) (id port : String) : Option String :=
  ((f.outgoing id).find? (·.port == some port)).map (·.target)

@[simp] theorem mem_nodesWithIds {f : Flow} {ids : List String} {n : Node} :
    n ∈ f.nodesWithIds ids ↔ n ∈ f.nodes ∧ n.id ∈ ids := by
  simp [nodesWithIds]

theorem mem_outgoing {f : Flow} {id : String} {edge : Edge} :
    edge ∈ f.outgoing id ↔ edge ∈ f.edges ∧ edge.source = id := by
  simp [outgoing]

theorem targetAt?_eq_some_iff {f : Flow} {id port target : String} :
    f.targetAt? id port = some target ↔
      ∃ before edge after, f.outgoing id = before ++ edge :: after ∧
        (∀ other ∈ before, other.port ≠ some port) ∧ edge.port = some port ∧
        edge.target = target := by
  unfold targetAt?
  rw [Option.map_eq_some_iff]
  constructor
  · rintro ⟨edge, hfind, htarget⟩
    obtain ⟨hport, before, after, hedges, hbefore⟩ := List.find?_eq_some_iff_append.mp hfind
    exact ⟨before, edge, after, hedges, by simpa using hbefore, by simpa using hport, htarget⟩
  · rintro ⟨before, edge, after, hedges, hbefore, hport, htarget⟩
    refine ⟨edge, List.find?_eq_some_iff_append.mpr ⟨?_, before, after, hedges, ?_⟩, htarget⟩
    · simpa using hport
    · simpa using hbefore

/-- The edge that a target is the target of. -/
theorem exists_of_targetAt? {f : Flow} {id port target : String}
    (h : f.targetAt? id port = some target) :
    ∃ edge ∈ f.outgoing id, edge.port = some port ∧ edge.target = target := by
  obtain ⟨before, edge, after, hedges, -, hport, htarget⟩ := targetAt?_eq_some_iff.mp h
  exact ⟨edge, by simp [hedges], hport, htarget⟩

end Flow

end CrmAutomation

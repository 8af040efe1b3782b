import CrmAutomation.Proofs.Template.Expansion

/-!
Texts that are put together from literals and tokens.

Literals and paths are free of braces, so that the pieces of the text are those that it was put
together from, and its expansion is put together from theirs. Whatever keeps a value from having a
text keeps the whole from having one.
-/

namespace CrmAutomation.Template

/-- There is no brace among the characters. -/
def Bare (cs : List Char) : Prop := ∀ c ∈ cs, c ≠ '\x7b' ∧ c ≠ '\x7d'

/-- A part of an authored text. -/
inductive Segment where
  | literal (text : List Char) (bare : Bare text)
  | token (path : List Char) (notEmpty : path ≠ []) (bare : Bare path)

namespace Segment

/-- The segment as it stands in the text. -/
def source : Segment → List Char
  | literal text _ => text
  | token path _ _ => written path

def path? : Segment → Option (List Char)
  | literal _ _ => none
  | token path _ _ => some path

def pieces : Segment → List Piece
  | literal text _ => text.map .char
  | token path _ _ => [.token path]

/-- The segment with the text of its path's value in place of the token; without a value it
stays. -/
def filled (read : List Char → Value) : Segment → Except Fault (List Char)
  | literal text _ => .ok text
  | token path _ _ => replacement path (read path)

end Segment

/-- The texts one after the other. -/
def joined (texts : Except Fault (List (List Char))) : Except Fault String :=
  texts.map fun parts => String.ofList parts.flatten

/-- The text of all segments. -/
def textOf (segments : List Segment) : String := String.ofList (segments.flatMap Segment.source)

variable {scope : Value} {read : List Char → Value} {segments : List Segment}
  {text path rest : List Char} {ps : List Piece} {s : Segment}

lemma Bare.isPath (h : Bare path) (hne : path ≠ []) : IsPath path :=
  ⟨hne, fun hmem => (h _ hmem).2 rfl⟩

lemma scans_literal (h : Bare text) (hs : Scans rest ps) :
    Scans (text ++ rest) (text.map .char ++ ps) := by
  induction text with
  | nil => exact hs
  | cons c text ih =>
    have hbare := List.forall_mem_cons.mp h
    refine .char (fun path rest' _ heq => ?_) (ih hbare.2)
    rw [written_append] at heq
    exact hbare.1.1 (List.cons.inj heq).1

lemma scans_segments (segments : List Segment) :
    Scans (segments.flatMap Segment.source) (segments.flatMap Segment.pieces) := by
  induction segments with
  | nil => exact .done
  | cons s segments ih =>
    rw [List.flatMap_cons, List.flatMap_cons]
    cases s with
    | literal text hbare => exact scans_literal hbare ih
    | token path hne hbare => exact .token (hbare.isPath hne) ih

lemma expandAll_chars (scope : Value) (text : List Char) :
    expandAll scope (text.map .char) = .ok text := by
  induction text with
  | nil => rfl
  | cons c text ih => exact expandAll_cons_ok_iff.mpr ⟨[c], text, rfl, ih, rfl⟩

lemma expandAll_token (scope : Value) (path : List Char) :
    expandAll scope [.token path] = (Piece.token path).expand scope := by
  rw [expandAll_cons]
  rcases (Piece.token path).expand scope with fault | cs
  · rfl
  · exact congrArg Except.ok (List.append_nil cs)

lemma expandAll_segment (h : ∀ path ∈ s.path?, scope.lookupChars path = .ok (read path)) :
    expandAll scope s.pieces = s.filled read := by
  cases s with
  | literal text _ => exact expandAll_chars scope text
  | token path _ _ => exact (expandAll_token scope path).trans (expand_of_ok (h path rfl))

lemma expandAll_segments
    (h : ∀ s ∈ segments, ∀ path ∈ s.path?, scope.lookupChars path = .ok (read path)) :
    expandAll scope (segments.flatMap Segment.pieces) =
      (segments.mapM (Segment.filled read)).map List.flatten := by
  induction segments with
  | nil => rfl
  | cons s segments ih =>
    rw [List.forall_mem_cons] at h
    rw [List.flatMap_cons, expandAll_append_eq, expandAll_segment h.1, ih h.2, List.mapM_cons]
    rcases s.filled read with fault | text
    · rfl
    · rcases segments.mapM (Segment.filled read) with fault | texts <;> rfl

lemma expand_segments
    (h : ∀ s ∈ segments, ∀ path ∈ s.path?, scope.lookupChars path = .ok (read path)) :
    expand scope (textOf segments) = joined (segments.mapM (Segment.filled read)) := by
  have hpieces : pieces (textOf segments).toList = segments.flatMap Segment.pieces := by
    rw [textOf, String.toList_ofList, pieces_of_scans (scans_segments segments)]
  unfold expand joined
  rw [hpieces, expandAll_segments h]
  rcases segments.mapM (Segment.filled read) with fault | texts <;> rfl

lemma joined_error_iff {α : Type} {f : α → Except Fault (List Char)} {xs : List α} :
    (∃ fault, joined (xs.mapM f) = .error fault) ↔ ∃ x ∈ xs, ∃ fault, f x = .error fault := by
  rw [joined, map_error_iff, mapM_error_iff]

lemma filled_error_iff :
    (∃ fault, s.filled read = .error fault) ↔ ∃ path ∈ s.path?, (read path).hasText = false := by
  cases s with
  | literal text _ => simp [Segment.filled, Segment.path?]
  | token path _ _ => simp [Segment.filled, Segment.path?, replacement_error_iff]

/-- **Segments expand one by one**: as long as the paths of the tokens can be read, the expanded
text is the text of the literals and of what was read, in order. There is none exactly if something
that was read has no text. What was read is not read again, be it a template itself. -/
theorem expand_textOf (scope : Value) (read : List Char → Value) (segments : List Segment)
    (h : ∀ s ∈ segments, ∀ path ∈ s.path?, scope.lookupChars path = .ok (read path)) :
    expand scope (textOf segments) = joined (segments.mapM (Segment.filled read)) ∧
      ((∃ fault, expand scope (textOf segments) = .error fault) ↔
        ∃ s ∈ segments, ∃ path ∈ s.path?, (read path).hasText = false) := by
  have hexpand := expand_segments h
  refine ⟨hexpand, ?_⟩
  rw [hexpand, joined_error_iff]
  simp only [filled_error_iff]

/-- A value that is a template of another. -/
def quoting : Value := .object [("p", .text "\x7b\x7bq\x7d\x7d"), ("q", .text "x")]

def quoted : List Segment := [
  .literal ['a'] (by simp [Bare]),
  .token ['p'] (by simp) (by simp [Bare]),
  .token [' ', 'q', ' '] (by simp) (by simp [Bare]),
  .token ['r'] (by simp) (by simp [Bare])]

/-- The template that is inserted stays a template, blanks around a path are passed over, and a
token without a value stays. -/
theorem expand_textOf_quoted :
    expand quoting (textOf quoted) = .ok "a\x7b\x7bq\x7d\x7dx\x7b\x7br\x7d\x7d" := by
  let read (path : List Char) : Value := (quoting.lookupChars path).toOption.getD .null
  have hread : ∀ s ∈ quoted, ∀ path ∈ s.path?, quoting.lookupChars path = .ok (read path) := by
    decide +kernel
  rw [(expand_textOf quoting read quoted hread).1]
  decide +kernel

end CrmAutomation.Template

import CrmAutomation.Proofs.Template.Segment
import CrmAutomation.Proofs.Text.Trim

/-!
Values of parameters.

A parameter that is one token, blanks aside, becomes the value at its path and keeps its kind, where
any other text is expanded. Both readings find the same token: they differ only in a value that is
there, and then only by its kind and the blanks around it.
-/

namespace CrmAutomation.Template

open Text CrmAutomation.Path

variable {scope v : Value} {s : String} {ps : List Piece} {lead text path trail cs : List Char}
  {fault : PathFault} {fault' : Fault}

/-! ### Texts that are one token -/

/-- The text is one token, blanks aside, and the path of the token leads to a value. -/
inductive Denotes (scope : Value) (s : String) (v : Value) : Prop
  | intro {path : List Char} :
      IsPath path → trimChars isBlank s.toList = written path → Leads scope (parts path) v →
        v ≠ .null → Denotes scope s v

/-- What a parameter resolves to, written as a template would insert it. -/
def resolvedText (scope : Value) (s : String) : Except Fault String :=
  (Value.resolve scope (.text s)).bind fun v => v.inserted.mapError .text

lemma Denotes.hasText (h : Denotes scope s v) (hscope : scope.hasText = true) :
    v.hasText = true := by
  obtain ⟨-, -, hl, -⟩ := h
  exact hasText_of_leads hl hscope

/-- What both readings make of a text. -/
structure Agree (scope : Value) (s : String) : Prop where
  text : (resolvedText scope s).map trim = (expand scope s).map trim
  fault : ∀ fault, Value.resolve scope (.text s) = .error fault → expand scope s = .error fault
  value : ∀ v, Value.resolve scope (.text s) = .ok v →
    (∃ t, expand scope s = .ok t ∧ v = .text t) ∨ Denotes scope s v

lemma Agree.fails (h : Agree scope s) (hscope : scope.hasText = true)
    (hx : expand scope s = .error fault') : Value.resolve scope (.text s) = .error fault' := by
  rcases hr : Value.resolve scope (.text s) with fault | v
  · rw [h.fault fault hr] at hx
    cases hx
    rfl
  · rcases h.value v hr with ⟨t, ht, -⟩ | hv
    · rw [ht] at hx
      cases hx
    · -- a value inside the scope has a text, and so does what is expanded
      have htext := h.text
      rw [resolvedText, hr, hx] at htext
      dsimp only [Except.bind] at htext
      rw [Value.inserted_of_hasText (hv.hasText hscope)] at htext
      cases htext

end CrmAutomation.Template

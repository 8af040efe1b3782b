import CrmAutomation.Proofs.Template.Expansion
import CrmAutomation.Proofs.Text.Trim

/-!
Paths one after the other.

Two paths that are joined by a point lead where the second leads from where the first leads. For
that, blanks may stand at the outer ends only: a path is trimmed as a whole, so that blanks beside
the point belong to a part, where either path alone is rid of them.
-/

namespace CrmAutomation

open Text

namespace Path

variable {v w : Value} {front rest : List (List Char)} {p q : List Char}

lemma leads_append_iff :
    Leads v (front ++ rest) w ↔ ∃ u, Leads v front u ∧ Leads u rest w := by
  induction front generalizing v with
  | nil =>
    constructor
    · exact fun h => ⟨v, .here, h⟩
    · rintro ⟨u, hhere, h⟩
      cases hhere
      exact h
  | cons part front ih =>
    constructor
    · rintro (_ | ⟨henter, hrest⟩)
      obtain ⟨u, hfront, h⟩ := ih.mp hrest
      exact ⟨u, .enter henter hfront, h⟩
    · rintro ⟨u, _ | ⟨henter, hfront⟩, h⟩
      exact .enter henter (ih.mpr ⟨u, hfront, h⟩)

lemma parts_joined (hp : p ≠ []) (hlast : ∀ c ∈ p.getLast?, isBlank c = false) (hq : q ≠ [])
    (hfirst : ∀ c ∈ q.head?, isBlank c = false) : parts (p ++ '.' :: q) = parts p ++ parts q := by
  unfold parts
  rw [trimChars_joined hp hlast hq hfirst, splitOn_append]

end Path

namespace Value

open CrmAutomation.Path Template

/-- **Paths compose.** If the first path does not end with a blank and the second does not begin
with one, the value at the joined path is the value at the second path in the value at the first,
null if that is null. Looking it up fails exactly if one of the two look-ups does, by the same
fault. It leads to a value exactly if the first path leads to one from which the second leads
there. -/
theorem lookup_joined (v : Value) {p q : String} (hp : p ≠ "") (hq : q ≠ "")
    (hlast : ∀ c ∈ p.toList.getLast?, isBlank c = false)
    (hfirst : ∀ c ∈ q.toList.head?, isBlank c = false) :
    (v.lookup p = .ok .null → v.lookup (p ++ "." ++ q) = .ok .null) ∧
      (∀ w, w ≠ .null → v.lookup p = .ok w → v.lookup (p ++ "." ++ q) = w.lookup q) ∧
      (∀ fault, v.lookup (p ++ "." ++ q) = .error fault ↔
        v.lookup p = .error fault ∨ ∃ w, v.lookup p = .ok w ∧ w.lookup q = .error fault) ∧
      ∀ x, x ≠ .null → (v.lookup (p ++ "." ++ q) = .ok x ↔
        ∃ w, Leads v (parts p.toList) w ∧ Leads w (parts q.toList) x) := by
  have hpne : p.toList ≠ [] := fun h => hp (String.toList_inj.mp h)
  have hqne : q.toList ≠ [] := fun h => hq (String.toList_inj.mp h)
  have hjoined : (p ++ "." ++ q).toList = p.toList ++ '.' :: q.toList := by simp
  have hfollow : v.lookup (p ++ "." ++ q) =
      follow v (parts p.toList ++ parts q.toList) := by
    rw [lookup, hjoined, lookupChars_eq (by simp), parts_joined hpne hlast hqne hfirst]
  have hbind : v.lookup (p ++ "." ++ q) = (v.lookup p).bind fun w => w.lookup q := by
    have hsecond (w : Value) : w.lookup q = follow w (parts q.toList) := lookupChars_eq hqne
    rw [hfollow, follow_append, lookup, lookupChars_eq hpne]
    simp only [hsecond]
  refine ⟨fun hnull => ?_, fun w _ hw => ?_, fun fault => ?_, fun x hx => ?_⟩
  · rw [hbind, hnull]
    exact (lookupChars_eq hqne).trans (follow_null _)
  · rw [hbind, hw]
    rfl
  · rw [hbind]
    cases v.lookup p with
    | error g => simp [Except.bind]
    | ok w => simp [Except.bind]
  · rw [hfollow, follow_eq_iff_leads hx, leads_append_iff]

/-- Items of which one has an entry under a key without characters. -/
def basket : Value := .object [("items", .list [.null, .object [("", .object [("n", .int 0)])]])]

/-- Blanks are at the outer ends, the second path starts with a part without characters, and the
value at its end counts as false. -/
theorem lookup_joined_basket :
    basket.lookup " items.1" = .ok (.object [("", .object [("n", .int 0)])]) ∧
      basket.lookup " items.1..n " = .ok (.int 0) := by
  have hitem : basket.lookup " items.1" = .ok (.object [("", .object [("n", .int 0)])]) := by
    decide +kernel
  have hlast : ∀ c ∈ " items.1".toList.getLast?, isBlank c = false := by
    rintro c ⟨⟩
    decide
  have hhead : ∀ c ∈ ".n ".toList.head?, isBlank c = false := by
    rintro c ⟨⟩
    decide
  obtain ⟨-, hvalue, -⟩ := lookup_joined basket (p := " items.1") (q := ".n ")
    (by decide) (by decide) hlast hhead
  refine ⟨hitem, ?_⟩
  have hjoined := hvalue _ (by decide +kernel) hitem
  exact hjoined.trans (by decide +kernel)

end Value

end CrmAutomation

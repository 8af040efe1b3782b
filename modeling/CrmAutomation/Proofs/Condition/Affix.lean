import CrmAutomation.Proofs.Condition.Variable
import CrmAutomation.Proofs.Text.Sigma

/-!
Parts of texts in conditions.

A text and what is looked for in it are lowered each by itself. A part of the text is found where it
stands exactly if it is lowered there as it is alone, that is, if no capital sigma in it is altered
by the rest of the text.
-/

namespace CrmAutomation

open Text

namespace Text

variable {needle cs before text after whole : List Char}

lemma occursIn_iff : occursIn needle cs = true ↔ needle <:+: cs := by
  induction cs with
  | nil => rw [occursIn, List.isEmpty_iff, List.infix_nil]
  | cons c cs ih =>
    rw [occursIn, Bool.or_eq_true, ih, List.isPrefixOf_iff_prefix, List.infix_cons_iff]

/-- The lower case of a text stands in that of the whole, after as many characters as the text
before it has in lower case. -/
def Stands (before text whole : List Char) : Prop :=
  ∃ lead trail, lowerFrom false whole = lead ++ (lowerFrom false text ++ trail) ∧
    lead.length = (lowerFrom false before).length

/-- The lower case of a text stands in that of the whole, but elsewhere. -/
def StandsAside (before text whole : List Char) : Prop :=
  ∃ lead trail, lowerFrom false whole = lead ++ (lowerFrom false text ++ trail) ∧
    lead.length ≠ (lowerFrom false before).length

/-! ### Where the part stands -/

lemma lowerFrom_between (before text after : List Char) :
    lowerFrom false (before ++ (text ++ after)) =
      lowerWithin false before (text ++ after) ++
        (lowerWithin (endsCased before) text after ++
          lowerFrom (casedThrough (endsCased before) text) after) := by
  rw [lowerFrom_append, lowerFrom_append]
  rfl

lemma length_within (cased : Bool) (text after : List Char) :
    (lowerWithin cased text after).length = (lowerFrom false text).length := by
  rw [← lowerWithin_nil, length_lowerWithin]

/-- **A part stands in its place** exactly if nothing around it alters it. -/
lemma stands_iff : Stands before text (before ++ (text ++ after)) ↔ ¬Altered before text after := by
  rw [← lowerWithin_eq_alone_iff, Stands, lowerFrom_between]
  constructor
  · rintro ⟨lead, trail, heq, hlead⟩
    have hplace : (lowerWithin false before (text ++ after)).length = lead.length := by
      rw [length_within, hlead]
    obtain ⟨-, hrest⟩ := List.append_inj heq hplace
    exact List.append_inj_left hrest (length_within _ _ _)
  · intro heq
    exact ⟨_, _, by rw [heq], length_within _ _ _⟩

lemma prefix_iff :
    lowerFrom false text <+: lowerFrom false (text ++ after) ↔ ¬Altered [] text after := by
  rw [← stands_iff, Stands, List.nil_append, lowerFrom_nil]
  constructor
  · rintro ⟨trail, heq⟩
    exact ⟨[], trail, heq.symm, rfl⟩
  · rintro ⟨lead, trail, heq, hlead⟩
    rw [List.length_eq_zero_iff.mp hlead, List.nil_append] at heq
    exact ⟨trail, heq.symm⟩

lemma suffix_iff :
    lowerFrom false text <:+ lowerFrom false (before ++ text) ↔ ¬Altered before text [] := by
  have hplace : ∀ lead trail,
      lowerFrom false (before ++ text) = lead ++ (lowerFrom false text ++ trail) →
        lead.length + trail.length = (lowerFrom false before).length := fun lead trail heq => by
    have htext : (lowerFrom (casedThrough false before) text).length =
        (lowerFrom false text).length := by
      rw [← lowerWithin_nil, length_within]
    have hlength := congrArg List.length heq
    rw [lowerFrom_append, List.length_append, length_within, htext] at hlength
    simp only [List.length_append] at hlength
    omega
  rw [← stands_iff, Stands, List.append_nil]
  constructor
  · rintro ⟨lead, heq⟩
    have hwhole : lowerFrom false (before ++ text) = lead ++ (lowerFrom false text ++ []) := by
      rw [List.append_nil, heq]
    exact ⟨lead, [], hwhole, hplace lead [] hwhole⟩
  · rintro ⟨lead, trail, heq, hlead⟩
    have htrail : trail = [] := List.length_eq_zero_iff.mp (by
      have hsum := hplace lead trail heq
      omega)
    rw [htrail, List.append_nil] at heq
    exact ⟨lead, heq.symm⟩

lemma infix_iff :
    lowerFrom false text <:+: lowerFrom false (before ++ (text ++ after)) ↔
      ¬Altered before text after ∨ StandsAside before text (before ++ (text ++ after)) := by
  rw [← stands_iff]
  constructor
  · rintro ⟨lead, trail, heq⟩
    rw [List.append_assoc] at heq
    by_cases hlead : lead.length = (lowerFrom false before).length
    · exact .inl ⟨lead, trail, heq.symm, hlead⟩
    · exact .inr ⟨lead, trail, heq.symm, hlead⟩
  · rintro (⟨lead, trail, heq, -⟩ | ⟨lead, trail, heq, -⟩)
    · exact ⟨lead, trail, by rw [heq, List.append_assoc]⟩
    · exact ⟨lead, trail, by rw [heq, List.append_assoc]⟩

end Text

namespace Condition

variable {scope : Value} {a : List Char} {p m s : String} {op : Operator}

lemma holds_text (ha : IsVariable a) {t u : String} (ht : scope.lookupChars a = .ok (.text t))
    (hopen : ¬Template.Opened t.toList) (hpart : u.toList <:+: t.toList) :
    (onVariable a op (.text u)).holds scope = op.holds (some t) u := by
  have hshown : shown? a (.text t) = some t :=
    shown?_of_not_opened (by simp [IsHollow]) (by simp) hopen
  have htarget : target scope (.text u) = .ok u :=
    target_of_not_opened (by simp) rfl fun hu => hopen (hu.of_infix hpart)
  rw [holds_onVariable ha ht rfl htarget, hshown]

/-- **Parts of a text are found**. A text starts with its first part, and ends in its last one,
exactly if the rest of the text alters no capital sigma there. It contains a part exactly if no
sigma is altered there or the lower case of the part stands somewhere else as well. So all parts of
a text without capital sigmas are found. -/
theorem parts_found (ha : IsVariable a)
    (ht : scope.lookupChars a = .ok (.text (p ++ (m ++ s))))
    (hopen : ¬Template.Opened (p ++ (m ++ s)).toList) :
    ((onVariable a .startsWith (.text p)).holds scope = true ↔
        ¬Altered [] p.toList (m ++ s).toList) ∧
      ((onVariable a .contains (.text m)).holds scope = true ↔
        ¬Altered p.toList m.toList s.toList ∨
          StandsAside p.toList m.toList (p ++ (m ++ s)).toList) ∧
      ((onVariable a .endsWith (.text s)).holds scope = true ↔
        ¬Altered (p ++ m).toList s.toList []) ∧
      ('Σ' ∉ (p ++ (m ++ s)).toList →
        (onVariable a .startsWith (.text p)).holds scope = true ∧
          (onVariable a .contains (.text m)).holds scope = true ∧
          (onVariable a .endsWith (.text s)).holds scope = true) := by
  have hparts : (p ++ (m ++ s)).toList = p.toList ++ (m.toList ++ s.toList) := by simp
  have hends : (p ++ (m ++ s)).toList = (p ++ m).toList ++ s.toList := by simp
  have hstart : (onVariable a .startsWith (.text p)).holds scope = true ↔
      ¬Altered [] p.toList (m ++ s).toList := by
    rw [holds_text ha ht hopen ⟨[], (m ++ s).toList, by simp⟩, Operator.holds, compareLowered,
      List.isPrefixOf_iff_prefix, Option.getD_some, String.toList_append, prefix_iff]
  have hmiddle : (onVariable a .contains (.text m)).holds scope = true ↔
      ¬Altered p.toList m.toList s.toList ∨
        StandsAside p.toList m.toList (p ++ (m ++ s)).toList := by
    rw [holds_text ha ht hopen ⟨p.toList, s.toList, by simp⟩, Operator.holds, compareLowered,
      occursIn_iff, Option.getD_some, hparts, infix_iff]
  have hend : (onVariable a .endsWith (.text s)).holds scope = true ↔
      ¬Altered (p ++ m).toList s.toList [] := by
    rw [holds_text ha ht hopen ⟨(p ++ m).toList, [], by simp⟩, Operator.holds, compareLowered,
      List.isSuffixOf_iff_suffix, Option.getD_some, hends, suffix_iff]
  refine ⟨hstart, hmiddle, hend, fun hsigma => ?_⟩
  simp only [hparts, List.mem_append, not_or] at hsigma
  exact ⟨hstart.mpr fun h => hsigma.1 h.mem, hmiddle.mpr (.inl fun h => hsigma.2.1 h.mem),
    hend.mpr fun h => hsigma.2.2 h.mem⟩

/-- A word with a sigma inside, and a name that is longer in lower case. -/
def lettered : Value := .object [("w", .text "ΑΣΑ"), ("c", .text "İSTANBUL")]

/-- The sigma ends the part, but not the word, and the word does not start with the part. The name
contains each of its parts. -/
theorem parts_found_lettered :
    (onVariable ['w'] .startsWith (.text "ΑΣ")).holds lettered = false ∧
      (onVariable ['w'] .endsWith (.text "Α")).holds lettered = true ∧
      (onVariable ['c'] .contains (.text "STAN")).holds lettered = true := by
  have hw : IsVariable ['w'] := isVariable_char (by decide) (by decide) (by decide)
  have hc : IsVariable ['c'] := isVariable_char (by decide) (by decide) (by decide)
  have hword : lettered.lookupChars ['w'] = .ok (.text ("ΑΣ" ++ ("" ++ "Α"))) := by decide +kernel
  have hname : lettered.lookupChars ['c'] = .ok (.text ("İ" ++ ("STAN" ++ "BUL"))) := by
    decide +kernel
  obtain ⟨hstart, -, hend, -⟩ := parts_found hw hword (by decide +kernel)
  obtain ⟨-, -, -, hall⟩ := parts_found hc hname (by decide +kernel)
  have haltered : Altered [] "ΑΣ".toList ("" ++ "Α").toList :=
    .continued (u := ['Α']) (v := []) (by decide +kernel) (by decide +kernel) (by simp [Passed])
      (by decide +kernel)
  have hkept : ¬Altered ("ΑΣ" ++ "").toList "Α".toList [] := fun h =>
    absurd h.mem (by decide +kernel)
  refine ⟨?_, hend.mpr hkept, (hall (by decide +kernel)).2.1⟩
  rw [Bool.eq_false_iff, Ne, hstart, not_not]
  exact haltered

end Condition

end CrmAutomation

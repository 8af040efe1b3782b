import CrmAutomation.Text.LowerCase
import Mathlib.Data.List.TakeWhile
import Mathlib.Tactic.Common

/-!
Lower case of a text within another.

A capital sigma is lowered by what stands around it, and nothing else is. So the lower case of a
text that stands between two others is that of the text alone, unless a sigma in it ends a word
alone and not there, or there and not alone.
-/

namespace CrmAutomation.Text

variable {c : Char} {cased cased' : Bool} {cs ds u v rest rest' before text after : List Char}

/-! ### One character after the other -/

/-- A character in lower case, `rest` being what follows it. -/
def lowered (cased : Bool) (c : Char) (rest : List Char) : List Char :=
  if c == 'Σ' then [if cased && !startsCased rest then 'ς' else 'σ']
  else if c == 'İ' then ['i', '\u0307']
  else [lowerChar c]

/-- Whether the last character that counts has case, after more characters. -/
def casedThrough (cased : Bool) (cs : List Char) : Bool := cs.foldl casedAfter cased

/-- A text in lower case, `rest` being what follows it. -/
def lowerWithin (cased : Bool) : List Char → List Char → List Char
  | [], _ => []
  | c :: cs, rest => lowered cased c (cs ++ rest) ++ lowerWithin (casedAfter cased c) cs rest

lemma lowerFrom_eq_append (cased : Bool) (c : Char) (cs : List Char) :
    lowerFrom cased (c :: cs) = lowered cased c cs ++ lowerFrom (casedAfter cased c) cs := by
  rw [lowerFrom, lowered]
  split_ifs <;> rfl

lemma lowerFrom_append (cased : Bool) (cs ds : List Char) :
    lowerFrom cased (cs ++ ds) =
      lowerWithin cased cs ds ++ lowerFrom (casedThrough cased cs) ds := by
  induction cs generalizing cased with
  | nil => rfl
  | cons c cs ih =>
    rw [List.cons_append, lowerFrom_eq_append, ih, lowerWithin, List.append_assoc]
    rfl

lemma lowerWithin_nil (cased : Bool) (cs : List Char) :
    lowerWithin cased cs [] = lowerFrom cased cs := by
  have happend := lowerFrom_append cased cs []
  rw [List.append_nil, lowerFrom_nil, List.append_nil] at happend
  exact happend.symm

lemma length_lowered (cased cased' : Bool) (c : Char) (rest rest' : List Char) :
    (lowered cased c rest).length = (lowered cased' c rest').length := by
  unfold lowered
  split_ifs <;> rfl

lemma length_lowerWithin (cased cased' : Bool) (cs rest rest' : List Char) :
    (lowerWithin cased cs rest).length = (lowerWithin cased' cs rest').length := by
  induction cs generalizing cased cased' with
  | nil => rfl
  | cons c cs ih =>
    rw [lowerWithin, lowerWithin, List.length_append, List.length_append, ih,
      length_lowered cased cased' c (cs ++ rest) (cs ++ rest')]

/-! ### Sigmas -/

/-- A sigma between two characters ends a word. -/
def endsWord (cased : Bool) (u rest : List Char) : Bool :=
  casedThrough cased u && !startsCased rest

lemma lowered_eq_iff :
    lowered cased c rest = lowered cased' c rest' ↔
      (c = 'Σ' → (cased && !startsCased rest) = (cased' && !startsCased rest')) := by
  unfold lowered
  by_cases hc : c = 'Σ'
  · subst hc
    generalize (cased && !startsCased rest) = ends
    generalize (cased' && !startsCased rest') = ends'
    cases ends <;> cases ends' <;> simp
  · simp [hc]

lemma lowerWithin_eq_iff :
    lowerWithin cased cs rest = lowerWithin cased' cs rest' ↔
      ∀ u v, cs = u ++ 'Σ' :: v →
        endsWord cased u (v ++ rest) = endsWord cased' u (v ++ rest') := by
  induction cs generalizing cased cased' with
  | nil => simp [lowerWithin]
  | cons c cs ih =>
    have hsplit : lowerWithin cased (c :: cs) rest = lowerWithin cased' (c :: cs) rest' ↔
        lowered cased c (cs ++ rest) = lowered cased' c (cs ++ rest') ∧
          lowerWithin (casedAfter cased c) cs rest =
            lowerWithin (casedAfter cased' c) cs rest' := by
      rw [lowerWithin, lowerWithin]
      refine ⟨fun h => List.append_inj h (length_lowered _ _ _ _ _), fun h => ?_⟩
      rw [h.1, h.2]
    rw [hsplit, lowered_eq_iff, ih]
    constructor
    · rintro ⟨hfirst, hrest⟩ u v heq
      cases u with
      | nil =>
        obtain ⟨rfl, rfl⟩ := List.cons.inj heq
        exact hfirst rfl
      | cons d u =>
        obtain ⟨rfl, rfl⟩ := List.cons.inj heq
        exact hrest u v rfl
    · intro hall
      refine ⟨?_, fun u v heq => ?_⟩
      · rintro rfl
        exact hall [] cs rfl
      · subst heq
        exact hall (c :: u) v rfl

/-! ### Characters that do not count -/

/-- No character of the text counts for a sigma. -/
def Passed (cs : List Char) : Prop := ∀ c ∈ cs, caseIgnorable.has c = true

lemma casedThrough_cons (cased : Bool) (c : Char) (cs : List Char) :
    casedThrough cased (c :: cs) = casedThrough (casedAfter cased c) cs := rfl

lemma casedThrough_cases (cased cased' : Bool) (cs : List Char) :
    (Passed cs ∧ casedThrough cased cs = cased ∧ casedThrough cased' cs = cased') ∨
      (¬Passed cs ∧ casedThrough cased cs = casedThrough cased' cs) := by
  induction cs generalizing cased cased' with
  | nil => exact .inl ⟨by simp [Passed], rfl, rfl⟩
  | cons c cs ih =>
    rw [casedThrough_cons, casedThrough_cons, Passed, List.forall_mem_cons, casedAfter, casedAfter]
    by_cases hc : caseIgnorable.has c = true
    · rw [if_pos hc, if_pos hc, and_iff_right hc]
      exact ih cased cased'
    · rw [if_neg hc, if_neg hc]
      exact .inr ⟨fun h => hc h.1, rfl⟩

lemma startsCased_append (cs ds : List Char) :
    (Passed cs ∧ startsCased cs = false ∧ startsCased (cs ++ ds) = startsCased ds) ∨
      (¬Passed cs ∧ startsCased (cs ++ ds) = startsCased cs) := by
  by_cases h : Passed cs
  · refine .inl ⟨h, ?_, ?_⟩
    · rw [startsCased, List.dropWhile_eq_nil_iff.mpr h]
    · rw [startsCased, startsCased, List.dropWhile_append_of_pos h]
  · refine .inr ⟨h, ?_⟩
    have hleft : (cs.dropWhile caseIgnorable.has).isEmpty = false := by
      simpa [Passed] using h
    unfold startsCased
    rw [List.dropWhile_append, hleft]
    rcases hrest : cs.dropWhile caseIgnorable.has with _ | ⟨c, rest⟩
    · rw [hrest] at hleft
      cases hleft
    · rfl

/-! ### A text between two others -/

/-- The last character of the text that counts has case. -/
def endsCased (cs : List Char) : Bool := casedThrough false cs

/-- A capital sigma of the text is lowered otherwise between two texts than alone. -/
inductive Altered (before text after : List Char) : Prop
  /-- The text before makes the sigma the end of a word. -/
  | ended {u v : List Char} : text = u ++ 'Σ' :: v → Passed u → endsCased before = true →
      startsCased (v ++ after) = false → Altered before text after
  /-- The text after keeps the sigma from being the end of a word. -/
  | continued {u v : List Char} : text = u ++ 'Σ' :: v → endsCased u = true → Passed v →
      startsCased after = true → Altered before text after

lemma Altered.mem (h : Altered before text after) : 'Σ' ∈ text := by
  cases h with
  | ended heq => simp [heq]
  | continued heq => simp [heq]

/-- What stands around the text matters to a sigma in one of two ways. -/
lemma endsWord_eq_iff :
    endsWord (endsCased before) u (v ++ after) = endsWord false u v ↔
      ¬(Passed u ∧ endsCased before = true ∧ startsCased (v ++ after) = false) ∧
        ¬(endsCased u = true ∧ Passed v ∧ startsCased after = true) := by
  unfold endsWord
  rcases casedThrough_cases (endsCased before) false u with ⟨hu, hin, halone⟩ | ⟨hu, hsame⟩
  · -- before the sigma nothing counts: alone, it ends no word
    rw [hin, endsCased, endsCased, halone]
    simp [hu]
  · rw [hsame, ← endsCased]
    rcases startsCased_append v after with ⟨hv, halone, hin⟩ | ⟨hv, hsame'⟩
    · rw [halone, hin]
      cases endsCased u <;> simp [hu, hv]
    · rw [hsame']
      simp [hu, hv]

/-- **Lower case between two texts** is lower case alone exactly if no sigma is altered. -/
lemma lowerWithin_eq_alone_iff :
    lowerWithin (endsCased before) text after = lowerFrom false text ↔
      ¬Altered before text after := by
  rw [← lowerWithin_nil, lowerWithin_eq_iff]
  simp only [List.append_nil, endsWord_eq_iff]
  constructor
  · rintro hall (⟨heq, hu, hbefore, hrest⟩ | ⟨heq, hu, hv, hafter⟩)
    · exact (hall _ _ heq).1 ⟨hu, hbefore, hrest⟩
    · exact (hall _ _ heq).2 ⟨hu, hv, hafter⟩
  · intro hnot u v heq
    exact ⟨fun h => hnot (.ended heq h.1 h.2.1 h.2.2),
      fun h => hnot (.continued heq h.1 h.2.1 h.2.2)⟩

end CrmAutomation.Text

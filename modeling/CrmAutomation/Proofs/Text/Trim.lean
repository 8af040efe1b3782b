import CrmAutomation.Text.Blank
import Mathlib.Data.List.TakeWhile
import Mathlib.Tactic.Common

/-!
Trimmed texts.

A text is what is left of it when trimmed, between characters of the class. Characters of the class
around a text make no difference to what is left. Texts that are joined at other characters are
trimmed where each of them would be.
-/

namespace CrmAutomation.Text

variable {p q : Char → Bool} {lead cs trail : List Char}

lemma exists_around (p : Char → Bool) (cs : List Char) :
    ∃ lead trail, (∀ c ∈ lead, p c = true) ∧ (∀ c ∈ trail, p c = true) ∧
      cs = lead ++ (trimChars p cs ++ trail) := by
  have hback : trimChars p cs ++ ((cs.dropWhile p).reverse.takeWhile p).reverse =
      cs.dropWhile p := by
    rw [trimChars, ← List.reverse_append, List.takeWhile_append_dropWhile, List.reverse_reverse]
  refine ⟨cs.takeWhile p, ((cs.dropWhile p).reverse.takeWhile p).reverse, fun c hc => ?_,
    fun c hc => ?_, ?_⟩
  · exact List.mem_takeWhile_imp hc
  · exact List.mem_takeWhile_imp (List.mem_reverse.mp hc)
  · calc cs = cs.takeWhile p ++ cs.dropWhile p := List.takeWhile_append_dropWhile.symm
      _ = cs.takeWhile p ++ (trimChars p cs ++ _) := by rw [hback]

lemma trimChars_around (hlead : ∀ c ∈ lead, p c = true) (htrail : ∀ c ∈ trail, p c = true) :
    trimChars p (lead ++ (cs ++ trail)) = trimChars p cs := by
  have hback : ∀ c ∈ trail.reverse, p c = true := fun c hc => htrail c (List.mem_reverse.mp hc)
  unfold trimChars
  rw [List.dropWhile_append_of_pos hlead, List.dropWhile_append]
  split
  · rename_i hempty
    rw [List.isEmpty_iff.mp hempty, List.dropWhile_eq_nil_iff.mpr htrail]
  · rw [List.reverse_append, List.dropWhile_append_of_pos hback]

lemma trimChars_trimChars (p : Char → Bool) (cs : List Char) :
    trimChars p (trimChars p cs) = trimChars p cs := by
  obtain ⟨lead, trail, hlead, htrail, heq⟩ := exists_around p cs
  conv_rhs => rw [heq, trimChars_around hlead htrail]

lemma length_trimChars_le (p : Char → Bool) (cs : List Char) :
    (trimChars p cs).length ≤ cs.length := by
  obtain ⟨lead, trail, -, -, heq⟩ := exists_around p cs
  have hlength : cs.length = (lead ++ (trimChars p cs ++ trail)).length := by rw [← heq]
  simp only [List.length_append] at hlength
  omega

lemma trimChars_of_imp (h : ∀ c, p c = true → q c = true) (cs : List Char) :
    trimChars p (trimChars q cs) = trimChars q cs := by
  obtain ⟨lead, trail, hlead, htrail, heq⟩ := exists_around p (trimChars q cs)
  have hinner : trimChars q (trimChars p (trimChars q cs)) = trimChars q cs := by
    rw [← trimChars_around (fun c hc => h c (hlead c hc)) (fun c hc => h c (htrail c hc)), ← heq,
      trimChars_trimChars]
  have hlength : (trimChars q cs).length ≤ (trimChars p (trimChars q cs)).length := by
    have hle := length_trimChars_le q (trimChars p (trimChars q cs))
    rwa [hinner] at hle
  have hsum := congrArg List.length heq
  simp only [List.length_append] at hsum
  have hlead' : lead = [] := List.length_eq_zero_iff.mp (by omega)
  have htrail' : trail = [] := List.length_eq_zero_iff.mp (by omega)
  rw [hlead', htrail', List.nil_append, List.append_nil] at heq
  exact heq.symm

lemma trimChars_eq_self (h : ∀ c ∈ cs, p c = false) : trimChars p cs = cs := by
  obtain ⟨lead, trail, hlead, htrail, heq⟩ := exists_around p cs
  have hnone : ∀ c, p c = true → c ∉ cs := fun c hc hmem => by
    rw [h c hmem] at hc
    cases hc
  have hlead' : lead = [] := List.eq_nil_iff_forall_not_mem.mpr fun c hc =>
    hnone c (hlead c hc) (heq ▸ List.mem_append_left _ hc)
  have htrail' : trail = [] := List.eq_nil_iff_forall_not_mem.mpr fun c hc =>
    hnone c (htrail c hc) (heq ▸ List.mem_append_right _ (List.mem_append_right _ hc))
  rw [hlead', htrail', List.nil_append, List.append_nil] at heq
  exact heq.symm

/-! ### Joined texts -/

lemma dropWhile_append_cons {c : Char} (hc : p c = false) (as bs : List Char) :
    (as ++ c :: bs).dropWhile p = as.dropWhile p ++ c :: bs := by
  have hstop : ¬p c = true := by rw [hc]; exact Bool.false_ne_true
  rw [List.dropWhile_append, List.dropWhile_cons_of_neg hstop]
  split
  · rename_i hempty
    rw [List.isEmpty_iff.mp hempty, List.nil_append]
  · rfl

lemma trimChars_append_cons {c : Char} (hc : p c = false) (as bs : List Char) :
    trimChars p (as ++ c :: bs) = as.dropWhile p ++ c :: (bs.reverse.dropWhile p).reverse := by
  unfold trimChars
  rw [dropWhile_append_cons hc, List.reverse_append, List.reverse_cons, List.append_assoc,
    List.singleton_append, dropWhile_append_cons hc]
  simp

lemma trimChars_joined {as bs : List Char} (has : as ≠ []) (hlast : ∀ c ∈ as.getLast?, p c = false)
    (hbs : bs ≠ []) (hfirst : ∀ c ∈ bs.head?, p c = false) (mark : Char) :
    trimChars p (as ++ mark :: bs) = trimChars p as ++ mark :: trimChars p bs := by
  obtain ⟨front, c, rfl⟩ : ∃ front c, as = front ++ [c] :=
    ⟨_, _, (List.dropLast_concat_getLast has).symm⟩
  obtain ⟨d, rest, rfl⟩ := List.exists_cons_of_ne_nil hbs
  have hc : p c = false := hlast c (by simp)
  have hd : p d = false := hfirst d rfl
  have hinner : ((mark :: d :: rest).reverse.dropWhile p).reverse =
      mark :: d :: (rest.reverse.dropWhile p).reverse := by
    rw [List.reverse_cons, List.reverse_cons, List.append_assoc, List.singleton_append,
      dropWhile_append_cons hd]
    simp
  calc trimChars p ((front ++ [c]) ++ mark :: d :: rest)
      = front.dropWhile p ++ c :: mark :: d :: (rest.reverse.dropWhile p).reverse := by
        rw [List.append_assoc, List.singleton_append, trimChars_append_cons hc, hinner]
    _ = trimChars p (front ++ [c]) ++ mark :: trimChars p ([] ++ d :: rest) := by
        rw [trimChars_append_cons hc, trimChars_append_cons hd]
        simp

end CrmAutomation.Text

import CrmAutomation.Template.Token
import Mathlib.Data.List.TakeWhile
import Mathlib.Tactic.Common

/-!
The pieces of a template.

Tokens are found from left to right and do not overlap. A character of the text is a piece of its
own if no token starts there.
-/

namespace CrmAutomation.Template

/-- What may stand between the braces of a token. -/
structure IsPath (path : List Char) : Prop where
  notEmpty : path ≠ []
  notClosed : '\x7d' ∉ path

/-- The pieces that the text is made of, read from left to right. -/
inductive Scans : List Char → List Piece → Prop
  | done : Scans [] []
  | token {path rest : List Char} {ps : List Piece} :
      IsPath path → Scans rest ps → Scans (written path ++ rest) (.token path :: ps)
  | char {c : Char} {rest : List Char} {ps : List Piece} :
      (∀ path rest', IsPath path → c :: rest ≠ written path ++ rest') →
        Scans rest ps → Scans (c :: rest) (.char c :: ps)

variable {path rest cs : List Char} {ps : List Piece} {c : Char}

lemma written_append (path rest : List Char) :
    written path ++ rest = '\x7b' :: '\x7b' :: (path ++ '\x7d' :: '\x7d' :: rest) := by
  simp [written]

/-! ### Tokens -/

lemma span_closed (h : '\x7d' ∉ path) (rest : List Char) :
    (path ++ '\x7d' :: rest).takeWhile (· != '\x7d') = path ∧
      (path ++ '\x7d' :: rest).dropWhile (· != '\x7d') = '\x7d' :: rest := by
  have hall : ∀ c ∈ path, (c != '\x7d') = true := fun c hc => by
    simpa using fun hclosed : c = '\x7d' => h (hclosed ▸ hc)
  rw [List.takeWhile_append_of_pos hall, List.dropWhile_append_of_pos hall]
  simp

lemma tokenAt?_written (h : IsPath path) (rest : List Char) :
    tokenAt? (written path ++ rest) = some path := by
  obtain ⟨htake, hdrop⟩ := span_closed h.notClosed ('\x7d' :: rest)
  rw [written_append]
  unfold tokenAt?
  simp only [htake, hdrop, List.isEmpty_iff, if_neg h.notEmpty]

lemma written_of_tokenAt? (h : tokenAt? cs = some path) :
    IsPath path ∧ ∃ rest, cs = written path ++ rest := by
  unfold tokenAt? at h
  split at h
  · rename_i cs
    dsimp only at h
    split at h
    · rename_i rest hdrop
      split at h
      · cases h
      · rename_i hne
        cases h
        refine ⟨⟨by simpa using hne, fun hmem => ?_⟩, rest, ?_⟩
        · simpa using List.mem_takeWhile_imp hmem
        · rw [written_append, ← hdrop, List.takeWhile_append_dropWhile]
    · cases h
  · cases h

/-- **A token** is found exactly where two opening braces, a path and two closing braces stand. -/
lemma tokenAt?_eq_some_iff :
    tokenAt? cs = some path ↔ IsPath path ∧ ∃ rest, cs = written path ++ rest := by
  refine ⟨written_of_tokenAt?, ?_⟩
  rintro ⟨h, rest, rfl⟩
  exact tokenAt?_written h rest

lemma tokenAt?_eq_none_iff :
    tokenAt? cs = none ↔ ∀ path rest, IsPath path → cs ≠ written path ++ rest := by
  rw [Option.eq_none_iff_forall_ne_some]
  constructor
  · intro h path rest hpath heq
    exact h path (tokenAt?_eq_some_iff.mpr ⟨hpath, rest, heq⟩)
  · intro h path htoken
    obtain ⟨hpath, rest, heq⟩ := tokenAt?_eq_some_iff.mp htoken
    exact h path rest hpath heq

/-! ### Pieces -/

lemma piecesFrom_eq (n : ℕ) (cs : List Char) : piecesFrom n cs = pieces (cs.drop n) := by
  induction cs generalizing n with
  | nil =>
    rw [List.drop_nil]
    rfl
  | cons c cs ih =>
    cases n with
    | zero => rfl
    | succ n => exact ih n

lemma pieces_cons (c : Char) (cs : List Char) :
    pieces (c :: cs) =
      match tokenAt? (c :: cs) with
      | some path => .token path :: pieces (cs.drop (path.length + 3))
      | none => .char c :: pieces cs := by
  rw [pieces, piecesFrom]
  rcases tokenAt? (c :: cs) with _ | path
  · rfl
  · simp only [piecesFrom_eq]

lemma pieces_written (h : IsPath path) (rest : List Char) :
    pieces (written path ++ rest) = .token path :: pieces rest := by
  have htoken := tokenAt?_written h rest
  have hskip : ('\x7b' :: (path ++ '\x7d' :: '\x7d' :: rest)).drop (path.length + 3) = rest := by
    have hlength : path.length + 3 = ('\x7b' :: path ++ ['\x7d', '\x7d']).length := by simp
    have hsplit : '\x7b' :: (path ++ '\x7d' :: '\x7d' :: rest) =
        ('\x7b' :: path ++ ['\x7d', '\x7d']) ++ rest := by simp
    rw [hlength, hsplit, List.drop_left]
  rw [written_append] at htoken ⊢
  rw [pieces_cons, htoken]
  dsimp only
  rw [hskip]

lemma pieces_of_no_token (h : tokenAt? (c :: cs) = none) :
    pieces (c :: cs) = .char c :: pieces cs := by
  rw [pieces_cons, h]

lemma pieces_of_scans (h : Scans cs ps) : pieces cs = ps := by
  induction h with
  | done => rfl
  | token hpath _ ih => rw [pieces_written hpath, ih]
  | char hno _ ih => rw [pieces_of_no_token (tokenAt?_eq_none_iff.mpr hno), ih]

lemma scans_pieces (cs : List Char) : Scans cs (pieces cs) := by
  -- on what is left of the text: a token is skipped as a whole
  induction hn : cs.length using Nat.strongRecOn generalizing cs with
  | _ n ih =>
    cases cs with
    | nil => exact .done
    | cons c cs =>
      rcases htoken : tokenAt? (c :: cs) with _ | path
      · rw [pieces_of_no_token htoken]
        exact .char (tokenAt?_eq_none_iff.mp htoken) (ih cs.length (by simp [← hn]) cs rfl)
      · obtain ⟨hpath, rest, heq⟩ := tokenAt?_eq_some_iff.mp htoken
        have hshort : rest.length < n := by
          have hlength : (c :: cs).length = (written path ++ rest).length := by rw [heq]
          rw [written_append] at hlength
          simp only [List.length_cons, List.length_append] at hlength hn
          omega
        rw [heq, pieces_written hpath]
        exact .token hpath (ih rest.length hshort rest rfl)

/-- **The pieces of a text** are those that a reading from left to right finds. -/
lemma scans_iff : Scans cs ps ↔ pieces cs = ps :=
  ⟨pieces_of_scans, fun h => h ▸ scans_pieces cs⟩

end CrmAutomation.Template

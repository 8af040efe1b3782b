import CrmAutomation.Proofs.Template.Path
import CrmAutomation.Proofs.Template.Scan
import CrmAutomation.Proofs.Value.Text
import Mathlib.Algebra.Group.Int.Defs
import Mathlib.Data.List.Basic

/-!
What templates expand to.

A text expands piece by piece: its characters stay, a token becomes the text of the value that its
path leads to, or stays if there is none. What is inserted is not read again. A text fails to expand
exactly if the path of one of its tokens derails, or leads to a value that has no text. A value that
has a text has none inside it that lacks one, so that in what JSON reads only paths fail.
-/

namespace CrmAutomation.Template

open CrmAutomation.Path

/-- What a piece becomes in an expanded text. -/
inductive Piece.Becomes (scope : Value) : Piece → List Char → Prop
  | char {c : Char} : Becomes scope (.char c) [c]
  | value {path : List Char} {v : Value} {s : String} :
      Leads scope (parts path) v → v ≠ .null → v.inserted = .ok s →
        Becomes scope (.token path) s.toList
  | kept {path : List Char} :
      Nowhere scope (parts path) → Becomes scope (.token path) (written path)

/-- A token of the path has no expansion: the path derails, or leads to a value without a text. -/
inductive Breaks (scope : Value) (path : List Char) : Prop
  | derails : Derails scope (parts path) → Breaks scope path
  | textless {v : Value} :
      Leads scope (parts path) v → v.hasText = false → Breaks scope path

variable {scope v w : Value} {p : Piece} {ps qs : List Piece} {cs text path : List Char}
  {part : List Char} {fault : PathFault}

/-! ### Values inside a value with a text -/

lemma hasText_of_enters (h : Enters v part w) (hv : v.hasText = true) : w.hasText = true := by
  cases h with
  | key hfind =>
    exact (Value.hasText_object_iff.mp hv _ (Fields.mem_of_find? hfind)).2
  | item _ hx => exact Value.hasText_list_iff.mp hv _ (List.mem_of_getElem? hx)

lemma hasText_of_leads {names : List (List Char)} (h : Leads v names w) (hv : v.hasText = true) :
    w.hasText = true := by
  induction h with
  | here => exact hv
  | enter he _ ih => exact ih (hasText_of_enters he hv)

lemma breaks_iff_derails (hscope : scope.hasText = true) :
    Breaks scope path ↔ Derails scope (parts path) := by
  refine ⟨fun h => ?_, .derails⟩
  rcases h with hd | ⟨hl, htext⟩
  · exact hd
  · rw [hasText_of_leads hl hscope] at htext
    cases htext

/-! ### Pieces -/

lemma map_error_iff {ε α β : Type} {f : α → β} {x : Except ε α} :
    (∃ fault, x.map f = .error fault) ↔ ∃ fault, x = .error fault := by
  rcases x with fault | a
  · simp [Except.map]
  · simp [Except.map]

lemma mapM_error_iff {ε α β : Type} {f : α → Except ε β} {xs : List α} :
    (∃ fault, xs.mapM f = .error fault) ↔ ∃ x ∈ xs, ∃ fault, f x = .error fault := by
  induction xs with
  | nil => simp [pure, Except.pure]
  | cons x xs ih =>
    rw [List.exists_mem_cons_iff, ← ih, List.mapM_cons]
    rcases f x with fault | y
    · simp [bind, Except.bind]
    · rcases xs.mapM f with fault | ys <;> simp [bind, Except.bind, pure, Except.pure]

lemma lookupChars_eq (h : path ≠ []) : scope.lookupChars path = follow scope (parts path) := by
  unfold Value.lookupChars
  simp only [List.isEmpty_iff, if_neg h]

lemma lookupChars_error_iff :
    (∃ fault, scope.lookupChars path = .error fault) ↔ Derails scope (parts path) := by
  by_cases hne : path = []
  · subst hne
    have hparts : parts [] = [[]] := by decide +kernel
    rw [hparts]
    refine iff_of_false (by simp [Value.lookupChars]) fun h => ?_
    cases h with
    | here hunwritable => exact absurd hunwritable.digits (by decide)
    | enter _ hrest => cases hrest
  · rw [lookupChars_eq hne, follow_error_iff]

lemma expand_of_ok (h : scope.lookupChars path = .ok v) :
    (Piece.token path).expand scope = replacement path v := by
  rw [Piece.expand, h]
  rfl

lemma expand_of_error (h : scope.lookupChars path = .error fault) :
    (Piece.token path).expand scope = .error (.path fault) := by
  rw [Piece.expand, h]
  rfl

lemma lookup_eq_ok_iff (hne : path ≠ []) (hv : v ≠ .null) :
    scope.lookupChars path = .ok v ↔ Leads scope (parts path) v := by
  rw [lookupChars_eq hne, follow_eq_iff_leads hv]

lemma ne_null_of_textless (h : v.hasText = false) : v ≠ .null := by
  rintro rfl
  cases h

lemma replacement_error_iff :
    (∃ fault, replacement path v = .error fault) ↔ v.hasText = false := by
  rcases htext : v.hasText with _ | _
  · rw [replacement_of_textless htext]
    exact iff_of_true ⟨_, rfl⟩ rfl
  · refine iff_of_false ?_ (by simp)
    by_cases hv : v = .null
    · simp [hv, replacement]
    · simp [replacement_of_hasText hv htext]

lemma expand_token_error_iff (hne : path ≠ []) :
    (∃ fault, (Piece.token path).expand scope = .error fault) ↔ Breaks scope path := by
  rcases hl : scope.lookupChars path with fault | v
  · rw [expand_of_error hl]
    exact iff_of_true ⟨_, rfl⟩ (.derails (lookupChars_error_iff.mp ⟨fault, hl⟩))
  rw [expand_of_ok hl, replacement_error_iff]
  constructor
  · intro htext
    exact .textless ((lookup_eq_ok_iff hne (ne_null_of_textless htext)).mp hl) htext
  · rintro (hd | ⟨hleads, htext⟩)
    · obtain ⟨fault, hf⟩ := lookupChars_error_iff.mpr hd
      rw [hl] at hf
      cases hf
    · rw [(lookup_eq_ok_iff hne (ne_null_of_textless htext)).mpr hleads] at hl
      cases hl
      exact htext

lemma becomes_of_expand (hp : ∀ path, p = .token path → IsPath path)
    (h : p.expand scope = .ok text) : p.Becomes scope text := by
  cases p with
  | char c =>
    cases h
    exact .char
  | token path =>
    have hne : path ≠ [] := (hp path rfl).notEmpty
    rcases hl : scope.lookupChars path with fault | v
    · rw [expand_of_error hl] at h
      cases h
    rw [expand_of_ok hl] at h
    by_cases hv : v = .null
    · -- nothing is there, and the token stays
      subst hv
      cases h
      refine .kept fun w hw => ?_
      rw [lookupChars_eq hne, follow_of_leads hw] at hl
      exact Except.ok.inj hl
    · rcases htext : v.hasText with _ | _
      · rw [replacement_of_textless htext] at h
        cases h
      · rw [replacement_of_hasText hv htext] at h
        cases h
        exact .value ((lookup_eq_ok_iff hne hv).mp hl) hv (Value.inserted_of_hasText htext)

/-! ### Pieces in order -/

lemma expandAll_cons (p : Piece) (ps : List Piece) :
    expandAll scope (p :: ps) =
      (p.expand scope).bind fun cs => (expandAll scope ps).map (cs ++ ·) := by
  rw [expandAll]
  rcases p.expand scope with fault | cs
  · rfl
  · rcases expandAll scope ps with fault | rest
    · rfl
    · rfl

lemma expandAll_cons_ok_iff :
    expandAll scope (p :: ps) = .ok cs ↔
      ∃ text rest, p.expand scope = .ok text ∧ expandAll scope ps = .ok rest ∧
        cs = text ++ rest := by
  rw [expandAll_cons]
  rcases p.expand scope with fault | text
  · simp [Except.bind]
  · rcases expandAll scope ps with fault | rest
    · simp [Except.bind, Except.map]
    · simp [Except.bind, Except.map, eq_comm]

lemma expandAll_eq_mapM (scope : Value) (ps : List Piece) :
    expandAll scope ps = (ps.mapM (Piece.expand scope)).map List.flatten := by
  induction ps with
  | nil => rfl
  | cons p ps ih =>
    rw [expandAll_cons, ih, List.mapM_cons]
    rcases p.expand scope with fault | text
    · rfl
    · rcases ps.mapM (Piece.expand scope) with fault | texts <;> rfl

lemma exists_of_expandAll (h : expandAll scope ps = .ok cs) :
    ∃ texts, List.Forall₂ (fun p text => p.expand scope = .ok text) ps texts ∧
      cs = texts.flatten := by
  induction ps generalizing cs with
  | nil =>
    cases h
    exact ⟨[], .nil, rfl⟩
  | cons p ps ih =>
    obtain ⟨text, rest, hp, hps, rfl⟩ := expandAll_cons_ok_iff.mp h
    obtain ⟨texts, htexts, rfl⟩ := ih hps
    exact ⟨text :: texts, .cons hp htexts, rfl⟩

lemma expandAll_append_eq (scope : Value) (ps qs : List Piece) :
    expandAll scope (ps ++ qs) =
      (expandAll scope ps).bind fun cs => (expandAll scope qs).map (cs ++ ·) := by
  induction ps with
  | nil =>
    rw [List.nil_append]
    rcases expandAll scope qs with fault | ds <;> rfl
  | cons p ps ih =>
    rw [List.cons_append, expandAll_cons, expandAll_cons, ih]
    rcases p.expand scope with fault | text
    · rfl
    · rcases expandAll scope ps with fault | cs
      · rfl
      · rcases expandAll scope qs with fault | ds
        · rfl
        · simp only [Except.bind, Except.map, List.append_assoc]

/-! ### Texts -/

lemma isPath_of_scans (h : Scans cs ps) : ∀ p ∈ ps, ∀ path, p = .token path → IsPath path := by
  induction h with
  | done => simp
  | token hpath _ ih =>
    rw [List.forall_mem_cons]
    refine ⟨fun path h => ?_, ih⟩
    cases h
    exact hpath
  | char _ _ ih =>
    rw [List.forall_mem_cons]
    exact ⟨fun path h => (by cases h), ih⟩

lemma becomes_of_forall (hp : ∀ p ∈ ps, ∀ path, p = .token path → IsPath path)
    {texts : List (List Char)}
    (h : List.Forall₂ (fun p text => p.expand scope = .ok text) ps texts) :
    List.Forall₂ (Piece.Becomes scope) ps texts := by
  induction h with
  | nil => exact .nil
  | cons hexpand _ ih =>
    rw [List.forall_mem_cons] at hp
    exact .cons (becomes_of_expand hp.1 hexpand) (ih hp.2)

lemma expand_fails_iff {s : String} (hs : Scans s.toList ps) :
    (∃ fault, expand scope s = .error fault) ↔ ∃ path, .token path ∈ ps ∧ Breaks scope path := by
  have hpaths := isPath_of_scans hs
  unfold expand
  rw [map_error_iff, scans_iff.mp hs, expandAll_eq_mapM, map_error_iff, mapM_error_iff]
  constructor
  · rintro ⟨p, hmem, fault, hf⟩
    cases p with
    | char c => cases hf
    | token path =>
      have hne : path ≠ [] := (hpaths _ hmem path rfl).notEmpty
      exact ⟨path, hmem, (expand_token_error_iff hne).mp ⟨fault, hf⟩⟩
  · rintro ⟨path, hmem, hbreaks⟩
    have hne : path ≠ [] := (hpaths _ hmem path rfl).notEmpty
    exact ⟨_, hmem, (expand_token_error_iff hne).mpr hbreaks⟩

/-- The text has a token whose path breaks. -/
def Fails (scope : Value) (s : String) : Prop :=
  ∃ ps, Scans s.toList ps ∧ ∃ path, .token path ∈ ps ∧ Breaks scope path

lemma expand_error_iff_fails {s : String} :
    (∃ fault, expand scope s = .error fault) ↔ Fails scope s :=
  ⟨fun h => ⟨_, scans_pieces _, (expand_fails_iff (scans_pieces _)).mp h⟩,
    fun ⟨_, hs, h⟩ => (expand_fails_iff hs).mpr h⟩

/-- **The expansion of a text**: it fails exactly if one of its tokens has a path that steps into a
list by digits that write no position, or that leads to a value without a text. Only the former is
left if the scope itself has a text. Otherwise the text is put together from what becomes of its
pieces: every token whose path leads nowhere stays. -/
theorem expand_outcome (scope : Value) (s : String) :
    ∃ ps, Scans s.toList ps ∧
      ((∃ fault, expand scope s = .error fault) ↔
        ∃ path, .token path ∈ ps ∧ Breaks scope path) ∧
      (scope.hasText = true → ((∃ fault, expand scope s = .error fault) ↔
        ∃ path, .token path ∈ ps ∧ Derails scope (parts path))) ∧
      ∀ t, expand scope s = .ok t →
        ∃ texts, List.Forall₂ (Piece.Becomes scope) ps texts ∧
          t = String.ofList texts.flatten := by
  have hs : Scans s.toList (pieces s.toList) := scans_pieces s.toList
  have hpaths := isPath_of_scans hs
  refine ⟨pieces s.toList, hs, expand_fails_iff hs, fun hscope => ?_, fun t ht => ?_⟩
  · simp only [expand_fails_iff hs, breaks_iff_derails hscope]
  unfold expand at ht
  rcases hall : expandAll scope (pieces s.toList) with fault | cs
  · rw [hall] at ht
    cases ht
  rw [hall] at ht
  cases ht
  obtain ⟨texts, htexts, rfl⟩ := exists_of_expandAll hall
  exact ⟨texts, becomes_of_forall hpaths htexts, rfl⟩

/-- A list of one item, and nothing. -/
def listed : Value := .object [("l", .list [.int 1]), ("n", .null)]

/-- A number of one digit too many. -/
def lengthy : Value := .object [("n", .int (10 ^ Text.digitLimit))]

lemma hasText_lengthy : (Value.int (10 ^ Text.digitLimit)).hasText = false := by
  have hten : Int.natAbs 10 = 10 := rfl
  rw [Value.hasText, Bool.eq_false_iff, ne_eq, Numeric.hasText_iff, Int.natAbs_pow, hten]
  exact Nat.lt_irrefl _

/-- A superscript digit fails where the value is a list, and a number that is too long to be written
fails where it is. A position behind the end of the list leads nowhere, and so does a path through
null: these tokens stay. -/
theorem expand_outcome_listed :
    (∃ fault, expand listed "\x7b\x7bl.²\x7d\x7d" = .error fault) ∧
      (∃ fault, expand lengthy "\x7b\x7bn\x7d\x7d" = .error fault) ∧
      ∃ texts, List.Forall₂ (Piece.Becomes listed)
          [.token ['l', '.', '0'], .token ['l', '.', '7'], .token ['n', '.', 'x']] texts ∧
        texts.flatten = "1\x7b\x7bl.7\x7d\x7d\x7b\x7bn.x\x7d\x7d".toList := by
  refine ⟨?_, ?_, ?_⟩
  · obtain ⟨ps, hs, -, hfails, -⟩ := expand_outcome listed "\x7b\x7bl.²\x7d\x7d"
    have hps : ps = [.token ['l', '.', '²']] := (scans_iff.mp hs).symm.trans (by decide +kernel)
    have hsuper : Unwritable ['²'] := ⟨by decide +kernel, Or.inl ⟨'²', by simp, by decide +kernel⟩⟩
    have hlist : Enters listed ['l'] (.list [.int 1]) := .key (by decide +kernel)
    refine (hfails (by decide)).mpr ⟨['l', '.', '²'], by simp [hps], ?_⟩
    have hparts : parts ['l', '.', '²'] = [['l'], ['²']] := by decide +kernel
    rw [hparts]
    exact .enter hlist (.here hsuper)
  · obtain ⟨ps, hs, hfails, -⟩ := expand_outcome lengthy "\x7b\x7bn\x7d\x7d"
    have hps : ps = [.token ['n']] := (scans_iff.mp hs).symm.trans (by decide +kernel)
    have hnumber : Enters lengthy ['n'] (.int (10 ^ Text.digitLimit)) := .key rfl
    refine hfails.mpr ⟨['n'], by simp [hps], ?_⟩
    have hparts : parts ['n'] = [['n']] := by decide +kernel
    refine .textless ?_ hasText_lengthy
    rw [hparts]
    exact .enter hnumber .here
  · obtain ⟨ps, hs, -, -, hexpands⟩ := expand_outcome listed
      "\x7b\x7bl.0\x7d\x7d\x7b\x7bl.7\x7d\x7d\x7b\x7bn.x\x7d\x7d"
    have hps : ps = [.token ['l', '.', '0'], .token ['l', '.', '7'], .token ['n', '.', 'x']] :=
      (scans_iff.mp hs).symm.trans (by decide +kernel)
    obtain ⟨texts, htexts, heq⟩ := hexpands
      "1\x7b\x7bl.7\x7d\x7d\x7b\x7bn.x\x7d\x7d" (by decide +kernel)
    refine ⟨texts, hps ▸ htexts, ?_⟩
    rw [heq, String.toList_ofList]

end CrmAutomation.Template

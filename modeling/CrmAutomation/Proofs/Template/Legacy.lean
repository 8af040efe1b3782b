import CrmAutomation.Proofs.Template.Segment
import CrmAutomation.Rule.Action

/-!
Texts with single-brace tokens, converted.

A single-brace token is a dotted name between an opening and a closing brace that have no second
brace of their kind outside. A text is made of such tokens and of the characters between them.
Conversion puts the path of a name between double braces and changes nothing else; no single-brace
token is left then, so that converting once more changes nothing.
-/

namespace CrmAutomation.Template

open Text

/-- A letter or an underscore, and name characters after it. -/
inductive IsName : List Char → Prop
  | intro {c : Char} {cs : List Char} :
      isNameStart c = true → (∀ d ∈ cs, isNameChar d = true) → IsName (c :: cs)

/-- A name between single braces. -/
def braced (name : List Char) : List Char := '\x7b' :: name ++ ['\x7d']

/-- The text starts with a name in braces, and no second closing brace follows. -/
def StartsWith (name cs : List Char) : Prop :=
  IsName name ∧ ∃ rest, cs = braced name ++ rest ∧ rest.head? ≠ some '\x7d'

/-- A part of a text in which single-brace tokens are looked for. -/
inductive Part where
  | char (c : Char)
  | name (name : List Char)

/-- The parts that the text is made of; `opened` says that an opening brace stands before it. -/
inductive Divides : Bool → List Char → List Part → Prop
  | done {opened : Bool} : Divides opened [] []
  | name {name rest : List Char} {ps : List Part} :
      IsName name → rest.head? ≠ some '\x7d' → Divides false rest ps →
        Divides false (braced name ++ rest) (.name name :: ps)
  | char {opened : Bool} {c : Char} {rest : List Char} {ps : List Part} :
      (opened = false → ∀ name, ¬StartsWith name (c :: rest)) →
        Divides (c == '\x7b') rest ps → Divides opened (c :: rest) (.char c :: ps)

/-- What a part is converted to. -/
def Part.converted (rename : List Char → List Char) : Part → List Char
  | .char c => [c]
  | .name n => written (rename n)

/-- Every name in braces has a second brace outside. -/
def Settled (cs : List Char) : Prop :=
  ∀ before name after, IsName name → cs = before ++ (braced name ++ after) →
    before.getLast? = some '\x7b' ∨ after.head? = some '\x7d'

variable {rename : List Char → List Char} {opened : Bool} {c : Char} {aliases : Aliases}
  {name text path rest after cs : List Char} {ps : List Part}

/-! ### Names -/

lemma braced_append (name rest : List Char) :
    braced name ++ rest = '\x7b' :: (name ++ '\x7d' :: rest) := by
  simp [braced]

lemma IsName.bare (h : IsName name) : Bare name := by
  obtain ⟨hstart, hrest⟩ := h
  refine List.forall_mem_cons.mpr ⟨⟨?_, ?_⟩, fun d hd => ⟨?_, ?_⟩⟩
  · rintro rfl
    exact absurd hstart (by decide)
  · rintro rfl
    exact absurd hstart (by decide)
  · rintro rfl
    exact absurd (hrest _ hd) (by decide)
  · rintro rfl
    exact absurd (hrest _ hd) (by decide)

lemma IsName.ne_nil (h : IsName name) : name ≠ [] := by
  cases h
  simp

lemma bare_iff : Bare text ↔ '\x7b' ∉ text ∧ '\x7d' ∉ text := by
  refine ⟨fun h => ⟨fun hmem => (h _ hmem).1 rfl, fun hmem => (h _ hmem).2 rfl⟩, fun h c hc => ?_⟩
  exact ⟨fun hopen => h.1 (hopen ▸ hc), fun hclose => h.2 (hclose ▸ hc)⟩

instance (text : List Char) : Decidable (Bare text) := decidable_of_iff _ bare_iff.symm

lemma Bare.notMem (h : Bare text) : '\x7b' ∉ text := (bare_iff.mp h).1

lemma span_name (h : ∀ d ∈ text, isNameChar d = true) (rest : List Char) :
    (text ++ '\x7d' :: rest).takeWhile isNameChar = text ∧
      (text ++ '\x7d' :: rest).dropWhile isNameChar = '\x7d' :: rest := by
  have hclosed : isNameChar '\x7d' = false := by decide
  rw [List.takeWhile_append_of_pos h, List.dropWhile_append_of_pos h]
  simp [hclosed]

lemma legacyAt?_braced (h : IsName name) (hrest : rest.head? ≠ some '\x7d') :
    legacyAt? (braced name ++ rest) = some name := by
  obtain ⟨hstart, hname⟩ := h
  rename_i c cs
  obtain ⟨htake, hdrop⟩ := span_name hname rest
  rw [braced_append, List.cons_append]
  unfold legacyAt?
  simp only [hstart, if_true, hdrop, htake, beq_iff_eq, if_neg hrest]

lemma startsWith_of_legacyAt? (h : legacyAt? cs = some name) : StartsWith name cs := by
  unfold legacyAt? at h
  split at h
  · rename_i c cs
    split at h
    · rename_i hstart
      split at h
      · rename_i rest hdrop
        split at h
        · cases h
        · rename_i hhead
          cases h
          refine ⟨.intro hstart fun d hd => List.mem_takeWhile_imp hd, rest, ?_,
            by simpa using hhead⟩
          rw [braced_append, List.cons_append, ← hdrop, List.takeWhile_append_dropWhile]
      · cases h
    · cases h
  · cases h

/-- **A single-brace token** is found exactly where a name in braces stands that no second closing
brace follows. -/
lemma legacyAt?_eq_some_iff : legacyAt? cs = some name ↔ StartsWith name cs := by
  refine ⟨startsWith_of_legacyAt?, ?_⟩
  rintro ⟨hname, rest, rfl, hrest⟩
  exact legacyAt?_braced hname hrest

/-! ### Conversion -/

lemma convertFrom_skip (rename : List Char → List Char) (opened : Bool) (text : List Char)
    (c : Char) (rest : List Char) :
    convertFrom rename opened (text.length + 1) (text ++ c :: rest) =
      convertFrom rename (c == '\x7b') 0 rest := by
  induction text generalizing opened with
  | nil => rfl
  | cons d text ih => exact ih (d == '\x7b')

lemma convertFrom_braced (h : IsName name) (hrest : rest.head? ≠ some '\x7d') :
    convertFrom rename false 0 (braced name ++ rest) =
      written (rename name) ++ convertFrom rename false 0 rest := by
  have htoken := legacyAt?_braced h hrest
  rw [braced_append] at htoken ⊢
  rw [convertFrom]
  simp only [Bool.false_eq_true, if_false, htoken, convertFrom_skip]
  rfl

lemma convertFrom_char (h : opened = false → ∀ name, ¬StartsWith name (c :: rest)) :
    convertFrom rename opened 0 (c :: rest) = c :: convertFrom rename (c == '\x7b') 0 rest := by
  have hnone : (if opened then none else legacyAt? (c :: rest)) = none := by
    cases opened with
    | true => rfl
    | false =>
      rw [if_neg Bool.false_ne_true, Option.eq_none_iff_forall_ne_some]
      exact fun name hname => h rfl name (legacyAt?_eq_some_iff.mp hname)
  rw [convertFrom]
  simp only [hnone]

/-- **Conversion goes part by part.** -/
lemma convertFrom_of_divides (h : Divides opened cs ps) :
    convertFrom rename opened 0 cs = ps.flatMap (Part.converted rename) := by
  induction h with
  | done => rfl
  | name hname hrest _ ih => rw [convertFrom_braced hname hrest, ih, List.flatMap_cons]; rfl
  | char hno _ ih => rw [convertFrom_char hno, ih, List.flatMap_cons]; rfl

lemma exists_divides (opened : Bool) (cs : List Char) : ∃ ps, Divides opened cs ps := by
  -- on what is left of the text: a token is skipped as a whole
  induction hn : cs.length using Nat.strongRecOn generalizing opened cs with
  | _ n ih =>
    cases cs with
    | nil => exact ⟨[], .done⟩
    | cons c cs =>
      by_cases htoken : opened = false ∧ ∃ name, StartsWith name (c :: cs)
      · obtain ⟨rfl, name, hname, rest, heq, hrest⟩ := htoken
        have hshort : rest.length < n := by
          have hlength : (c :: cs).length = (braced name ++ rest).length := by rw [heq]
          rw [braced_append] at hlength
          simp only [List.length_cons, List.length_append] at hlength hn
          omega
        obtain ⟨ps, hps⟩ := ih rest.length hshort false rest rfl
        rw [heq]
        exact ⟨_, .name hname hrest hps⟩
      · obtain ⟨ps, hps⟩ := ih cs.length (by simp [← hn]) (c == '\x7b') cs rfl
        exact ⟨_, .char (fun hopened name hname => htoken ⟨hopened, name, hname⟩) hps⟩

lemma ofLegacy_of_divides (aliases : Aliases) {s : String} (h : Divides false s.toList ps) :
    ofLegacy aliases s = String.ofList (ps.flatMap (Part.converted aliases.path)) := by
  rw [ofLegacy, convertFrom_of_divides h]

/-! ### Texts without single-brace tokens -/

lemma flatMap_converted_chars (rename : List Char → List Char) (cs : List Char) :
    (cs.map Part.char).flatMap (Part.converted rename) = cs := by
  rw [List.flatMap_map]
  exact List.flatMap_singleton' cs

lemma not_startsWith (h : c ≠ '\x7b') (name : List Char) : ¬StartsWith name (c :: rest) := by
  rintro ⟨-, after, heq, -⟩
  rw [braced_append] at heq
  exact h (List.cons.inj heq).1

lemma divides_plain (h : '\x7b' ∉ text) (hr : Divides (opened && text.isEmpty) rest ps) :
    Divides opened (text ++ rest) (text.map .char ++ ps) := by
  induction text generalizing opened with
  | nil => simpa using hr
  | cons c text ih =>
    rw [List.mem_cons, not_or] at h
    have hc : c ≠ '\x7b' := Ne.symm h.1
    refine .char (fun _ => not_startsWith hc) (ih h.2 ?_)
    simpa [beq_eq_false_iff_ne.mpr hc] using hr

lemma divides_written (h : '\x7b' ∉ path) (hr : Divides false rest ps) :
    Divides false (written path ++ rest) ((written path).map .char ++ ps) := by
  have hinner : '\x7b' ∉ path ++ ['\x7d', '\x7d'] := by
    rw [List.mem_append, not_or]
    exact ⟨h, by decide⟩
  have hmore : (path ++ ['\x7d', '\x7d']).isEmpty = false := by simp
  have hrest : Divides (true && (path ++ ['\x7d', '\x7d']).isEmpty) rest ps := by
    rw [hmore]
    exact hr
  have hfirst (name : List Char) : ¬StartsWith name (written path ++ rest) := by
    rintro ⟨hname, after, heq, -⟩
    rw [written_append, braced_append] at heq
    obtain ⟨hstart, -⟩ := hname
    obtain rfl := (List.cons.inj (List.cons.inj heq).2).1
    exact absurd hstart (by decide)
  -- the second opening brace stands after the first one
  refine .char (fun _ => hfirst) (.char (fun hopened => by cases hopened) ?_)
  exact divides_plain hinner hrest

lemma of_divides_char (h : Divides opened (c :: rest) (.char c :: ps)) :
    (opened = false → ∀ name, ¬StartsWith name (c :: rest)) ∧ Divides (c == '\x7b') rest ps := by
  generalize hcs : c :: rest = cs at h
  cases h with
  | char hno hrest =>
    cases hcs
    exact ⟨hno, hrest⟩

lemma opened_of_divides {before : List Char} (hstart : StartsWith name text)
    (h : Divides opened (before ++ text) ((before ++ text).map .char)) :
    before.getLast? = some '\x7b' ∨ (before = [] ∧ opened = true) := by
  induction before generalizing opened with
  | nil =>
    refine .inr ⟨rfl, ?_⟩
    by_contra hopened
    obtain ⟨hname, after, rfl, hafter⟩ := hstart
    exact (of_divides_char h).1 (Bool.eq_false_iff.mpr hopened) name ⟨hname, after, rfl, hafter⟩
  | cons c before ih =>
    left
    rcases ih (of_divides_char h).2 with hlast | ⟨rfl, hc⟩
    · cases before with
      | nil => cases hlast
      | cons d before => rw [List.getLast?_cons_cons, hlast]
    · rw [beq_iff_eq.mp hc]
      rfl

lemma settled_of_divides (h : Divides false cs (cs.map .char)) : Settled cs := by
  intro before name after hname heq
  by_cases hafter : after.head? = some '\x7d'
  · exact .inr hafter
  · subst heq
    rcases opened_of_divides ⟨hname, after, rfl, hafter⟩ h with hlast | ⟨-, hopened⟩
    · exact .inl hlast
    · cases hopened

/-! ### What is left after conversion -/

lemma head?_converted (rename : List Char → List Char) (h : Divides opened cs ps) :
    (ps.flatMap (Part.converted rename)).head? = cs.head? := by
  cases h with
  | done => rfl
  | name _ _ _ => rfl
  | char _ _ => rfl

lemma exists_rest (h : Divides opened cs ps) (htext : '\x7b' ∉ text)
    (heq : ps.flatMap (Part.converted rename) = text ++ after) :
    ∃ rest, cs = text ++ rest ∧ rest.head? = after.head? := by
  induction text generalizing opened cs ps with
  | nil => exact ⟨cs, rfl, by rw [← head?_converted rename h, heq, List.nil_append]⟩
  | cons d text ih =>
    rw [List.mem_cons, not_or] at htext
    cases h with
    | done => cases heq
    | name _ _ _ =>
      rw [List.flatMap_cons] at heq
      exact absurd (List.cons.inj heq).1 htext.1
    | char _ hrest =>
      rw [List.flatMap_cons] at heq
      obtain ⟨hd, htail⟩ := List.cons.inj heq
      obtain ⟨rest, rfl, hhead⟩ := ih hrest htext.2 htail
      exact ⟨rest, by rw [hd]; rfl, hhead⟩

/-- Conversion makes no single-brace token of what was none. -/
lemma startsWith_of_converted (h : Divides opened cs ps)
    (hstart : StartsWith name (c :: ps.flatMap (Part.converted rename))) :
    StartsWith name (c :: cs) := by
  obtain ⟨hname, after, heq, hafter⟩ := hstart
  rw [braced_append] at heq
  obtain ⟨rfl, htail⟩ := List.cons.inj heq
  have hsplit : name ++ '\x7d' :: after = (name ++ ['\x7d']) ++ after := by simp
  have hopen : '\x7b' ∉ name ++ ['\x7d'] := by
    rw [List.mem_append, not_or]
    exact ⟨hname.bare.notMem, by decide⟩
  obtain ⟨rest, rfl, hhead⟩ := exists_rest h hopen (htail.trans hsplit)
  exact ⟨hname, rest, by simp [braced], hhead ▸ hafter⟩

lemma divides_converted (hbare : ∀ name, IsName name → '\x7b' ∉ rename name)
    (h : Divides opened cs ps) :
    Divides opened (ps.flatMap (Part.converted rename))
      ((ps.flatMap (Part.converted rename)).map .char) := by
  induction h with
  | done => exact .done
  | name hname _ _ ih =>
    rw [List.flatMap_cons, List.map_append]
    exact divides_written (hbare _ hname) ih
  | char hno hrest ih =>
    rw [List.flatMap_cons, List.map_append]
    exact .char (fun hopened name hstart => hno hopened name (startsWith_of_converted hrest hstart))
      ih

lemma bare_path (h : ∀ p ∈ aliases, Bare p.2.toList) (hname : Bare name) :
    Bare (aliases.path name) := by
  unfold Aliases.path
  split
  · rename_i p hfind
    exact h p (List.mem_of_find?_eq_some hfind)
  · exact hname

/-- **Conversion is complete and idempotent**, if the aliases stand for paths without braces. Part
by part, a name in single braces becomes a token of its path and the rest stays. In the result,
every name in braces has a second brace outside, and converting it again changes nothing. -/
theorem ofLegacy_idempotent (aliases : Aliases) (s : String)
    (h : ∀ p ∈ aliases, Bare p.2.toList) :
    (∃ ps, Divides false s.toList ps ∧
      ofLegacy aliases s = String.ofList (ps.flatMap (Part.converted aliases.path))) ∧
      Settled (ofLegacy aliases s).toList ∧
      ofLegacy aliases (ofLegacy aliases s) = ofLegacy aliases s := by
  obtain ⟨ps, hps⟩ := exists_divides false s.toList
  have hconverted := ofLegacy_of_divides aliases hps
  have hpaths : ∀ name, IsName name → '\x7b' ∉ aliases.path name := fun name hname =>
    (bare_path h hname.bare).notMem
  have hdone := divides_converted hpaths hps
  refine ⟨⟨ps, hps, hconverted⟩, ?_, ?_⟩
  · rw [hconverted, String.toList_ofList]
    exact settled_of_divides hdone
  · rw [hconverted, ofLegacy, String.toList_ofList, convertFrom_of_divides hdone,
      flatMap_converted_chars]

/-- Braces of all kinds: only the name that stands alone is converted. -/
theorem ofLegacy_idempotent_nested :
    (∀ p ∈ Rule.aliases, Bare p.2.toList) ∧
      ofLegacy Rule.aliases "\x7b\x7ba\x7d\x7bdeal.value\x7d\x7bb\x7d\x7d\x7bc" =
        "\x7b\x7ba\x7d\x7b\x7bdeal.deal_value\x7d\x7d\x7bb\x7d\x7d\x7bc" ∧
      ofLegacy Rule.aliases "\x7b\x7ba\x7d\x7b\x7bdeal.deal_value\x7d\x7d\x7bb\x7d\x7d\x7bc" =
        "\x7b\x7ba\x7d\x7b\x7bdeal.deal_value\x7d\x7d\x7bb\x7d\x7d\x7bc" := by
  have hbare : ∀ p ∈ Rule.aliases, Bare p.2.toList := by decide +kernel
  have hconverted : ofLegacy Rule.aliases "\x7b\x7ba\x7d\x7bdeal.value\x7d\x7bb\x7d\x7d\x7bc" =
      "\x7b\x7ba\x7d\x7b\x7bdeal.deal_value\x7d\x7d\x7bb\x7d\x7d\x7bc" := by decide +kernel
  obtain ⟨-, -, hagain⟩ := ofLegacy_idempotent Rule.aliases _ hbare
  rw [hconverted] at hagain
  exact ⟨hbare, hconverted, hagain⟩

end CrmAutomation.Template

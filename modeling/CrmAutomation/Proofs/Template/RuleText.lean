import CrmAutomation.Proofs.Template.Legacy

/-!
Texts of rules.

A rule's text is put together from literals, names in single braces and tokens. Conversion and
expansion, one after the other, yield for each part what it stands for: neither takes braces of two
adjacent parts together, and expansion finds the tokens that conversion wrote like any others.
-/

namespace CrmAutomation.Template

/-- A part of a rule's text. -/
inductive RuleSegment where
  | literal (text : List Char) (bare : Bare text)
  | name (name : List Char) (isName : IsName name)
  | token (path : List Char) (notEmpty : path ≠ []) (bare : Bare path)

namespace RuleSegment

/-- The segment as it stands in the text. -/
def source : RuleSegment → List Char
  | literal text _ => text
  | name n _ => braced n
  | token path _ _ => written path

/-- The path that the segment names. -/
def path? (aliases : Aliases) : RuleSegment → Option (List Char)
  | literal _ _ => none
  | name n _ => some (aliases.path n)
  | token path _ _ => some path

/-- What the segment stands for: the text of the value at its path, without a value a token of that
path. -/
def filled (aliases : Aliases) (read : List Char → Value) :
    RuleSegment → Except Fault (List Char)
  | literal text _ => .ok text
  | name n _ => replacement (aliases.path n) (read (aliases.path n))
  | token path _ _ => replacement path (read path)

def parts : RuleSegment → List Part
  | literal text _ => text.map .char
  | name n _ => [.name n]
  | token path _ _ => (written path).map .char

end RuleSegment

/-- The text of all segments. -/
def ruleText (segments : List RuleSegment) : String :=
  String.ofList (segments.flatMap RuleSegment.source)

/-- What the aliases stand for are paths that a token may hold. -/
def Aliases.Proper (aliases : Aliases) : Prop := ∀ p ∈ aliases, p.2.toList ≠ [] ∧ Bare p.2.toList

variable {scope : Value} {aliases : Aliases} {read : List Char → Value} {name : List Char}
  {segments : List RuleSegment} {s : RuleSegment}

/-! ### Conversion -/

lemma path_ne_nil (h : aliases.Proper) (hname : IsName name) : aliases.path name ≠ [] := by
  unfold Aliases.path
  split
  · rename_i p hfind
    exact (h p (List.mem_of_find?_eq_some hfind)).1
  · exact hname.ne_nil

/-- The segment after conversion. -/
def RuleSegment.converted (h : aliases.Proper) : RuleSegment → Segment
  | .literal text bare => .literal text bare
  | .name n isName =>
    .token (aliases.path n) (path_ne_nil h isName) (bare_path (fun p hp => (h p hp).2) isName.bare)
  | .token path notEmpty bare => .token path notEmpty bare

lemma source_converted (h : aliases.Proper) (s : RuleSegment) :
    (s.converted h).source = s.parts.flatMap (Part.converted aliases.path) := by
  cases s with
  | literal text _ => exact (flatMap_converted_chars _ text).symm
  | name n _ => exact (List.append_nil _).symm
  | token path _ _ => exact (flatMap_converted_chars _ (written path)).symm

lemma path?_converted (h : aliases.Proper) (s : RuleSegment) :
    (s.converted h).path? = s.path? aliases := by
  cases s <;> rfl

lemma filled_converted (h : aliases.Proper) (s : RuleSegment) :
    (s.converted h).filled read = s.filled aliases read := by
  cases s <;> rfl

lemma head?_source (segments : List RuleSegment) :
    (segments.flatMap RuleSegment.source).head? ≠ some '\x7d' := by
  induction segments with
  | nil => simp
  | cons s segments ih =>
    rw [List.flatMap_cons]
    cases s with
    | literal text bare =>
      cases text with
      | nil => exact ih
      | cons c text => simpa [RuleSegment.source] using (bare c List.mem_cons_self).2
    | name n _ => simp [RuleSegment.source, braced]
    | token path _ _ => simp [RuleSegment.source, written]

lemma divides_segments (segments : List RuleSegment) :
    Divides false (segments.flatMap RuleSegment.source)
      (segments.flatMap RuleSegment.parts) := by
  induction segments with
  | nil => exact .done
  | cons s segments ih =>
    rw [List.flatMap_cons, List.flatMap_cons]
    cases s with
    | literal text bare => exact divides_plain bare.notMem ih
    | name n isName => exact .name isName (head?_source segments) ih
    | token path _ bare => exact divides_written bare.notMem ih

lemma ofLegacy_ruleText (h : aliases.Proper) (segments : List RuleSegment) :
    ofLegacy aliases (ruleText segments) = textOf (segments.map (RuleSegment.converted h)) := by
  have hdivides :
      Divides false (ruleText segments).toList (segments.flatMap RuleSegment.parts) := by
    rw [ruleText, String.toList_ofList]
    exact divides_segments segments
  rw [ofLegacy_of_divides aliases hdivides, textOf, List.flatMap_map, List.flatMap_assoc]
  simp only [source_converted]

/-! ### Conversion and expansion -/

lemma expand_ruleText (h : aliases.Proper)
    (hread : ∀ s ∈ segments, ∀ path ∈ s.path? aliases, scope.lookupChars path = .ok (read path)) :
    expand scope (ofLegacy aliases (ruleText segments)) =
      joined (segments.mapM (RuleSegment.filled aliases read)) := by
  have hlookups : ∀ t ∈ segments.map (RuleSegment.converted h), ∀ path ∈ t.path?,
      scope.lookupChars path = .ok (read path) := by
    intro t ht path hpath
    obtain ⟨s, hs, rfl⟩ := List.mem_map.mp ht
    rw [path?_converted] at hpath
    exact hread s hs path hpath
  have hfilled : Segment.filled read ∘ RuleSegment.converted h = RuleSegment.filled aliases read :=
    funext (filled_converted h)
  rw [ofLegacy_ruleText h, expand_segments hlookups, List.mapM_map, hfilled]

lemma ruleSegment_error_iff :
    (∃ fault, s.filled aliases read = .error fault) ↔
      ∃ path ∈ s.path? aliases, (read path).hasText = false := by
  cases s with
  | literal text _ => simp [RuleSegment.filled, RuleSegment.path?]
  | name n _ => simp [RuleSegment.filled, RuleSegment.path?, replacement_error_iff]
  | token path _ _ => simp [RuleSegment.filled, RuleSegment.path?, replacement_error_iff]

/-- **A rule's text stands for what its parts stand for**, as long as their paths can be read: a
name in single braces for the value at the path that it is short for, a token for the value at its
path, and either for a token of that path where there is no value. It stands for nothing exactly if
something that was read has no text. -/
theorem expand_ofLegacy (scope : Value) (aliases : Aliases) (read : List Char → Value)
    (segments : List RuleSegment) (h : aliases.Proper)
    (hread : ∀ s ∈ segments, ∀ path ∈ s.path? aliases, scope.lookupChars path = .ok (read path)) :
    expand scope (ofLegacy aliases (ruleText segments)) =
        joined (segments.mapM (RuleSegment.filled aliases read)) ∧
      ((∃ fault, expand scope (ofLegacy aliases (ruleText segments)) = .error fault) ↔
        ∃ s ∈ segments, ∃ path ∈ s.path? aliases, (read path).hasText = false) := by
  have hexpand := expand_ruleText h hread
  refine ⟨hexpand, ?_⟩
  rw [hexpand, joined_error_iff]
  simp only [ruleSegment_error_iff]

/-- A deal, and a value that looks like a name in braces. -/
def dealt : Value :=
  .object [("deal", .object [("deal_value", .int 80)]), ("q", .text "\x7bdeal.value\x7d")]

def announced : List RuleSegment := [
  .literal ['w', 'o', 'n', ' '] (by simp [Bare]),
  .name "deal.value".toList (.intro (by decide) (List.all_eq_true.mp (by decide))),
  .token ['q'] (by simp) (by simp [Bare]),
  .name ['x'] (.intro (by decide) (by simp)),
  .token [' ', 'y', ' '] (by simp) (by simp [Bare])]

/-- The name is short for another path, what is inserted is converted no more, and without a value
both kinds of tokens end up in double braces. -/
theorem expand_ofLegacy_announced :
    ruleText announced = "won \x7bdeal.value\x7d\x7b\x7bq\x7d\x7d\x7bx\x7d\x7b\x7b y \x7d\x7d" ∧
      expand dealt (ofLegacy Rule.aliases (ruleText announced)) =
        .ok "won 80\x7bdeal.value\x7d\x7b\x7bx\x7d\x7d\x7b\x7b y \x7d\x7d" := by
  let read (path : List Char) : Value := (dealt.lookupChars path).toOption.getD .null
  have hproper : Rule.aliases.Proper := by
    unfold Aliases.Proper
    decide +kernel
  have hread : ∀ s ∈ announced, ∀ path ∈ s.path? Rule.aliases,
      dealt.lookupChars path = .ok (read path) := by
    decide +kernel
  refine ⟨by decide +kernel, ?_⟩
  rw [(expand_ofLegacy dealt Rule.aliases read announced hproper hread).1]
  decide +kernel

end CrmAutomation.Template

import CrmAutomation.Text.CaseTable

/-!
Lower case for texts of any script.

Every character maps by itself but two: a capital sigma that ends a word becomes a final sigma,
and a dotted capital I becomes an i followed by a combining dot.
-/

namespace CrmAutomation.Text

/-- The character that its run maps it to, itself where there is none. -/
def lowerChar (c : Char) : Char :=
  if c.toNat < 0x80 then
    if 'A' ≤ c && c ≤ 'Z' then Char.ofNat (c.toNat + 32) else c
  else
    match lowerRuns.find? fun r =>
        r.first ≤ c.toNat && c.toNat ≤ r.last && (c.toNat - r.first) % r.stride == 0 with
    | some r => Char.ofNat (c.toNat + r.shift).toNat
    | none => c

/-- The first character that counts for a sigma has case. -/
def startsCased (cs : List Char) : Bool :=
  match cs.dropWhile caseIgnorable.has with
  | [] => false
  | c :: _ => casedLetters.has c

/-- Whether the last character that counts has case, after one more character. -/
def casedAfter (cased : Bool) (c : Char) : Bool :=
  if caseIgnorable.has c then cased else casedLetters.has c

/-- Lowers the rest of a text; `cased` says whether the last character that counts has case. -/
def lowerFrom (cased : Bool) : List Char → List Char
  | [] => []
  | c :: cs =>
    if c == 'Σ' then
      (if cased && !startsCased cs then 'ς' else 'σ') :: lowerFrom (casedAfter cased c) cs
    else if c == 'İ' then
      'i' :: '\u0307' :: lowerFrom (casedAfter cased c) cs
    else
      lowerChar c :: lowerFrom (casedAfter cased c) cs

/-- The text in lower case. -/
def lower (s : String) : String := String.ofList (lowerFrom false s.toList)

@[simp] theorem lowerFrom_nil (b : Bool) : lowerFrom b [] = [] := rfl

end CrmAutomation.Text

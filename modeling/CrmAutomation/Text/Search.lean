/-!
Splitting texts and looking for one text in another.
-/

namespace CrmAutomation.Text

/-- The parts of a text between separators, one more than there are separators. -/
def splitOn (sep : Char) : List Char → List (List Char)
  | [] => [[]]
  | c :: cs =>
    if c == sep then [] :: splitOn sep cs
    else
      match splitOn sep cs with
      | [] => [[c]]
      | part :: parts => (c :: part) :: parts

/-- The needle occurs somewhere in the text. -/
def occursIn (needle : List Char) : List Char → Bool
  | [] => needle.isEmpty
  | c :: cs => needle.isPrefixOf (c :: cs) || occursIn needle cs

theorem splitOn_ne_nil (sep : Char) (cs : List Char) : splitOn sep cs ≠ [] := by
  cases cs with
  | nil => simp [splitOn]
  | cons c cs =>
    simp only [splitOn]
    split
    · simp
    · split <;> simp

/-- Texts on both sides of a separator are split apart. -/
theorem splitOn_append (sep : Char) (as bs : List Char) :
    splitOn sep (as ++ sep :: bs) = splitOn sep as ++ splitOn sep bs := by
  induction as with
  | nil => simp [splitOn]
  | cons a as ih =>
    rw [List.cons_append, splitOn, splitOn, ih]
    split
    · rfl
    · cases hparts : splitOn sep as with
      | nil => exact absurd hparts (splitOn_ne_nil sep as)
      | cons part parts => rfl

end CrmAutomation.Text

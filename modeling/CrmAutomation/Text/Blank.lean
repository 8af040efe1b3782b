import CrmAutomation.Text.Range

/-!
Blanks, and texts trimmed of them.
-/

namespace CrmAutomation.Text

/-- Unicode's `White_Space` property. -/
def whiteSpace : Ranges := [
  (0x9, 0xD), (0x20, 0x20), (0x85, 0x85), (0xA0, 0xA0), (0x1680, 0x1680), (0x2000, 0x200A),
  (0x2028, 0x2029), (0x202F, 0x202F), (0x205F, 0x205F), (0x3000, 0x3000)]

/-- White space in the strict sense of the Unicode property. -/
def isWhiteSpace (c : Char) : Bool := whiteSpace.has c

/-- What a user's text is trimmed of: white space and the separators U+001C to U+001F. -/
def isBlank (c : Char) : Bool := isWhiteSpace c || (0x1C ≤ c.toNat && c.toNat ≤ 0x1F)

/-- Drops the characters of a class from both ends. -/
def trimChars (p : Char → Bool) (cs : List Char) : List Char :=
  ((cs.dropWhile p).reverse.dropWhile p).reverse

/-- The text without outer blanks. -/
def trim (s : String) : String := String.ofList (trimChars isBlank s.toList)

@[simp] theorem trimChars_nil (p : Char → Bool) : trimChars p [] = [] := rfl

end CrmAutomation.Text

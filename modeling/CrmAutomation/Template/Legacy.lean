import CrmAutomation.Template.Token
import CrmAutomation.Text.Word

/-!
Single-brace templates of rules, converted to tokens.

A brace pair counts if it stands alone, not next to a second brace of its kind outside, and holds
a dotted name.
-/

namespace CrmAutomation.Template

open Text

/-- A character of a dotted name after its first. -/
def isNameChar (c : Char) : Bool := isWord c || c == '.'

/-- The dotted name of the single-brace token that the text starts with. -/
def legacyAt? : List Char → Option (List Char)
  | '\x7b' :: c :: cs =>
    if isNameStart c then
      match cs.dropWhile isNameChar with
      | '\x7d' :: rest =>
        if rest.head? == some '\x7d' then none else some (c :: cs.takeWhile isNameChar)
      | _ => none
    else none
  | _ => none

/-- Converts a text of which the first `skip` characters are already converted; `opened` says that
an opening brace stands before it. -/
def convertFrom (rename : List Char → List Char) (opened : Bool) (skip : Nat) :
    List Char → List Char
  | [] => []
  | c :: cs =>
    match skip with
    | n + 1 => convertFrom rename (c == '\x7b') n cs
    | 0 =>
      match (if opened then none else legacyAt? (c :: cs)) with
      | some name => written (rename name) ++ convertFrom rename true (name.length + 1) cs
      | none => c :: convertFrom rename (c == '\x7b') 0 cs

/-- Shorthand paths and what they stand for. -/
abbrev Aliases := List (String × String)

/-- The path that a name stands for. -/
def Aliases.path (aliases : Aliases) (name : List Char) : List Char :=
  match aliases.find? (·.1 == String.ofList name) with
  | some p => p.2.toList
  | none => name

/-- The text with its single-brace tokens as tokens. -/
def ofLegacy (aliases : Aliases) (s : String) : String :=
  String.ofList (convertFrom aliases.path false 0 s.toList)

end CrmAutomation.Template

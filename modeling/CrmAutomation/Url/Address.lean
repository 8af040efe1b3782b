import CrmAutomation.Text.Search
import CrmAutomation.Url.Quoting

/-!
Numeric addresses of hosts, of 32 and of 128 bits.
-/

namespace CrmAutomation.Url

open Text

/-! ### 32 bits -/

/-- A decimal number up to 255 without leading zeros. -/
def isOctet (cs : List Char) : Bool :=
  match decimalNumber? cs with
  | some n =>
    cs.all isAsciiDigit && !cs.isEmpty && cs.length ≤ 3 && n ≤ 255 &&
      (cs == ['0'] || cs.head? != some '0')
  | none => false

/-- Four octets with points between them. -/
def isShortAddress (cs : List Char) : Bool :=
  let octets := splitOn '.' cs
  octets.length == 4 && octets.all isOctet

/-- How far a text follows the shape of a short address: the separators so far, and whether a digit
came last. -/
abbrev ShapeState := Nat × Bool

def shapeStates : List ShapeState := (List.range 4).flatMap fun k => [(k, false), (k, true)]

/-- A digit prolongs a number, and any character that follows a number may separate it from the
next. -/
def shapeStep (states : List ShapeState) (c : Char) : List ShapeState :=
  shapeStates.filter fun s =>
    if s.2 then isAsciiDigit c && (states.contains (s.1, true) || states.contains (s.1, false))
    else s.1 != 0 && states.contains (s.1 - 1, true)

/-- Four numbers with one character of any kind between them: such a host has to be an address. -/
def looksLikeShortAddress (cs : List Char) : Bool :=
  (cs.foldl shapeStep [(0, false)]).contains (3, true)

/-! ### 128 bits -/

/-- One to four digits of base sixteen. -/
def isGroup (cs : List Char) : Bool := !cs.isEmpty && cs.length ≤ 4 && cs.all isHexDigit

/-- The groups of an address; a short address at the end counts as two. -/
def groups? (cs : List Char) : Option (List (List Char)) :=
  let parts := splitOn ':' cs
  match parts.getLast? with
  | some last =>
    if last.contains '.' then
      if isShortAddress last then some (parts.dropLast ++ [['0'], ['0']]) else none
    else some parts
  | none => none

/-- The positions of empty groups, the outer ones aside. -/
def innerGaps (groups : List (List Char)) : List Nat :=
  (List.range groups.length).filter fun i =>
    0 < i && i + 1 < groups.length && groups[i]? == some []

/-- The groups on one side of a gap; the gap may itself be the end of the address. -/
def besideGap (groups : List (List Char)) : List (List Char) :=
  if groups == [[]] then [] else groups

/-- Eight groups, or fewer with one gap that stands for the rest. -/
def areGroups (groups : List (List Char)) : Bool :=
  match innerGaps groups with
  | [] => groups.length == 8 && groups.all isGroup
  | [i] =>
    let given := besideGap (groups.take i) ++ besideGap (groups.drop (i + 1))
    given.length < 8 && given.all isGroup
  | _ => false

/-- Groups, and after a percent sign perhaps the name of a zone. -/
def isLongAddress (cs : List Char) : Bool :=
  let sound :=
    match groups? (cs.takeWhile (· != '%')) with
    | some groups => areGroups groups
    | none => false
  match cs.dropWhile (· != '%') with
  | [] => sound
  | _ :: zone => sound && !zone.isEmpty && !zone.contains '%'

end CrmAutomation.Url

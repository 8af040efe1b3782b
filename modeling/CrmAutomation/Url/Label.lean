import CrmAutomation.Text.Search
import CrmAutomation.Url.LabelTable
import CrmAutomation.Url.Punycode
import CrmAutomation.Value.Text

/-!
Labels, the parts of a host name, in any script.

A label has a written form and one in ASCII: a prefix and its punycode. A label in ASCII without the
prefix is its own written form.
-/

namespace CrmAutomation.Url

open Text

namespace Label

/-! ### Characters -/

/-- The character may stand in a label, wherever it stands. -/
def isLetter (c : Char) : Bool :=
  letterRuns.any fun r =>
    r.first ≤ c.toNat && c.toNat ≤ r.last && (c.toNat - r.first) % r.stride == 0

def isMark : Char → Bool := labelMarks.has

/-- The invisible characters that forbid or ask for a joint. -/
def isJoiner (c : Char) : Bool := c.toNat == 0x200C || c.toNat == 0x200D

/-- The characters that may stand only in company: `before` and `after` are what stands on either
side, the nearest character first. -/
def suits (before : List Char) (c : Char) (after : List Char) : Bool :=
  let silenced := before.head?.any viramas.has
  let label := before ++ after
  match c.toNat with
  | 0x200C =>
    silenced ||
      ((before.dropWhile isMark).head?.any joiningForward.has &&
        (after.dropWhile isMark).head?.any fun d => joiningForward.has d || joiningBackward.has d)
  | 0x200D => silenced
  | 0xB7 => before.head? == some 'l' && after.head? == some 'l'
  | 0x375 => after.head?.any greekLetters.has
  | 0x5F3 | 0x5F4 => before.head?.any hebrewLetters.has
  | 0x30FB => label.any japaneseLetters.has
  | n =>
    if 0x660 ≤ n && n ≤ 0x669 then !label.any fun d => 0x6F0 ≤ d.toNat && d.toNat ≤ 0x6F9
    else if 0x6F0 ≤ n && n ≤ 0x6F9 then !label.any fun d => 0x660 ≤ d.toNat && d.toNat ≤ 0x669
    else false

/-- The characters that `suits` is about. -/
def needsCompany (c : Char) : Bool :=
  isJoiner c || [0xB7, 0x375, 0x5F3, 0x5F4, 0x30FB].contains c.toNat ||
    (0x660 ≤ c.toNat && c.toNat ≤ 0x669) || (0x6F0 ≤ c.toNat && c.toNat ≤ 0x6F9)

/-- A character and the mark after it are to be written as one character. -/
def compose (c mark : Char) : Bool :=
  compositions.any fun x => x.mark == mark.toNat && x.bases.toList.contains c

/-! ### Direction -/

/-- How a character takes part in the direction of a text. -/
inductive Direction where
  | leftToRight
  | rightToLeft
  | europeanDigit
  | arabicDigit
  | mark
  | neutral
  deriving DecidableEq, Repr

def direction (c : Char) : Direction :=
  if Url.rightToLeft.has c then .rightToLeft
  else if europeanDigits.has c then .europeanDigit
  else if arabicDigits.has c then .arabicDigit
  else if isMark c then .mark
  else if Url.neutral.has c then .neutral
  else .leftToRight

/-! ### Sound labels -/

/-- What is wrong with a host name. -/
inductive Fault where
  | longName
  | emptyName
  | emptyLabel
  | longLabel
  | notComposed
  | hyphensInside
  | hyphenOutside
  | startsWithMark
  | joiner (c : Char) (position : Nat) (label : List Char)
  | company (c : Char) (position : Nat) (label : List Char)
  | character (c : Char) (position : Nat) (label : List Char)
  | mixedStart (label : List Char)
  | mixedDirection (position : Nat) (label : Direction)
  | mixedDigits
  | mixedEnd
  /-- Nothing follows the prefix. -/
  | nothingEncoded
  | encodedHyphen
  | malformedCode
  deriving DecidableEq, Repr

/-- A code point as messages name it. -/
def codePoint (c : Char) : String :=
  let digits := (Nat.toDigits 16 c.toNat).map fun d =>
    if 'a' ≤ d then Char.ofNat (d.toNat - 32) else d
  "U+" ++ String.ofList (List.replicate (4 - digits.length) '0' ++ digits)

def Fault.message : Fault → String
  | longName => "Domain too long"
  | emptyName => "Empty domain"
  | emptyLabel => "Empty Label"
  | longLabel => "Label too long"
  | notComposed => "Label must be in Normalization Form C"
  | hyphensInside => "Label has disallowed hyphens in 3rd and 4th position"
  | hyphenOutside => "Label must not start or end with a hyphen"
  | startsWithMark => "Label begins with an illegal combining character"
  | joiner c position label =>
    "Unknown codepoint adjacent to joiner " ++ codePoint c ++ " at position " ++
      Numeric.intText position ++ " in " ++ Literal.quoted (String.ofList label)
  | company c position label =>
    "Codepoint " ++ codePoint c ++ " not allowed at position " ++ Numeric.intText position ++
      " in " ++ Literal.quoted (String.ofList label)
  | character c position label =>
    "Codepoint " ++ codePoint c ++ " at position " ++ Numeric.intText position ++ " of " ++
      Literal.quoted (String.ofList label) ++ " not allowed"
  | mixedStart label =>
    "First codepoint in label " ++ Literal.quoted (String.ofList label) ++
      " must be directionality L, R or AL"
  | mixedDirection position label =>
    "Invalid direction for codepoint at position " ++ Numeric.intText position ++
      (if label == .leftToRight then " in a left-to-right label" else " in a right-to-left label")
  | mixedDigits => "Can not mix numeral types in a right-to-left label"
  | mixedEnd => "Label ends with illegal codepoint directionality"
  | nothingEncoded => "Malformed A-label, no Punycode eligible content found"
  | encodedHyphen => "A-label must not end with a hyphen"
  | malformedCode => "Invalid A-label"

/-- The first character that may not stand where it does; `before` is what stands before it, the
nearest character first. -/
def characterFault? (label before : List Char) : List Char → Option Fault
  | [] => none
  | c :: cs =>
    if isLetter c || (needsCompany c && suits before c cs) then
      characterFault? label (c :: before) cs
    else
      let position := before.length + 1
      if isJoiner c then some (.joiner c position label)
      else if needsCompany c then some (.company c position label)
      else some (.character c position label)

/-- Goes through a label from right to left, `digits` being the kind of its digits so far. -/
def rightToLeftFault? (digits : Option Direction) (position : Nat) :
    List Char → Option Fault
  | [] => none
  | c :: cs =>
    let d := direction c
    if d == .leftToRight then some (.mixedDirection position .rightToLeft)
    else if d == .europeanDigit || d == .arabicDigit then
      if digits.any (· != d) then some .mixedDigits
      else rightToLeftFault? (some d) (position + 1) cs
    else rightToLeftFault? digits (position + 1) cs

/-- A label with a letter or digit from right to left starts with such a letter, holds no letter
from left to right and only one kind of digits, and ends with a letter or a digit, marks aside. -/
def directionFault? (label : List Char) : Option Fault :=
  let ds := label.map direction
  if !ds.any (fun d => d == .rightToLeft || d == .arabicDigit) then none
  else
    match ds.head? with
    | some .rightToLeft =>
      match rightToLeftFault? none 1 label with
      | some f => some f
      | none =>
        match (ds.reverse.dropWhile (· == .mark)).head? with
        | some .neutral => some .mixedEnd
        | _ => none
    | some .leftToRight =>
      let fitting := ds.takeWhile fun d => d != .rightToLeft && d != .arabicDigit
      some (.mixedDirection (fitting.length + 1) .leftToRight)
    | _ => some (.mixedStart label)

/-- The most characters of a name, with a point at its end. -/
def nameLimit : Nat := 254

/-- What is wrong with a label in its written form. -/
def writtenFault? (label : List Char) : Option Fault :=
  if label.isEmpty then some .emptyLabel
  else if nameLimit < label.length then some .longLabel
  else if (label.zip label.tail).any fun p => compose p.1 p.2 then some .notComposed
  else if (label.drop 2).take 2 == ['-', '-'] then some .hyphensInside
  else if label.head? == some '-' || label.getLast? == some '-' then some .hyphenOutside
  else if label.head?.any isMark then some .startsWithMark
  else
    match characterFault? label [] label with
    | some f => some f
    | none => directionFault? label

def isAscii (cs : List Char) : Bool := cs.all fun c => c.toNat < 0x80

/-- What stands before the punycode of a label. -/
def codePrefix : List Char := "xn--".toList

/-- What is wrong with a label in ASCII. -/
def asciiFault? (label : List Char) : Option Fault :=
  if codePrefix.isPrefixOf label then
    let code := label.drop codePrefix.length
    if code.isEmpty then some .nothingEncoded
    else if code.getLast? == some '-' then some .encodedHyphen
    else
      match Punycode.decode? code with
      | some written => writtenFault? written
      | none => some .malformedCode
  else writtenFault? label

/-- The label in ASCII. -/
def toAscii (label : List Char) : Except Fault (List Char) :=
  let (fault, ascii) :=
    if isAscii label then (asciiFault? label, label)
    else (writtenFault? label, codePrefix ++ Punycode.encode label)
  match fault with
  | some f => .error f
  | none => if 63 < ascii.length then .error .longLabel else .ok ascii

/-! ### Names -/

/-- A point, in the forms that it has in different scripts. -/
def isPoint (c : Char) : Bool := [0x2E, 0x3002, 0xFF0E, 0xFF61].contains c.toNat

/-- The labels of a name; a point at its end adds an empty one. -/
def labels (name : List Char) : List (List Char) :=
  splitOn '.' (name.map fun c => if isPoint c then '.' else c)

/-- The labels of a name without the empty one at its end. -/
def properLabels (name : List Char) : List (List Char) :=
  let all := labels name
  if all.getLast? == some [] then all.dropLast else all

/-- The name in ASCII. -/
def nameToAscii (name : List Char) : Except Fault (List Char) := do
  if nameLimit < name.length then throw .longName
  if name.isEmpty then throw .emptyName
  let proper ← (properLabels name).mapM toAscii
  let closed := (labels name).length != proper.length
  let ascii := ['.'].intercalate (if closed then proper ++ [[]] else proper)
  if nameLimit < ascii.length + (if closed then 0 else 1) then throw .longName
  return ascii

/-- What is wrong with a name in ASCII whose labels are encoded. -/
def nameFault? (name : List Char) : Option Fault :=
  if nameLimit < name.length then some .longName
  else if name.isEmpty then some .emptyName
  else (properLabels name).findSome? asciiFault?

end Label

end CrmAutomation.Url

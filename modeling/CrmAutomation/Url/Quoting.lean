import CrmAutomation.Text.Digit

/-!
Percent-encoding: which characters stand for themselves in each part of an address, and how the
others are written.
-/

namespace CrmAutomation.Url

open Text

/-- Letters, digits and four marks are never encoded. -/
def isUnreserved (c : Char) : Bool :=
  ('a' ≤ c && c ≤ 'z') || ('A' ≤ c && c ≤ 'Z') || isAsciiDigit c || "-._~".toList.contains c

/-- A digit of base sixteen, in either case. -/
def isHexDigit (c : Char) : Bool :=
  isAsciiDigit c || ('a' ≤ c && c ≤ 'f') || ('A' ≤ c && c ≤ 'F')

/-- A visible ASCII character other than some. -/
def visibleBut (others : String) (c : Char) : Bool :=
  0x20 < c.toNat && c.toNat < 0x7F && !others.toList.contains c

/-! ### Safe characters -/

def fragmentSafe : Char → Bool := visibleBut "\"<>`"

def querySafe : Char → Bool := visibleBut "\"<>#"

def pathSafe : Char → Bool := visibleBut "\"<>#?`\x7b\x7d"

/-- A colon is safe here, between a name and a password. -/
def userSafe : Char → Bool := visibleBut "\"<>#?`\x7b\x7d/;=@[\\]^|"

def hostSafe (c : Char) : Bool := "!$&'()*+,;=\"`\x7b\x7d%|\\".toList.contains c

/-! ### Encoding -/

/-- A digit of base sixteen in upper case. -/
def upperHexDigit (n : Nat) : Char := Char.ofNat (if n < 10 then 48 + n else 55 + n)

/-- A percent sign and a byte in base sixteen. -/
def encodedByte (b : Nat) : List Char := ['%', upperHexDigit (b / 16), upperHexDigit (b % 16)]

/-- A character, itself if it is safe and else as its encoded UTF-8 bytes. -/
def quotedChar (safe : Char → Bool) (c : Char) : List Char :=
  if isUnreserved c || safe c then [c]
  else (String.utf8EncodeChar c).flatMap fun b => encodedByte b.toNat

/-- Encodes what is not safe. A percent sign before two digits of base sixteen is left, since it
encodes a byte already. -/
def quote (safe : Char → Bool) : List Char → List Char
  | '%' :: a :: b :: cs =>
    if isHexDigit a && isHexDigit b then '%' :: a :: b :: quote safe cs
    else quotedChar safe '%' ++ quote safe (a :: b :: cs)
  | c :: cs => quotedChar safe c ++ quote safe cs
  | [] => []

end CrmAutomation.Url

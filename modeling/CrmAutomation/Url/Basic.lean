import CrmAutomation.Numeric.Reading
import CrmAutomation.Text.LowerCase
import CrmAutomation.Url.Address
import CrmAutomation.Url.Label

/-!
Addresses of resources: their parts, read from a text and brought to a normal form, and the text of
an address.

The normal form has its scheme and host in lower case, names no port that the scheme implies, has no
segments of dots in its path, and has all but safe characters encoded.
-/

namespace CrmAutomation

open Text Numeric

/-- An address in its normal form. -/
structure Url where
  scheme : List Char
  user : List Char
  host : List Char
  port : Option Int
  path : List Char
  query : Option (List Char)
  fragment : Option (List Char)
  deriving DecidableEq, Repr

namespace Url

/-! ### Faults -/

/-- Why a text is no address. -/
inductive Fault where
  | tooLong
  | unprintable (c : Char) (position : Nat)
  | shortAddress (host : List Char)
  | longAddress (host : List Char)
  | name (host : List Char)
  | port (text : List Char)
  /-- A path without a scheme and a host that starts with two slashes. -/
  | startsWithSlashes
  /-- A path without a scheme and a host that starts with a colon. -/
  | startsWithColon
  | longPath
  | longQuery
  deriving DecidableEq, Repr

def quotedText (cs : List Char) : String := Literal.quoted (String.ofList cs)

def Fault.message : Fault → String
  | tooLong => "URL too long"
  | unprintable c position =>
    "Invalid non-printable ASCII character in URL, " ++ quotedText [c] ++ " at position " ++
      intText position ++ "."
  | shortAddress host => "Invalid IPv4 address: " ++ quotedText host
  | longAddress host => "Invalid IPv6 address: " ++ quotedText host
  | name host => "Invalid IDNA hostname: " ++ quotedText host
  | port text => "Invalid port: " ++ quotedText text
  | startsWithSlashes => "Relative URLs cannot have a path starting with '//'"
  | startsWithColon => "Relative URLs cannot have a path starting with ':'"
  | longPath => "URL component 'path' too long"
  | longQuery => "URL component 'query' too long"

/-- The most characters of an address, and of a part of it. -/
def lengthLimit : Nat := 65536

/-! ### Parts -/

/-- What stands before the last occurrence of a character, if there is one, and what after it. -/
def splitLast (c : Char) (cs : List Char) : Option (List Char) × List Char :=
  let after := (cs.reverse.takeWhile (· != c)).reverse
  if after.length < cs.length then (some (cs.take (cs.length - after.length - 1)), after)
  else (none, after)

def isLetter (c : Char) : Bool := ('a' ≤ c && c ≤ 'z') || ('A' ≤ c && c ≤ 'Z')

def isSchemeChar (c : Char) : Bool := isLetter c || isAsciiDigit c || "+.-".toList.contains c

/-- The scheme and what follows its colon. -/
def splitScheme (cs : List Char) : List Char × List Char :=
  let scheme := cs.takeWhile isSchemeChar
  match cs.dropWhile isSchemeChar with
  | ':' :: rest => if scheme.isEmpty || scheme.head?.any isLetter then (scheme, rest) else ([], cs)
  | _ => ([], cs)

/-- What stands after two slashes, up to the path, and what follows it. -/
def splitAuthority : List Char → List Char × List Char
  | '/' :: '/' :: rest =>
    let inside := fun c => c != '/' && c != '?' && c != '#'
    (rest.takeWhile inside, rest.dropWhile inside)
  | cs => ([], cs)

/-- The host, and the port that follows it; a host in brackets ends with the last bracket. -/
def splitPort (cs : List Char) : List Char × List Char :=
  let (host, rest) :=
    match cs, splitLast ']' cs with
    | '[' :: _, (some inside, rest) => (inside ++ [']'], rest)
    | _, _ => (cs.takeWhile (· != ':'), cs.dropWhile (· != ':'))
  match rest with
  | ':' :: port => (host, port)
  | port => (host, port)

/-- The path, the query after a question mark, and the fragment after a number sign. -/
def splitPath (cs : List Char) : List Char × Option (List Char) × Option (List Char) :=
  let path := cs.takeWhile fun c => c != '?' && c != '#'
  let fragmentOf : List Char → Option (List Char)
    | '#' :: fragment => some fragment
    | _ => none
  match cs.dropWhile fun c => c != '?' && c != '#' with
  | '?' :: rest => (path, some (rest.takeWhile (· != '#')), fragmentOf (rest.dropWhile (· != '#')))
  | rest => (path, none, fragmentOf rest)

/-! ### Normal forms of parts -/

/-- The host: a numeric address without its brackets, or a name in lower case and in ASCII. -/
def normalHost (host : List Char) : Except Fault (List Char) :=
  let lowered := (lower (String.ofList host)).toList
  if looksLikeShortAddress host then
    if isShortAddress host then .ok host else .error (.shortAddress host)
  else if host.head? == some '[' && host.getLast? == some ']' then
    let inside := (host.drop 1).dropLast
    if isLongAddress inside then .ok inside else .error (.longAddress host)
  else if Label.isAscii host then .ok (quote hostSafe lowered)
  else (Label.nameToAscii lowered).mapError fun _ => .name host

/-- The integer that a port is written as: with a sign perhaps, in digits of any script, single
underscores being allowed between them, and with blanks around it. -/
def portNumber? (text : List Char) : Option Int :=
  let trimmed := trimChars isWhiteSpace text
  match Binary64.dropInnerUnderscores? ' ' (trimmed.map Binary64.asciiDigit) with
  | none => none
  | some cs =>
    let (negative, digits) := Decimal.splitSign cs
    if !digits.isEmpty && digits.all isAsciiDigit && digits.length ≤ digitLimit then
      let n : Int := Decimal.natOfDigits digits
      some (if negative then -n else n)
    else none

/-- The ports that schemes imply. -/
def impliedPorts : List (String × Int) :=
  [("ftp", 21), ("http", 80), ("https", 443), ("ws", 80), ("wss", 443)]

/-- The port, unless it is empty or implied by the scheme as written. -/
def normalPort (scheme text : List Char) : Except Fault (Option Int) :=
  if text.isEmpty then .ok none
  else
    match portNumber? text with
    | none => .error (.port text)
    | some n =>
      .ok (if impliedPorts.contains (String.ofList scheme, n) then none else some n)

/-- Adds a segment to those of a path so far, last one first: one dot stands for nothing, and two
take the last segment away, except the empty one at the start. -/
def addSegment (before : List (List Char)) (segment : List Char) : List (List Char) :=
  if segment == ['.'] then before
  else if segment == ['.', '.'] then if before == [[]] then before else before.tail
  else segment :: before

/-- The path without segments of dots. -/
def withoutDots (path : List Char) : List Char :=
  ['/'].intercalate ((splitOn '/' path).foldl addSegment []).reverse

/-! ### Reading -/

/-- A control character. -/
def isControl (c : Char) : Bool := c.toNat < 0x20 || c.toNat == 0x7F

/-- The address that a text writes. -/
def parse (text : String) : Except Fault Url := do
  let cs := text.toList
  if lengthLimit < cs.length then throw .tooLong
  match cs.find? isControl with
  | some c => throw (.unprintable c (cs.takeWhile (· != c)).length)
  | none => pure ()
  let (scheme, afterScheme) := splitScheme cs
  let (authority, afterAuthority) := splitAuthority afterScheme
  let (path, query, fragment) := splitPath afterAuthority
  let (user, place) := splitLast '@' authority
  let (hostText, portText) := splitPort place
  let user := quote userSafe (user.getD [])
  let host ← normalHost hostText
  let port ← normalPort scheme portText
  let rooted := !scheme.isEmpty || !user.isEmpty || !host.isEmpty || port.isSome
  if !rooted && ['/', '/'].isPrefixOf path then throw .startsWithSlashes
  if !rooted && path.head? == some ':' then throw .startsWithColon
  return {
    scheme := scheme.map Binary64.lowerAscii
    user, host, port
    path := quote pathSafe (if rooted then withoutDots path else path)
    query := query.map (quote querySafe)
    fragment := fragment.map (quote fragmentSafe) }

/-- An address with a scheme and a host, which can be posted to. -/
def isAbsolute (u : Url) : Bool := !u.scheme.isEmpty && !u.host.isEmpty

/-- What an address that is not absolute comes to when there is nothing that it is relative to: its
path from the root, and its query. -/
def resolved (u : Url) : Except Fault Url :=
  if u.isAbsolute then .ok u
  else
    let path := '/' :: u.path.dropWhile (· == '/')
    if lengthLimit < path.length then .error .longPath
    else if lengthLimit < (u.query.getD []).length then .error .longQuery
    else .ok ⟨[], [], [], none, path, u.query, none⟩

/-! ### Text -/

/-- The host and the port. -/
def hostAndPort (u : Url) : List Char :=
  (if u.host.contains ':' then '[' :: u.host ++ [']'] else u.host) ++
    match u.port with
    | some n => ':' :: (intText n).toList
    | none => []

/-- The text of an address. -/
def text (u : Url) : String :=
  let authority := (if u.user.isEmpty then [] else u.user ++ ['@']) ++ u.hostAndPort
  let marked (mark : Char) : Option (List Char) → List Char
    | some cs => mark :: cs
    | none => []
  String.ofList <|
    (if u.scheme.isEmpty then [] else u.scheme ++ [':']) ++
      (if authority.isEmpty then [] else '/' :: '/' :: authority) ++
      u.path ++ marked '?' u.query ++ marked '#' u.fragment

/-! ### Hosts that cannot be named -/

/-- Why the host of an address cannot be named in a request. -/
inductive HostFault where
  | label (f : Label.Fault)
  /-- The name of a zone holds characters beyond ASCII. -/
  | beyondAscii (hostAndPort : List Char)
  deriving DecidableEq, Repr

def HostFault.message : HostFault → String
  | label f => f.message
  | beyondAscii cs =>
    let isBasic := fun c : Char => c.toNat < 0x80
    let start := (cs.takeWhile isBasic).length
    let run := (cs.drop start).takeWhile (!isBasic ·)
    let what :=
      match run with
      | [c] =>
        "character '" ++ String.ofList (Literal.codeEscape c) ++ "' in position " ++ intText start
      | _ => "characters in position " ++ intText start ++ "-" ++ intText (start + run.length - 1)
    "'ascii' codec can't encode " ++ what ++ ": ordinal not in range(128)"

/-- The fault of a host that cannot be named: one that starts with an encoded label and is no sound
name, or one beyond ASCII. -/
def hostFault? (u : Url) : Option HostFault :=
  match if Label.codePrefix.isPrefixOf u.host then Label.nameFault? u.host else none with
  | some f => some (.label f)
  | none => if Label.isAscii u.host then none else some (.beyondAscii u.hostAndPort)

end Url

end CrmAutomation

import CrmAutomation.Numeric.Reading
import CrmAutomation.Value.Basic

/-!
Values read from JSON text.

A scan turns the characters into tokens and a pushdown machine turns the tokens into a value, in
one fold over the text. A number with a point or an exponent is a double and any other is a
whole number, of a limited number of digits; the words `NaN`, `Infinity` and `-Infinity` are read
as well.
-/

namespace CrmAutomation.Json

open Numeric Text

/-! ### Tokens -/

inductive Token where
  | openList
  | closeList
  | openObject
  | closeObject
  | comma
  | colon
  | string (s : String)
  | word (cs : List Char)

/-- The characters of a string so far, last first, and the bits of a high surrogate that waits for
its low one. -/
structure Draft where
  chars : List Char := []
  high : Option Nat := none

/-- Where a scan stands: between tokens, in a word held last character first, or in a string. -/
inductive Scan where
  | between
  | word (cs : List Char)
  | string (draft : Draft)
  | escape (draft : Draft)
  /-- In an escape of a 16-bit unit: how many digits are missing, and the digits' value so far. -/
  | unit (draft : Draft) (missing value : Nat)

/-- A character that is a token by itself. -/
def punctuation? (c : Char) : Option Token :=
  if c == '[' then some .openList
  else if c == ']' then some .closeList
  else if c == '\x7b' then some .openObject
  else if c == '\x7d' then some .closeObject
  else if c == ',' then some .comma
  else if c == ':' then some .colon
  else none

def isSpace (c : Char) : Bool := c == ' ' || c == '\t' || c == '\n' || c == '\r'

/-- The value of a digit of base sixteen. -/
def hexValue? (c : Char) : Option Nat :=
  if '0' ≤ c && c ≤ '9' then some (c.toNat - 48)
  else if 'a' ≤ c && c ≤ 'f' then some (c.toNat - 87)
  else if 'A' ≤ c && c ≤ 'F' then some (c.toNat - 55)
  else none

/-- What a one-character escape stands for. -/
def escapeValue? (c : Char) : Option Char :=
  if c == '"' || c == '\\' || c == '/' then some c
  else if c == 'n' then some '\n'
  else if c == 'r' then some '\r'
  else if c == 't' then some '\t'
  else if c == 'b' then some (Char.ofNat 0x8)
  else if c == 'f' then some (Char.ofNat 0xC)
  else none

/-- The characters so far; a surrogate without a partner is replaced. -/
def Draft.settled (d : Draft) : List Char :=
  match d.high with
  | none => d.chars
  | some _ => '\uFFFD' :: d.chars

def Draft.push (d : Draft) (c : Char) : Draft := { chars := c :: d.settled }

/-- Adds a 16-bit unit; a low surrogate completes the high one before it. -/
def Draft.pushUnit (d : Draft) (n : Nat) : Draft :=
  if 0xD800 ≤ n && n < 0xDC00 then { chars := d.settled, high := some (n - 0xD800) }
  else if 0xDC00 ≤ n && n < 0xE000 then
    match d.high with
    | some h => { chars := Char.ofNat (0x10000 + h * 0x400 + (n - 0xDC00)) :: d.chars }
    | none => d.push '\uFFFD'
  else d.push (Char.ofNat n)

/-- One character of the scan: the tokens it completes and where the scan stands after it. -/
def scanChar (st : Scan) (c : Char) : Option (List Token × Scan) :=
  match st with
  | .between =>
    if isSpace c then some ([], .between)
    else if c == '"' then some ([], .string {})
    else
      match punctuation? c with
      | some t => some ([t], .between)
      | none => some ([], .word [c])
  | .word cs =>
    if isSpace c then some ([.word cs.reverse], .between)
    else if c == '"' then some ([.word cs.reverse], .string {})
    else
      match punctuation? c with
      | some t => some ([.word cs.reverse, t], .between)
      | none => some ([], .word (c :: cs))
  | .string d =>
    if c == '"' then some ([.string (String.ofList d.settled.reverse)], .between)
    else if c == '\\' then some ([], .escape d)
    else if c.toNat < 0x20 then none
    else some ([], .string (d.push c))
  | .escape d =>
    if c == 'u' then some ([], .unit d 4 0)
    else (escapeValue? c).map fun e => ([], .string (d.push e))
  | .unit d missing value =>
    (hexValue? c).map fun h =>
      let v := value * 16 + h
      if missing ≤ 1 then ([], .string (d.pushUnit v)) else ([], .unit d (missing - 1) v)

/-! ### Words -/

/-- The word is written like a number: no sign but a minus, no leading zero, digits on both sides
of a point. -/
def isNumber (cs : List Char) : Bool :=
  let body := if cs.head? == some '-' then cs.tail else cs
  let whole := body.takeWhile isAsciiDigit
  let rest := body.dropWhile isAsciiDigit
  let leading := whole.head? == some '0' && 1 < whole.length
  let fraction :=
    match rest with
    | '.' :: d :: _ => isAsciiDigit d
    | '.' :: [] => false
    | _ => true
  !whole.isEmpty && !leading && fraction

/-- The value of a word. -/
def wordValue? (cs : List Char) : Option Value :=
  let w := String.ofList cs
  if w == "null" then some .null
  else if w == "true" then some (.bool true)
  else if w == "false" then some (.bool false)
  else if w == "NaN" then some (.float Binary64.noNumber)
  else if w == "Infinity" then some (.float (.infinite false))
  else if w == "-Infinity" then some (.float (.infinite true))
  else if isNumber cs then
    let (negative, body) := Decimal.splitSign cs
    if body.all isAsciiDigit then
      let n : Int := Decimal.natOfDigits body
      if digitLimit < body.length then none
      else some (.int (if negative then -n else n))
    else (Decimal.ofChars? cs).map fun d => .float d.toBinary64
  else none

/-! ### Values -/

/-- A container under construction: items last first, or the fields so far and the next key. -/
inductive Frame where
  | list (items : List Value)
  | object (fields : Fields) (key : String)

/-- What the machine expects next. -/
inductive Expect where
  | value
  | firstItem
  | firstKey
  | key
  | colon
  | delimiter
  | nothing (result : Value)

structure Machine where
  stack : List Frame
  expect : Expect

/-- A value is complete: it goes into the innermost container, or is the result. -/
def Machine.deliver (stack : List Frame) (v : Value) : Machine :=
  match stack with
  | [] => ⟨[], .nothing v⟩
  | .list items :: rest => ⟨.list (v :: items) :: rest, .delimiter⟩
  | .object fields key :: rest => ⟨.object (fields.insert key v) key :: rest, .delimiter⟩

/-- One token; none where it is not allowed. -/
def Machine.step (m : Machine) (t : Token) : Option Machine :=
  match m.expect, t with
  | .value, .word cs | .firstItem, .word cs => (wordValue? cs).map (deliver m.stack)
  | .value, .string s | .firstItem, .string s => some (deliver m.stack (.text s))
  | .value, .openList | .firstItem, .openList => some ⟨.list [] :: m.stack, .firstItem⟩
  | .value, .openObject | .firstItem, .openObject => some ⟨.object [] "" :: m.stack, .firstKey⟩
  | .firstItem, .closeList => some (deliver m.stack.tail (.list []))
  | .firstKey, .closeObject => some (deliver m.stack.tail (.object []))
  | .firstKey, .string s | .key, .string s =>
    match m.stack with
    | .object fields _ :: rest => some ⟨.object fields s :: rest, .colon⟩
    | _ => none
  | .colon, .colon => some ⟨m.stack, .value⟩
  | .delimiter, .comma =>
    match m.stack with
    | .list _ :: _ => some ⟨m.stack, .value⟩
    | .object _ _ :: _ => some ⟨m.stack, .key⟩
    | [] => none
  | .delimiter, .closeList =>
    match m.stack with
    | .list items :: rest => some (deliver rest (.list items.reverse))
    | _ => none
  | .delimiter, .closeObject =>
    match m.stack with
    | .object fields _ :: rest => some (deliver rest (.object fields))
    | _ => none
  | _, _ => none

/-- The scan and the machine together, one character on. -/
def feed (st : Scan × Machine) (c : Char) : Option (Scan × Machine) :=
  match scanChar st.1 c with
  | none => none
  | some (ts, scan) => (ts.foldlM Machine.step st.2).map (scan, ·)

/-- The end of the text completes a last word. -/
def finish (st : Scan × Machine) : Option Machine :=
  match st.1 with
  | .between => some st.2
  | .word cs => st.2.step (.word cs.reverse)
  | _ => none

/-- The value that a JSON text writes. -/
def parse? (s : String) : Option Value :=
  match (s.toList.foldlM feed (.between, ⟨[], .value⟩)).bind finish with
  | some ⟨_, .nothing v⟩ => some v
  | _ => none

end CrmAutomation.Json

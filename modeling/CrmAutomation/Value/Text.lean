import CrmAutomation.Numeric.Shortest
import CrmAutomation.Text.Printable
import CrmAutomation.Value.Basic

/-!
Texts of values: JSON, in which templates insert lists and objects, and the literal form, in which
a condition's target is compared and messages quote a value.

The forms are those of integers of any size. What templates and conditions write has a text only if
its integers are within the limit, those inside lists and objects included.

Elsewhere one bound is taken for granted: the integers of rows, of their identifiers and of what is
logged are within the limit, as those of every JSON text that can be read. Messages about rows, the
order of a column of mixed kinds and the lines of the log write the forms.
-/

namespace CrmAutomation

open Numeric Text

/-! ### Hexadecimal -/

/-- A digit of base sixteen. -/
def hexDigit (n : Nat) : Char := Char.ofNat (if n < 10 then 48 + n else 87 + n)

/-- The lowest `width` digits of base sixteen. -/
def hexDigits (width n : Nat) : List Char :=
  (List.range width).reverse.map fun i => hexDigit (n / Nat.pow 16 i % 16)

/-! ### JSON -/

namespace Json

/-- An escape of one 16-bit unit. -/
def unitEscape (n : Nat) : List Char := '\\' :: 'u' :: hexDigits 4 n

/-- A character inside a JSON string; beyond ASCII as escapes of its 16-bit units. -/
def escaped (c : Char) : List Char :=
  if c == '"' then ['\\', '"']
  else if c == '\\' then ['\\', '\\']
  else if c == '\n' then ['\\', 'n']
  else if c == '\r' then ['\\', 'r']
  else if c == '\t' then ['\\', 't']
  else if c.toNat == 0x8 then ['\\', 'b']
  else if c.toNat == 0xC then ['\\', 'f']
  else if 0x20 ≤ c.toNat && c.toNat < 0x7F then [c]
  else if c.toNat < 0x10000 then unitEscape c.toNat
  else
    let n := c.toNat - 0x10000
    unitEscape (0xD800 + n / 0x400) ++ unitEscape (0xDC00 + n % 0x400)

/-- A quoted JSON string. -/
def quoted (s : String) : String := String.ofList ('"' :: s.toList.flatMap escaped ++ ['"'])

mutual

/-- JSON on one line: a blank after each comma and colon, only ASCII characters, and integers of any
size. -/
def render : Value → String
  | .null => "null"
  | .bool b => if b then "true" else "false"
  | .int n => intText n
  | .float x => jsonFloats.render x
  | .text s => quoted s
  | .list xs => "[" ++ ", ".intercalate (renderList xs) ++ "]"
  | .object fs => "\x7b" ++ ", ".intercalate (renderFields fs) ++ "\x7d"

def renderList : List Value → List String
  | [] => []
  | x :: xs => render x :: renderList xs

def renderFields : Fields → List String
  | [] => []
  | (k, x) :: fs => (quoted k.asText ++ ": " ++ render x) :: renderFields fs

end

end Json

/-! ### Literal form -/

namespace Literal

/-- The escape of a character by its code point. -/
def codeEscape (c : Char) : List Char :=
  if c.toNat < 0x100 then '\\' :: 'x' :: hexDigits 2 c.toNat
  else if c.toNat < 0x10000 then '\\' :: 'u' :: hexDigits 4 c.toNat
  else '\\' :: 'U' :: hexDigits 8 c.toNat

/-- A character inside a quoted literal; the quote in use and what cannot be shown are escaped. -/
def escaped (quote c : Char) : List Char :=
  if c == quote || c == '\\' then ['\\', c]
  else if c == '\n' then ['\\', 'n']
  else if c == '\r' then ['\\', 'r']
  else if c == '\t' then ['\\', 't']
  else if isPrintable c then [c]
  else codeEscape c

/-- Double quotes stand around a text that holds single ones and no double ones. -/
def quoteFor (cs : List Char) : Char :=
  if cs.contains '\'' && !cs.contains '"' then '"' else '\''

/-- A quoted text. -/
def quoted (s : String) : String :=
  let cs := s.toList
  let q := quoteFor cs
  String.ofList (q :: cs.flatMap (escaped q) ++ [q])

/-- A key as a literal. -/
def renderKey : Key → String
  | .text s => quoted s
  | .null => "None"
  | .bool b => if b then "True" else "False"
  | .int n => intText n
  | .float x => plainFloats.render x

mutual

/-- A value as a literal, with integers of any size. -/
def render : Value → String
  | .null => "None"
  | .bool b => if b then "True" else "False"
  | .int n => intText n
  | .float x => plainFloats.render x
  | .text s => quoted s
  | .list xs => "[" ++ ", ".intercalate (renderList xs) ++ "]"
  | .object fs => "\x7b" ++ ", ".intercalate (renderFields fs) ++ "\x7d"

def renderList : List Value → List String
  | [] => []
  | x :: xs => render x :: renderList xs

def renderFields : Fields → List String
  | [] => []
  | (k, x) :: fs => (renderKey k ++ ": " ++ render x) :: renderFields fs

end

end Literal

namespace Value

/-- The literal form, but a text stands for itself. -/
def literalForm : Value → String
  | .text s => s
  | v => Literal.render v

/-- The form in which a template inserts a value: texts as they are, lists and objects as JSON,
doubles without a fraction as integers, truth values in lower case. -/
def insertedForm : Value → String
  | .bool b => if b then "true" else "false"
  | .float x =>
    match (if x.isWhole then x.truncate? else none) with
    | some n => intText n
    | none => plainFloats.render x
  | .list xs => Json.render (.list xs)
  | .object fs => Json.render (.object fs)
  | v => v.literalForm

/-! ### Values that have a text -/

mutual

/-- No integer in the value, be it a key, has more digits than are written. -/
def hasText : Value → Bool
  | .int n => Numeric.hasText n
  | .list xs => haveText xs
  | .object fs => fieldsHaveText fs
  | _ => true

def haveText : List Value → Bool
  | [] => true
  | x :: xs => hasText x && haveText xs

def fieldsHaveText : Fields → Bool
  | [] => true
  | (k, x) :: fs => k.hasText && hasText x && fieldsHaveText fs

end

/-- An integer in a value has too many digits to be written. -/
structure Textless where
  deriving DecidableEq, Repr

def Textless.message (_ : Textless) : String :=
  "Exceeds the limit (" ++ intText digitLimit ++
    " digits) for integer string conversion; use sys.set_int_max_str_digits() to increase the limit"

/-- The text of a value. -/
def literal (v : Value) : Except Textless String :=
  if v.hasText then .ok v.literalForm else .error {}

/-- What a template inserts for a value. -/
def inserted (v : Value) : Except Textless String :=
  if v.hasText then .ok v.insertedForm else .error {}

theorem literal_of_hasText {v : Value} (h : v.hasText = true) : v.literal = .ok v.literalForm :=
  if_pos h

theorem inserted_of_hasText {v : Value} (h : v.hasText = true) :
    v.inserted = .ok v.insertedForm :=
  if_pos h

theorem inserted_eq_ok_iff {v : Value} {s : String} :
    v.inserted = .ok s ↔ v.hasText = true ∧ v.insertedForm = s := by
  unfold inserted
  split
  · rename_i h
    rw [Except.ok.injEq, and_iff_right h]
  · rename_i h
    exact iff_of_false (fun hs => by cases hs) fun hs => h hs.1

theorem literal_of_textless {v : Value} (h : v.hasText = false) : v.literal = .error {} :=
  if_neg (Bool.eq_false_iff.mp h)

theorem inserted_of_textless {v : Value} (h : v.hasText = false) : v.inserted = .error {} :=
  if_neg (Bool.eq_false_iff.mp h)

end Value

end CrmAutomation

import CrmAutomation.Template.Path

/-!
Templates: texts with tokens of the form `{{path}}`, which stand for the value at the path.

A token that leads nowhere stays as it is, and what is inserted is never read again. A text fails
to expand where the path of a token fails, or leads to a value without a text.
-/

namespace CrmAutomation

open Text

namespace Template

/-- A part of a template. -/
inductive Piece where
  | char (c : Char)
  | token (path : List Char)
  deriving DecidableEq, Repr

/-- Two opening and two closing braces around a path. -/
def written (path : List Char) : List Char :=
  '\x7b' :: '\x7b' :: path ++ ['\x7d', '\x7d']

/-- The path of the token that the text starts with: all up to the first closing brace. -/
def tokenAt? : List Char → Option (List Char)
  | '\x7b' :: '\x7b' :: cs =>
    let path := cs.takeWhile (· != '\x7d')
    match cs.dropWhile (· != '\x7d') with
    | '\x7d' :: '\x7d' :: _ => if path.isEmpty then none else some path
    | _ => none
  | _ => none

/-- The pieces of a text, of which the first `skip` characters belong to a token before it. -/
def piecesFrom (skip : Nat) : List Char → List Piece
  | [] => []
  | c :: cs =>
    match skip with
    | n + 1 => piecesFrom n cs
    | 0 =>
      match tokenAt? (c :: cs) with
      | some path => .token path :: piecesFrom (path.length + 3) cs
      | none => .char c :: piecesFrom 0 cs

/-- The pieces of a text, tokens found from left to right. -/
def pieces (cs : List Char) : List Piece := piecesFrom 0 cs

/-- Why a template has no expansion. -/
inductive Fault where
  /-- The path of a token fails. -/
  | path (f : PathFault)
  /-- A value has no text. -/
  | text (f : Value.Textless)
  deriving DecidableEq, Repr

def Fault.message : Fault → String
  | path f => f.message
  | text f => f.message

/-- What takes the place of the token of a path: the text of the value that the path leads to, or
the token itself where there is none. -/
def replacement (path : List Char) : Value → Except Fault (List Char)
  | .null => .ok (written path)
  | v => (v.inserted.mapError .text).map String.toList

theorem replacement_of_hasText {path : List Char} {v : Value} (hv : v ≠ .null)
    (h : v.hasText = true) : replacement path v = .ok v.insertedForm.toList := by
  unfold replacement
  split
  · exact absurd rfl hv
  · rw [Value.inserted_of_hasText h]
    rfl

theorem replacement_of_textless {path : List Char} {v : Value} (h : v.hasText = false) :
    replacement path v = .error (.text {}) := by
  unfold replacement
  split
  · cases h
  · rw [Value.inserted_of_textless h]
    rfl

/-- What a piece becomes. -/
def Piece.expand (scope : Value) : Piece → Except Fault (List Char)
  | .char c => .ok [c]
  | .token path => do replacement path (← (scope.lookupChars path).mapError .path)

/-- The pieces expanded in order; the first failing token fails the whole. -/
def expandAll (scope : Value) : List Piece → Except Fault (List Char)
  | [] => .ok []
  | p :: ps => do
    let cs ← p.expand scope
    let rest ← expandAll scope ps
    .ok (cs ++ rest)

/-- The text with every token expanded. -/
def expand (scope : Value) (s : String) : Except Fault String :=
  (expandAll scope (pieces s.toList)).map String.ofList

/-- The path of a text that is one token and nothing else. -/
def loneToken? (cs : List Char) : Option (List Char) :=
  match tokenAt? cs with
  | some path => if cs.length = path.length + 4 then some path else none
  | none => none

end Template

namespace Value

/-- A text is expanded as a template; anything else stays. -/
def expand (scope : Value) : Value → Except Template.Fault Value
  | .text s => (Template.expand scope s).map .text
  | v => .ok v

/-- Like `expand`, but a text that is one token, blanks aside, becomes the value itself. -/
def resolve (scope : Value) : Value → Except Template.Fault Value
  | .text s =>
    match Template.loneToken? (trimChars isBlank s.toList) with
    | some path => do
      let v ← (scope.lookupChars path).mapError .path
      if v = .null then expand scope (.text s) else .ok v
    | none => expand scope (.text s)
  | v => .ok v

mutual

/-- Expands every text in a tree; keys stay. -/
def expandDeep (scope : Value) : Value → Except Template.Fault Value
  | .text s => (Template.expand scope s).map .text
  | .list xs => (expandDeepList scope xs).map .list
  | .object fs => (expandDeepFields scope fs).map .object
  | v => .ok v
termination_by structural v => v

def expandDeepList (scope : Value) : List Value → Except Template.Fault (List Value)
  | [] => .ok []
  | x :: xs => do
    let y ← expandDeep scope x
    let ys ← expandDeepList scope xs
    .ok (y :: ys)
termination_by structural xs => xs

def expandDeepFields (scope : Value) : Fields → Except Template.Fault Fields
  | [] => .ok []
  | p :: fs => do
    let y ← expandDeepField scope p
    let ys ← expandDeepFields scope fs
    .ok (y :: ys)
termination_by structural fs => fs

def expandDeepField (scope : Value) : Key × Value → Except Template.Fault (Key × Value)
  | (k, x) => do
    let y ← expandDeep scope x
    .ok (k, y)
termination_by structural p => p

end

end Value

end CrmAutomation

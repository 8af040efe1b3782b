import CrmAutomation.Text.Blank

/-!
Environment files: lines of the form `NAME=value`.

A value may be quoted, a name may be preceded by the word `export`, a `#` starts a comment, and
`${NAME}` and `${NAME:-default}` stand for the value of another variable. A line that cannot be
read is passed over.
-/

namespace CrmAutomation.EnvFile

open Text

/-- A blank within a line. -/
def isInlineBlank (c : Char) : Bool := isBlank c && c != '\n'

/-- Drops blanks up to the end of the line. -/
def skipBlanks (cs : List Char) : List Char := cs.dropWhile isInlineBlank

/-- The rest of the line. -/
def restOfLine (cs : List Char) : List Char := cs.takeWhile (· != '\n')

/-- What follows the line. -/
def skipLine (cs : List Char) : List Char := (cs.dropWhile (· != '\n')).drop 1

/-- The text with a line feed at the end of each line, in place of a carriage return or of both. -/
def unifyLineEnds : List Char → List Char
  | [] => []
  | '\r' :: '\n' :: cs => '\n' :: unifyLineEnds cs
  | c :: cs => (if c == '\r' then '\n' else c) :: unifyLineEnds cs

/-! ### Quoted values -/

/-- A quoted value and what follows its closing quote. A backslash keeps the character after it from
closing the value. -/
def closeQuote? (quote : Char) : List Char → Option (List Char × List Char)
  | [] => none
  | [c] => if c == quote then some ([], []) else none
  | c :: d :: ds =>
    if c == quote then some ([], d :: ds)
    else if c == '\\' then (closeQuote? quote ds).map fun p => (c :: d :: p.1, p.2)
    else (closeQuote? quote (d :: ds)).map fun p => (c :: p.1, p.2)

/-- What an escape in single quotes stands for. -/
def singleEscape? (c : Char) : Option Char :=
  if c == '\\' || c.toNat == 39 then some c else none

/-- What an escape in double quotes stands for. -/
def doubleEscape? (c : Char) : Option Char :=
  if c == '\\' || c.toNat == 39 || c.toNat == 34 then some c
  else if c == 'a' then some (Char.ofNat 7)
  else if c == 'b' then some (Char.ofNat 8)
  else if c == 'f' then some (Char.ofNat 12)
  else if c == 'n' then some '\n'
  else if c == 'r' then some '\r'
  else if c == 't' then some '\t'
  else if c == 'v' then some (Char.ofNat 11)
  else none

/-- Replaces the escapes of a quoted value. -/
def unescape (escape? : Char → Option Char) : List Char → List Char
  | [] => []
  | '\\' :: c :: cs =>
    match escape? c with
    | some d => d :: unescape escape? cs
    | none => '\\' :: unescape escape? (c :: cs)
  | c :: cs => c :: unescape escape? cs

/-! ### Lines -/

/-- Cuts a comment off an unquoted value: a `#` after a blank and all that follows. -/
def cutComment (before : Char) : List Char → List Char
  | [] => []
  | c :: cs => if c == '#' && isBlank before then [] else c :: cutComment c cs

/-- The value after the equals sign and its blanks, of which `before` is the last, and the rest. -/
def value? (before : Char) (cs : List Char) : Option (List Char × List Char) :=
  match cs with
  | [] => some ([], [])
  | c :: rest =>
    if c.toNat == 39 then
      (closeQuote? c rest).map fun p => (unescape singleEscape? p.1, p.2)
    else if c.toNat == 34 then
      (closeQuote? c rest).map fun p => (unescape doubleEscape? p.1, p.2)
    else
      let kept := cutComment before (restOfLine cs)
      some ((kept.reverse.dropWhile isBlank).reverse, cs.dropWhile (· != '\n'))

/-- The name at the start of a line, none before a comment, and the rest. -/
def name? (cs : List Char) : Option (Option (List Char) × List Char) :=
  match cs with
  | [] => none
  | c :: rest =>
    if c == '#' then some (none, cs)
    else if c.toNat == 39 then
      match rest.dropWhile (· != c) with
      | _ :: after =>
        let name := rest.takeWhile (· != c)
        if name.isEmpty then none else some (some name, after)
      | [] => none
    else
      let inName := fun d => !(d == '=' || d == '#' || isBlank d)
      let name := cs.takeWhile inName
      if name.isEmpty then none else some (some name, cs.dropWhile inName)

/-- Drops the word `export` before a name. -/
def skipExport (cs : List Char) : List Char :=
  let word := "export".toList
  if word.isPrefixOf cs then
    let rest := cs.drop word.length
    match rest with
    | c :: _ => if isInlineBlank c then skipBlanks rest else cs
    | [] => cs
  else cs

/-- Drops a comment and the end of the line; none if anything else stands there. -/
def endLine? (cs : List Char) : Option (List Char) :=
  match skipBlanks cs with
  | [] => some []
  | c :: rest => if c == '#' || c == '\n' then some (skipLine (c :: rest)) else none

/-- A name and, after an equals sign, its value. -/
abbrev Binding := List Char × Option (List Char)

/-- What an equals sign gives, if there is one, and the rest; none for a quote left open. -/
def assigned? : List Char → Option (Option (List Char) × List Char)
  | '=' :: cs =>
    let before := ('=' :: cs.takeWhile isInlineBlank).getLast?.getD '='
    (value? before (skipBlanks cs)).map fun p => (some p.1, p.2)
  | cs => some (none, cs)

/-- The line that a text starts with: what it binds, and what follows it. A comment binds nothing,
nor does a line that cannot be read; such a line ends where the first line after the last part
that can be read does. -/
def line (cs : List Char) : Option Binding × List Char :=
  match name? (skipExport cs) with
  | none => (none, skipLine cs)
  | some (name, cs) =>
    match assigned? (skipBlanks cs) with
    | none => (none, skipLine cs)
    | some (value, cs) =>
      match endLine? cs with
      | some rest => (name.map (·, value), rest)
      | none => (none, skipLine cs)

/-- The bindings of a text in order; `fuel` bounds the number of lines. -/
def bindingsWithin (fuel : Nat) (cs : List Char) : List Binding :=
  match fuel with
  | 0 => []
  | fuel + 1 =>
    match cs.dropWhile isBlank with
    | [] => []
    | body =>
      let (bound, rest) := line body
      bound.toList ++ bindingsWithin fuel rest

/-- The bindings of a text in order. Every line has at least one character. -/
def bindings (cs : List Char) : List Binding := bindingsWithin (cs.length + 1) cs

/-! ### References to other variables -/

/-- Variables and their values; a file may name a variable and give it none. -/
abbrev Variables := List (String × Option String)

/-- The variables after one of them is bound, which keeps its place if it was bound before. -/
def Variables.bind (vs : Variables) (name : String) (value : Option String) : Variables :=
  if vs.any (·.1 == name) then vs.map fun p => if p.1 == name then (name, value) else p
  else vs ++ [(name, value)]

/-- The reference that a text starts with: what it stands for, and its length. A variable without a
value stands for nothing, a default is for one that is not bound. -/
def reference? (vs : Variables) : List Char → Option (List Char × Nat)
  | '$' :: '\x7b' :: cs =>
    let inName := fun c => c != '\x7d' && c != ':'
    let name := cs.takeWhile inName
    let value := fun (default : List Char) =>
      match vs.lookup (String.ofList name) with
      | some v => (v.getD "").toList
      | none => default
    match cs.dropWhile inName with
    | '\x7d' :: _ => some (value [], name.length + 3)
    | ':' :: '-' :: ds =>
      let default := ds.takeWhile (· != '\x7d')
      if (ds.dropWhile (· != '\x7d')).isEmpty then none
      else some (value default, name.length + default.length + 5)
    | _ => none
  | _ => none

/-- Replaces references in a text, of which the first `skip` characters belong to one already. -/
def interpolateFrom (vs : Variables) (skip : Nat) : List Char → List Char
  | [] => []
  | c :: cs =>
    match skip with
    | n + 1 => interpolateFrom vs n cs
    | 0 =>
      match reference? vs (c :: cs) with
      | some (v, n) => v ++ interpolateFrom vs (n - 1) cs
      | none => c :: interpolateFrom vs 0 cs

/-- The characters of a file, without the mark of byte order that it may start with. -/
def characters (s : String) : List Char :=
  match s.toList with
  | '\uFEFF' :: cs => cs
  | cs => cs

/-- The variables that a text sets, given those of the environment. -/
def read (environment : Variables) (s : String) : Variables :=
  let step := fun (set : Variables) (b : Binding) =>
    set.bind (String.ofList b.1)
      (b.2.map fun v => String.ofList (interpolateFrom (set ++ environment) 0 v))
  (bindings (unifyLineEnds (characters s))).foldl step []

end CrmAutomation.EnvFile

import CrmAutomation.Settings.Basic
import CrmAutomation.Text.Search

/-!
Which log calls become lines.

A line appears if its level reaches both the configured one and that of its logger, which is the
level of the nearest configured logger above it in the dotted hierarchy.
-/

namespace CrmAutomation.Log

open Text

/-- Why a level name cannot be used. -/
inductive LevelFault where
  /-- The name is reserved for a text. -/
  | reservedText
  /-- The name is reserved for a table. -/
  | reservedTable
  deriving DecidableEq, Repr

/-- A letter in upper case, for the letters whose upper case is ASCII. -/
def upperChars (c : Char) : List Char :=
  if 'a' ≤ c && c ≤ 'z' then [Char.ofNat (c.toNat - 32)]
  else if c == 'ı' then ['I']
  else if c == 'ſ' then ['S']
  else if c == 'ß' then ['S', 'S']
  else if c == '\uFB00' then ['F', 'F']
  else if c == '\uFB01' then ['F', 'I']
  else if c == '\uFB02' then ['F', 'L']
  else if c == '\uFB03' then ['F', 'F', 'I']
  else if c == '\uFB04' then ['F', 'F', 'L']
  else if c == '\uFB05' || c == '\uFB06' then ['S', 'T']
  else [c]

/-- The weight that a level name sets; an unknown name means `INFO`. -/
def threshold (name : String) : Except LevelFault Nat :=
  let upper := String.ofList (name.toList.flatMap upperChars)
  if upper == "CRITICAL" || upper == "FATAL" then .ok 50
  else if upper == "ERROR" then .ok 40
  else if upper == "WARNING" || upper == "WARN" then .ok 30
  else if upper == "DEBUG" then .ok 10
  else if upper == "NOTSET" then .ok 0
  else if upper == "BASIC_FORMAT" then .error .reservedText
  else if upper == "_STYLES" then .error .reservedTable
  else .ok 20

/-- The least weight of each configured logger. -/
structure Configuration where
  root : Nat
  loggers : List (String × Nat)
  deriving DecidableEq, Repr

/-- Why logging cannot be configured. -/
inductive ConfigurationFault where
  | file (f : Directory.Fault)
  | level (f : LevelFault)
  deriving DecidableEq, Repr

/-- Opens the file that lines are written to, if there is one, among directories. -/
def openFile (s : Settings) (made : List Directory.Place) : Except Directory.Fault Unit :=
  match s.logFile with
  | none => .ok ()
  | some path =>
    if path.isEmpty then .ok ()
    else
      (Directory.make [] made path.toList).bind fun made => Directory.openFile made path.toList

/-- Opens the file, sets the levels, and quiets the chatter of the database driver and of the mail
client. -/
def configure (s : Settings) (made : List Directory.Place) :
    Except ConfigurationFault Configuration := do
  (openFile s made).mapError .file
  let root ← (threshold s.logLevel).mapError .level
  .ok {
    root
    loggers := [
      ("aiosqlite", 30), ("sqlalchemy.engine", if s.databaseEcho then 20 else 30),
      ("httpx", 30), ("httpcore", 30), ("sqlalchemy", 30)] }

namespace Configuration

/-- A logger's name and those above it, nearest first. -/
def ancestors (name : String) : List String :=
  let parts := splitOn '.' name.toList
  (List.range parts.length).map fun i =>
    ".".intercalate ((parts.take (parts.length - i)).map String.ofList)

/-- The level of a logger. -/
def levelOf (c : Configuration) (name : String) : Nat :=
  match (ancestors name).findSome? fun a => c.loggers.find? (·.1 == a) with
  | some p => p.2
  | none => c.root

/-- The logger has a level of its own, not that of the root. -/
def ownLevel? (c : Configuration) (name : String) : Option Nat :=
  (c.loggers.find? (·.1 == name)).map (·.2)

end Configuration

end CrmAutomation.Log

import CrmAutomation.Numeric.Shortest
import CrmAutomation.Text.Blank
import CrmAutomation.Text.Search

/-!
What can be wrong with authored data: a place in it and a complaint.

All issues of a datum are reported together, in the order of its fields.
-/

namespace CrmAutomation.Schema

inductive Complaint where
  | missing
  | notText
  | notInteger
  | unreadableInteger
  | fractional
  | notFinite
  | hugeInteger
  | notNumber
  | unreadableNumber
  | notBool
  | unreadableBool
  | notList
  | notObject
  /-- Neither an object nor a record of the named kind. -/
  | notRecord (kind : String)
  | below (bound : Nat)
  | notAbove (bound : Nat)
  | above (bound : Nat)
  /-- None of the named choices, of which there are at least two. -/
  | noChoice (first : String) (middle : List String) (last : String)
  /-- A rule of the domain is broken. -/
  | rule (text : String)
  deriving DecidableEq, Repr

/-- A name in single quotes. -/
def ticked (s : String) : String := "'" ++ s ++ "'"

def Complaint.message : Complaint → String
  | missing => "Field required"
  | notText => "Input should be a valid string"
  | notInteger => "Input should be a valid integer"
  | unreadableInteger => "Input should be a valid integer, unable to parse string as an integer"
  | fractional => "Input should be a valid integer, got a number with a fractional part"
  | notFinite => "Input should be a finite number"
  | hugeInteger => "Unable to parse input string as an integer, exceeded maximum size"
  | notNumber => "Input should be a valid number"
  | unreadableNumber => "Input should be a valid number, unable to parse string as a number"
  | notBool => "Input should be a valid boolean"
  | unreadableBool => "Input should be a valid boolean, unable to interpret input"
  | notList => "Input should be a valid list"
  | notObject => "Input should be a valid dictionary"
  | notRecord kind => "Input should be a valid dictionary or instance of " ++ kind
  | below bound => "Input should be greater than or equal to " ++ Numeric.intText bound
  | notAbove bound => "Input should be greater than " ++ Numeric.intText bound
  | above bound => "Input should be less than or equal to " ++ Numeric.intText bound
  | noChoice first middle last =>
    "Input should be " ++ ", ".intercalate ((first :: middle).map ticked) ++ " or " ++ ticked last
  | rule text => "Value error, " ++ text

/-- A complaint about a place, given as the path to it. -/
structure Issue where
  place : List String
  complaint : Complaint
  deriving DecidableEq, Repr

namespace Issue

/-- The place, its parts joined by points. -/
def placeText (i : Issue) : String := ".".intercalate i.place

/-- Place and message, without outer blanks. -/
def text (i : Issue) : String := Text.trim (i.placeText ++ " " ++ i.complaint.message)

/-- The same complaint, one level further in. -/
def within (part : String) (i : Issue) : Issue := { i with place := part :: i.place }

end Issue

/-- At least one issue. -/
structure Issues where
  first : Issue
  rest : List Issue := []
  deriving DecidableEq, Repr

namespace Issues

def toList (is : Issues) : List Issue := is.first :: is.rest

def append (a b : Issues) : Issues := ⟨a.first, a.rest ++ b.toList⟩

def within (part : String) (is : Issues) : Issues :=
  ⟨is.first.within part, is.rest.map (·.within part)⟩

/-- All issues on one line. -/
def text (is : Issues) : String := " | ".intercalate (is.toList.map (·.text))

end Issues

/-- A datum read from a value, or all that is wrong with the value. -/
inductive Checked (α : Type) where
  | ok (a : α)
  | refused (issues : Issues)
  deriving DecidableEq, Repr

namespace Checked

variable {α β : Type}

def map (f : α → β) : Checked α → Checked β
  | ok a => ok (f a)
  | refused is => refused is

/-- Applies a function that was read to an argument that was read; the issues of both count. -/
def ap : Checked (α → β) → Checked α → Checked β
  | ok f, ok a => ok (f a)
  | ok _, refused is => refused is
  | refused is, ok _ => refused is
  | refused is, refused js => refused (is.append js)

instance : Applicative Checked where
  pure := ok
  map := map
  seq f x := ap f (x ())

/-- A further check of what was read. -/
def bind (x : Checked α) (f : α → Checked β) : Checked β :=
  match x with
  | ok a => f a
  | refused is => refused is

def fail (c : Complaint) : Checked α := refused ⟨⟨[], c⟩, []⟩

/-- Issues are placed one level further in. -/
def within (part : String) : Checked α → Checked α
  | ok a => ok a
  | refused is => refused (is.within part)

def isOk : Checked α → Bool
  | ok _ => true
  | refused _ => false

end Checked

end CrmAutomation.Schema

import CrmAutomation.Text.Search

/-!
Directories that files need, made on the way along a path.

Only places below the working directory are kept track of. Making a directory fails where a file is
in the way, and where the file system does not take a name.
-/

namespace CrmAutomation.Directory

open Text

/-- A place below the working directory, innermost name first. -/
abbrev Place := List (List Char)

/-- Why a directory is not made, or a file not opened. -/
inductive Fault where
  /-- A file has the name of the directory. -/
  | fileExists
  /-- The path leads through a file. -/
  | throughFile
  /-- The file is a directory. -/
  | isDirectory
  | nameTooLong
  /-- A name holds the character of code 0. -/
  | nullCharacter
  deriving DecidableEq, Repr

/-- The names on a path, those that count. -/
def names (path : List Char) : List (List Char) :=
  (splitOn '/' path).filter fun p => !p.isEmpty && p != ['.']

def isAbsolute (path : List Char) : Bool := path.head? == some '/'

/-- One name further on; none where the way leads out of the working directory. -/
def enter (here : Option Place) (name : List Char) : Option Place :=
  match here with
  | none => none
  | some dirs =>
    if name == ['.', '.'] then
      match dirs with
      | [] => none
      | _ :: outer => some outer
    else some (name :: dirs)

/-- The bytes of a name. -/
def size (name : List Char) : Nat := (String.ofList name).utf8ByteSize

/-- The most bytes of a name. -/
def nameLimit : Nat := 255

/-- The most bytes of a path. -/
def pathLimit : Nat := 4095

/-- Makes the directories on the way along names. `anew` says that some were made already: then the
directory before a file is met by itself, and not on the way to another. -/
def makeFrom (files : List Place) (anew : Bool) (here : Option Place) (made : List Place) :
    List (List Char) → Except Fault (List Place)
  | [] => .ok made
  | name :: rest =>
    if nameLimit < size name then .error .nameTooLong
    else
      match enter here name with
      | none => makeFrom files anew none made rest
      | some place =>
        if files.contains place then
          .error (if anew || rest.isEmpty then .fileExists else .throughFile)
        else if place.isEmpty || made.contains place then
          makeFrom files anew (some place) made rest
        else makeFrom files true (some place) (made ++ [place]) rest

/-- Makes the directory that a file at a path lies in, beside those that are there. -/
def make (files made : List Place) (path : List Char) : Except Fault (List Place) :=
  let outer := (names path).dropLast
  if outer.any (·.contains (Char.ofNat 0)) then .error .nullCharacter
  else if pathLimit < (outer.map size).foldl (· + ·) (outer.length - 1) then .error .nameTooLong
  else makeFrom files false (if isAbsolute path then none else some []) made outer

/-- Opens a file at a path among directories for writing. -/
def openFile (made : List Place) (path : List Char) : Except Fault Unit :=
  let parts := names path
  let place := parts.foldl enter (if isAbsolute path then none else some [])
  let last := parts.getLast?.getD ['.', '.']
  if last.contains (Char.ofNat 0) then .error .nullCharacter
  else if nameLimit < size last then .error .nameTooLong
  else if last == ['.', '.'] || place == some [] || place.any made.contains then
    .error .isDirectory
  else .ok ()

/-- The path to a place. -/
def pathTo (place : Place) : String := "/".intercalate (place.reverse.map String.ofList)

end CrmAutomation.Directory

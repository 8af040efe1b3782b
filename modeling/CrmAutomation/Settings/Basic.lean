import CrmAutomation.Schema.Reader
import CrmAutomation.Settings.Directory
import CrmAutomation.Settings.EnvFile
import CrmAutomation.Text.LowerCase

/-!
Settings of the engine, from arguments, the environment, an environment file and defaults, in this
order of precedence.
-/

namespace CrmAutomation

open Numeric Schema

inductive LogFormat where
  | json
  | console
  deriving DecidableEq, Repr

def LogFormat.name : LogFormat → String
  | json => "json"
  | console => "console"

structure Settings where
  databaseUrl : String := "sqlite+aiosqlite:///./data/workflows.db"
  databaseEcho : Bool := false
  databasePoolSize : Int := 5
  databaseMaxOverflow : Int := 10
  logLevel : String := "INFO"
  logFormat : LogFormat := .json
  logFile : Option String := none
  maxDelaySeconds : Binary64 := .ofInt 10
  fetchRowLimit : Int := 100
  defaultActorId : Option String := none
  emailApiUrl : String := "http://localhost:3001"
  emailFromName : String := "The Genworks CRM"
  emailTimeout : Binary64 := .ofInt 15
  executionStatsWindowDays : Int := 30
  executionListLimit : Int := 100
  deriving DecidableEq, Repr

namespace Settings

def formatReader : Reader LogFormat := fun v =>
  (choice "json" [] "console" v).map fun s => if s == "json" then .json else .console

/-! ### The file of the database -/

/-- What stands between the first three slashes in a row and the next three. -/
def afterSlashes : List Char → List Char
  | [] => []
  | '/' :: '/' :: '/' :: cs => upToSlashes cs
  | _ :: cs => afterSlashes cs
where
  upToSlashes : List Char → List Char
    | [] => []
    | '/' :: '/' :: '/' :: _ => []
    | c :: cs => c :: upToSlashes cs

/-- The address is that of a database in a file or in memory. -/
def namesFile (url : String) : Bool := "sqlite".toList.isPrefixOf url.toList

/-- The path of the file that the address of a database names, if there is one. -/
def databaseFile? (url : String) : Option (List Char) :=
  if namesFile url && Text.occursIn ":///".toList url.toList then
    let path := afterSlashes url.toList
    if path.isEmpty || path == ":memory:".toList then none else some path
  else none

/-- The directories that are there once the file of the database has its own. -/
def directories (files : List Directory.Place) (url : String) :
    Except Directory.Fault (List Directory.Place) :=
  match databaseFile? url with
  | none => .ok []
  | some path => Directory.make files [] path

/-- The address of a database, whose directory can be named. -/
def addressReader : Reader String := fun v =>
  (text v).bind fun url =>
    match directories [] url with
    | .error .nullCharacter => .fail (.rule "embedded null byte")
    | _ => .ok url

/-! ### Reading -/

/-- A text without trailing slashes. -/
def withoutTrailingSlashes (s : String) : String :=
  String.ofList ((s.toList.reverse.dropWhile (· == '/')).reverse)

/-- Reads settings from what is given for them; the rest keeps its default. -/
def ofFields (fs : Fields) : Checked Settings :=
  let d : Settings := {}
  Settings.mk
    <$> Field.withDefault ⟨"database_url", none⟩ d.databaseUrl addressReader fs
    <*> Field.withDefault ⟨"database_echo", none⟩ d.databaseEcho boolean fs
    <*> Field.withDefault ⟨"database_pool_size", none⟩ d.databasePoolSize
      (atLeast 1 (atMost 100 integer)) fs
    <*> Field.withDefault ⟨"database_max_overflow", none⟩ d.databaseMaxOverflow
      (atLeast 0 (atMost 100 integer)) fs
    <*> Field.withDefault ⟨"log_level", none⟩ d.logLevel text fs
    <*> Field.withDefault ⟨"log_format", none⟩ d.logFormat formatReader fs
    <*> Field.withDefault ⟨"log_file", none⟩ d.logFile (optional text) fs
    <*> Field.withDefault ⟨"max_delay_seconds", none⟩ d.maxDelaySeconds (numberAtLeast 0 number) fs
    <*> Field.withDefault ⟨"fetch_row_limit", none⟩ d.fetchRowLimit
      (atLeast 1 (atMost 10000 integer)) fs
    <*> Field.withDefault ⟨"default_actor_id", none⟩ d.defaultActorId (optional text) fs
    <*> (Field.withDefault ⟨"email_api_url", none⟩ d.emailApiUrl text fs).map
      withoutTrailingSlashes
    <*> Field.withDefault ⟨"email_from_name", none⟩ d.emailFromName text fs
    <*> Field.withDefault ⟨"email_timeout", none⟩ d.emailTimeout
      (numberAbove 0 (numberAtMost 120 number)) fs
    <*> Field.withDefault ⟨"execution_stats_window_days", none⟩ d.executionStatsWindowDays
      (atLeast 1 integer) fs
    <*> Field.withDefault ⟨"execution_list_limit", none⟩ d.executionListLimit
      (atLeast 1 integer) fs

/-- The names of all settings. -/
def names : List String := [
  "database_url", "database_echo", "database_pool_size", "database_max_overflow", "log_level",
  "log_format", "log_file", "max_delay_seconds", "fetch_row_limit", "default_actor_id",
  "email_api_url", "email_from_name", "email_timeout", "execution_stats_window_days",
  "execution_list_limit"]

/-- The word that means null in the environment. -/
def nullWord : String := "none"

/-- What variables give for a setting; names count in any case. -/
def fromVariables (vs : EnvFile.Variables) (name : String) : Option Value :=
  (vs.reverse.find? fun p => Text.lower p.1 == name).bind fun p =>
    p.2.map fun v => if v == nullWord then .null else .text v

/-- What arguments give for a setting: the first whose name, in any case, is that of the setting. -/
def fromArguments (arguments : Fields) (name : String) : Option Value :=
  (List.find? (fun p => Text.lower p.1.asText == name) arguments).map (·.2)

/-- What is given for each setting, by the first source that has it. -/
def given (arguments : Fields) (environment file : EnvFile.Variables) : Fields :=
  names.filterMap fun name =>
    let v := (fromArguments arguments name).orElse fun _ =>
      (fromVariables environment name).orElse fun _ => fromVariables file name
    v.map fun v => (.text name, v)

/-- The place of the environment file. -/
def filePlace : Directory.Place := [".env".toList]

/-- The settings that arguments, environment and environment file give, and the directories that
are there once they are read. The directory of the database is made as its address is read, so that
a failure to make it comes before anything that is wrong with the settings. -/
def load (arguments : Fields) (environment : EnvFile.Variables) (file : Option String) :
    Except Directory.Fault (Checked (Settings × List Directory.Place)) :=
  let fs := given arguments environment ((file.map (EnvFile.read environment)).getD [])
  let files := if file.isSome then [filePlace] else []
  let url :=
    match fs.find? "database_url" with
    | some (.text url) => url
    | some _ => ""
    | none => ({} : Settings).databaseUrl
  match directories files url with
  | .ok made => .ok ((ofFields fs).map (·, made))
  | .error .nullCharacter => .ok ((ofFields fs).map (·, []))
  | .error f => .error f

/-- The database is a file or lives in memory. -/
def isFileDatabase (s : Settings) : Bool := namesFile s.databaseUrl

/-- The longest delay of a delay node, in milliseconds. -/
def maxDelayMs (s : Settings) : Except Binary64.NoInteger Int :=
  (s.maxDelaySeconds.mul (.ofInt 1000)).truncate

end Settings

end CrmAutomation

import SnippetLanguage.Label
import SnippetLanguage.Schema.Fault
import SnippetLanguage.Text.Blank
import SnippetLanguage.Text.LetterCase
import SnippetLanguage.Text.Split

/-!
# Settings

What an operator can choose: how labels look, how long a text may be, which origins may call, where the server listens
and how much it logs. Settings are read from values given by name, from environment variables and from a file with
variables. Where a value is looked for and what counts as a text or an integer is up to a library, the `Settings.Reader`;
the fields, their defaults, their bounds and the rules for two of them are the program's own.

* `Settings.read` gives the settings or all errors, in the order of the fields.
* `originParts_append`: the origins of two lists joined by a comma are the origins of the one and of the other.
-/

namespace SnippetLanguage

/-- The choices of an operator. -/
structure Settings where
  appName : String := "CodeBoard Language API"
  labelStyle : String := "plain"
  /-- how many characters a text may have -/
  maxContentLength : Int := 100000
  /-- the origins that may call, with commas between them -/
  corsOrigins : String := "http://localhost:5173,http://localhost:3000"
  backendHost : String := "0.0.0.0"
  backendPort : Int := 8080
  logLevel : String := "INFO"
  deriving Repr, DecidableEq

/-- The parts of a list with commas, without their blank ends and without the blank parts. -/
def originParts (cs : List Char) : List (List Char) :=
  ((Text.splitAtChar ',' cs).map Text.stripChars).filter fun part => !part.isEmpty

theorem originParts_append (as bs : List Char) :
    originParts (as ++ ',' :: bs) = originParts as ++ originParts bs := by
  simp [originParts, Text.splitAtChar_append_cons]

namespace Settings

/-- The origins that may call. -/
def origins (s : Settings) : List String := (originParts s.corsOrigins.toList).map String.ofList

/-! ## Where values come from -/

open Schema

/-- The names of the fields. -/
def fieldNames : List String := [
  "app_name", "label_style", "max_content_length", "cors_origins", "backend_host", "backend_port", "log_level"]

/-- All that is given for settings. -/
structure Sources (Raw : Type) where
  /-- values given by name -/
  keywords : List (String × Raw) := []
  /-- the environment variables -/
  environment : List (String × String) := []
  /-- the variables that the file `.env` sets -/
  file : List (String × String) := []

/-- The library that settings are read with. -/
structure Reader where
  /-- what may be given for a field -/
  Raw : Type
  ofText : String → Raw
  ofInt : Int → Raw
  /-- what is given for a field -/
  given? : Sources Raw → String → Option Raw
  /-- what is wrong with names that are given but are no fields -/
  unknown : Sources Raw → List (String × Fault)
  readText : Raw → Except Fault String
  readInteger : (least greatest : Int) → Raw → Except Fault Int

/-- What is known of the library. -/
structure Reader.Documented (R : Reader) : Prop where
  /-- a value given by name comes before all other sources -/
  given?_keyword : ∀ (s : Sources R.Raw) (name : String) (v : R.Raw), (∀ k ∈ s.keywords, k.1 ∈ fieldNames) →
    s.keywords.lookup name = some v → R.given? s name = some v
  /-- the name of a field is not unknown -/
  unknown_keywords : ∀ (s : Sources R.Raw) (keywords : List (String × R.Raw)), (∀ k ∈ keywords, k.1 ∈ fieldNames) →
    R.unknown s = [] → R.unknown { s with keywords } = []
  readText_ofText : ∀ text, R.readText (R.ofText text) = .ok text
  readInteger_ofInt : ∀ {least greatest n : Int}, least ≤ n → n ≤ greatest →
    R.readInteger least greatest (R.ofInt n) = .ok n
  readInteger_bounds : ∀ {least greatest n : Int} {v : R.Raw}, R.readInteger least greatest v = .ok n →
    least ≤ n ∧ n ≤ greatest

/-! ## Reading -/

/-- The names of the levels that can be chosen. -/
def levelNames : List String := ["DEBUG", "INFO", "WARNING", "ERROR", "CRITICAL"]

/-- The name of a label style, given in any letter case. -/
def checkLabelStyle (s : String) : Except Fault String :=
  let lower := Text.lowercase s
  if lower ∈ LabelStyle.names then .ok lower
  else .error (.rejected ("Invalid label_style '" ++ s ++ "'. Must be 'plain' or 'emoji'"))

/-- The name of a log level, given in any letter case. The message goes on with the names, in an order that changes from
run to run, and is cut off before them. -/
def checkLogLevel (s : String) : Except Fault String :=
  let upper := Text.uppercase s
  if upper ∈ levelNames then .ok upper
  else .error (.rejected ("Invalid log_level '" ++ s ++ "'."))

variable (R : Reader)

/-- Reads a text that has to pass a check. -/
def Reader.readChecked (check : String → Except Fault String) (v : R.Raw) : Except Fault String :=
  R.readText v >>= check

/-- Reads a field, which keeps its default if nothing is given for it. -/
def readField {α : Type} (s : Sources R.Raw) (name : String) (default : α) (read : R.Raw → Except Fault α) :
    Except (List (String × Fault)) α :=
  match R.given? s name with
  | none => .ok default
  | some v => (read v).mapError fun fault => [(name, fault)]

/-- The faults of a field. -/
def faultsOf {α : Type} : Except (List (String × Fault)) α → List (String × Fault)
  | .ok _ => []
  | .error faults => faults

/-- The settings by all that is given for them, or everything that is wrong with that. -/
def read (s : Sources R.Raw) : Except (List (String × Fault)) Settings :=
  let base : Settings := {}
  let appName := readField R s "app_name" base.appName R.readText
  let labelStyle := readField R s "label_style" base.labelStyle (R.readChecked checkLabelStyle)
  let maxContentLength := readField R s "max_content_length" base.maxContentLength (R.readInteger 1000 1000000)
  let corsOrigins := readField R s "cors_origins" base.corsOrigins R.readText
  let backendHost := readField R s "backend_host" base.backendHost R.readText
  let backendPort := readField R s "backend_port" base.backendPort (R.readInteger 1024 65535)
  let logLevel := readField R s "log_level" base.logLevel (R.readChecked checkLogLevel)
  let unknown := R.unknown s
  match appName, labelStyle, maxContentLength, corsOrigins, backendHost, backendPort, logLevel, unknown with
  | .ok appName, .ok labelStyle, .ok maxContentLength, .ok corsOrigins, .ok backendHost, .ok backendPort,
    .ok logLevel, [] => .ok { appName, labelStyle, maxContentLength, corsOrigins, backendHost, backendPort, logLevel }
  | _, _, _, _, _, _, _, _ =>
    .error (faultsOf appName ++ faultsOf labelStyle ++ faultsOf maxContentLength ++ faultsOf corsOrigins ++
      faultsOf backendHost ++ faultsOf backendPort ++ faultsOf logLevel ++ unknown)

end Settings

end SnippetLanguage

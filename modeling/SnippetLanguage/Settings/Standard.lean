import SnippetLanguage.Schema.Integer
import SnippetLanguage.Settings

/-!
# The library that settings are read with

The library that the program runs with. A value given by name wins over an environment variable, and this over a variable
of the file. Letter case does not matter in the names, and a variable may have any name, but a value or a variable of the
file may not.
-/

namespace SnippetLanguage.Settings

/-- The variable of a name, in any letter case; of several the last one counts. -/
def fromVariables (given : List (String × String)) (name : String) : Option String :=
  (given.reverse.find? fun v => Text.lowercase v.1 == name).map Prod.snd

/-- The value of a name, in any letter case; of several the first one counts. -/
def fromKeywords (keywords : List (String × Json)) (name : String) : Option Json :=
  (keywords.find? fun v => Text.lowercase v.1 == name).map Prod.snd

/-- What is given for a field: the value of the name or else a variable. -/
def givenJson? (s : Sources Json) (name : String) : Option Json :=
  match fromKeywords s.keywords name with
  | some v => some v
  | none => ((fromVariables s.environment name).or (fromVariables s.file name)).map fun text => .text text

/-- The faults of names that are no fields. -/
def unknownNames {α : Type} (given : List (String × α)) : List (String × Schema.Fault) :=
  (given.filter fun v => !fieldNames.contains (Text.lowercase v.1)).map fun v => (v.1, .unknownName)

/-- The library that the program runs with. -/
def Reader.standard : Reader where
  Raw := Json
  ofText text := .text text
  ofInt n := .int n
  given? := givenJson?
  unknown s := unknownNames s.keywords ++ unknownNames s.file
  readText := Schema.readText
  readInteger := Schema.readBounded

end SnippetLanguage.Settings

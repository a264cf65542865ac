import SnippetLanguage.Json.Reader

/-!
# Faults of given values

What can be wrong with a value that a client or the environment supplies, where it stands, and how that is reported.
-/

namespace SnippetLanguage.Schema

/-- What is wrong with a value. -/
inductive Fault where
  /-- a required value is not there -/
  | missing
  /-- a name that is not known -/
  | unknownName
  | notText
  /-- a text holds half of a surrogate pair where only characters are allowed -/
  | notCharacters
  | textTooLong (limit : Nat)
  | notInteger
  | notFinite
  | integerUnreadable
  | integerTooLong
  | integerFractional
  | below (least : Int)
  | above (greatest : Int)
  /-- a rule of the field itself is broken -/
  | rejected (message : String)
  /-- the value is no object from which a `model` could be made -/
  | notObject (model : String)
  /-- the body of a request is no object -/
  | noFields
  /-- the body of a request is not JSON -/
  | notJson (fault : Json.SyntaxFault)
  deriving Repr, DecidableEq

namespace Fault

/-- The word for the kind of a fault. -/
def kind : Fault → String
  | missing => "missing"
  | unknownName => "extra_forbidden"
  | notText => "string_type"
  | notCharacters => "string_unicode"
  | textTooLong _ => "string_too_long"
  | notInteger => "int_type"
  | notFinite => "finite_number"
  | integerUnreadable => "int_parsing"
  | integerTooLong => "int_parsing_size"
  | integerFractional => "int_from_float"
  | below _ => "greater_than_equal"
  | above _ => "less_than_equal"
  | rejected _ => "value_error"
  | notObject _ => "model_type"
  | noFields => "model_attributes_type"
  | notJson _ => "json_invalid"

/-- The wording of a fault. -/
def message : Fault → String
  | missing => "Field required"
  | unknownName => "Extra inputs are not permitted"
  | notText => "Input should be a valid string"
  | notCharacters => "Input should be a valid string, unable to parse raw data as a unicode string"
  | textTooLong limit => "String should have at most " ++ toString limit ++ " characters"
  | notInteger => "Input should be a valid integer"
  | notFinite => "Input should be a finite number"
  | integerTooLong => "Unable to parse input string as an integer, exceeded maximum size"
  | integerUnreadable => "Input should be a valid integer, unable to parse string as an integer"
  | integerFractional => "Input should be a valid integer, got a number with a fractional part"
  | below least => "Input should be greater than or equal to " ++ toString least
  | above greatest => "Input should be less than or equal to " ++ toString greatest
  | rejected m => "Value error, " ++ m
  | notObject model => "Input should be a valid dictionary or instance of " ++ model
  | noFields => "Input should be a valid dictionary or object to extract fields from"
  | notJson _ => "JSON decode error"

/-- The values that a report gives along with a fault. -/
def context : Fault → Option Json
  | textTooLong limit => some (.object [("max_length", .int limit)])
  | notJson fault => some (.object [("error", .text fault.message)])
  | _ => none

end Fault

/-- A step on the way to the faulty value: a name, or a position in a text. -/
inductive Step where
  | name (s : String)
  | position (n : Nat)
  deriving Repr, DecidableEq

/-- A step as a JSON value. -/
def Step.toJson : Step → Json
  | name s => .text s
  | position n => .int n

/-- A fault, the way to the value and the value itself. -/
structure Error where
  path : List Step
  fault : Fault
  input : Json

/-- The error one step further down. -/
def Error.within (step : Step) (e : Error) : Error := { e with path := step :: e.path }

/-- The errors of a reading; a reading that succeeded has none. -/
def errorsOf {α : Type} : Except (List Error) α → List Error
  | .ok _ => []
  | .error es => es

end SnippetLanguage.Schema

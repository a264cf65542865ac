import SnippetLanguage.Json.Basic

/-!
# Failures and exceptions

What the service raises instead of a result. A failure is foreseen: a request that breaks a rule, a thing that does not
exist, or something that went wrong inside the program. Each has a message for the user and details.

An exception of any kind (`Raised`) is known by its classes: its own one first, then those that this is derived from, in
the order in which they are searched. The failures are exceptions of three classes (`Failure.raised`).
-/

namespace SnippetLanguage

/-- Named values that explain a failure, in the order in which they were added. -/
abbrev Details := List (WideText × Json)

/-- A failure that the program foresees. -/
inductive Failure where
  /-- something went wrong inside the program -/
  | internal (message : WideText) (details : Details)
  /-- the request breaks a rule, perhaps in one field -/
  | invalid (message : WideText) (field : Option String) (details : Details)
  /-- what was asked for does not exist -/
  | notFound (message : WideText) (details : Details)

namespace Failure

/-- The message of a failure of the program that says no more. -/
def internalMessage : String := "An unexpected error occurred"

/-- The message of a broken rule that says no more. -/
def invalidMessage : String := "Validation failed"

/-- What a thing that does not exist is called where nothing else is known. -/
def someResource : String := "resource"

/-- The message for the user. -/
def message : Failure → WideText
  | internal m _ => m
  | invalid m _ _ => m
  | notFound m _ => m

/-- The values that explain the failure. -/
def details : Failure → Details
  | internal _ d => d
  | invalid _ _ d => d
  | notFound _ d => d

/-- The failure of a field; its name becomes one of the details. -/
def ofField (message : WideText) (field : Option String) (details : Details) : Failure :=
  .invalid message field <|
    match field with
    | some f => if f.isEmpty then details else Json.setMember details "field" (.text f)
    | none => details

/-- The failure that a thing, perhaps with an identifier, does not exist. -/
def ofResource (resource : String) (id : Option String) (details : Details) : Failure :=
  let details := Json.setMember details "resource" (.text resource)
  match id with
  | some id =>
    if id.isEmpty then .notFound ("The requested " ++ resource ++ " was not found" : String) details
    else .notFound (resource ++ " '" ++ id ++ "' was not found" : String) (Json.setMember details "resource_id" (.text id))
  | none => .notFound ("The requested " ++ resource ++ " was not found" : String) details

end Failure

/-! ## Exceptions -/

/-- The classes of exceptions. The first three are the program's own, the last two of them derived from the first. -/
inductive ErrorClass where
  | internal
  | invalid
  | notFound
  | other (name : String)
  deriving Repr, DecidableEq

/-- An exception: its classes, the most special one first, and what it says of itself. The exceptions of the program's own
classes have a message for the user and details besides, and perhaps a field; for other exceptions these mean nothing. -/
structure Raised where
  classes : List ErrorClass
  text : WideText
  message : WideText := ""
  field : Option String := none
  details : Details := []

/-- The exception that a failure is raised as. -/
def Failure.raised : Failure → Raised
  | internal message details => { classes := [.internal], text := message, message, details }
  | invalid message field details => { classes := [.invalid, .internal], text := message, message, field, details }
  | notFound message details => { classes := [.notFound, .internal], text := message, message, details }

namespace Raised

/-- The exception that a value is not right for what is done with it. -/
def valueError (text : String) : Raised := { classes := [.other "ValueError"], text }

end Raised

end SnippetLanguage

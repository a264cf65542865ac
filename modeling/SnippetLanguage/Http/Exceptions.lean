import SnippetLanguage.Http.Handler

/-!
# Exceptions become responses

An exception is handled by what is registered for the first of its classes for which anything is. For its own classes the
program registers three handlers, which differ in the status, the word for the error, whether the client is told the details,
and in what they record (`programReply?`). The framework brings handlers for some other classes. What nobody handles
passes all layers; outside of them it becomes a response that tells nothing about it (`crashResponse`).

* `Framework.conclude` says what becomes of an exception.
-/

namespace SnippetLanguage.Http

/-- The body of an error response. -/
def errorBody (code : String) (message : WideText) (details : Option Details) (requestId : String) : Json :=
  match details with
  | some d =>
    .object [("error", .text code), ("message", .text message), ("details", .object d), ("request_id", .text requestId)]
  | none => .object [("error", .text code), ("message", .text message), ("request_id", .text requestId)]

/-- What a handler of the program answers and records. -/
structure Reply where
  status : Nat
  body : Json
  events : List Log.Event

/-- What the program's handler for a class makes of an exception. -/
def programReply? (requestId : String) (e : Raised) : ErrorClass → Option Reply
  | .invalid => some {
      status := 400
      body := errorBody "validation_error" e.message (some e.details) requestId
      events := [.refused requestId e.message] }
  | .notFound => some {
      status := 404
      body := errorBody "not_found" e.message (some e.details) requestId
      events := [] }
  | .internal => some {
      status := 500
      body := errorBody "server_error" e.message none requestId
      events := [.failed requestId e.message e.details] }
  | .other _ => none

namespace Framework

variable (F : Framework)

/-- What becomes of an exception by the handler for one of its classes. -/
def concludeAs? (requestId : String) (e : Raised) : ErrorClass → Option Ending
  | .other name => (F.handler? name).map fun handler => (handler e, [])
  | c => (programReply? requestId e c).map fun reply => (F.answerJson reply.status reply.body, reply.events)

/-- What becomes of an exception. -/
def conclude (requestId : String) (e : Raised) : Ending :=
  (e.classes.findSome? (F.concludeAs? requestId e)).getD (.raised e, [])

/-- What becomes of a request where exceptions are handled. -/
def settle (requestId : String) : Ending → Ending
  | (.answered r, events) => (.answered r, events)
  | (.raised e, events) => ((F.conclude requestId e).1, events ++ (F.conclude requestId e).2)

/-- Handles the exceptions that some handler is registered for. -/
def withExceptionHandlers (inner : Request → Ending) : Handler := fun request => do
  let (outcome, events) := F.settle (← get).requestId (inner request)
  record events
  return outcome

end Framework

/-! ## What nobody handles -/

/-- The message for a user whose request crashed. -/
def crashMessage : String := "An unexpected error occurred. Please try again or contact support."

/-- The body of the response to a request that crashed. -/
def crashBody (requestId : String) : Json := errorBody "internal_server_error" crashMessage none requestId

/-- The response to a request that crashed. -/
def crashResponse (requestId : String) : Response := .json 500 (crashBody requestId)

end SnippetLanguage.Http

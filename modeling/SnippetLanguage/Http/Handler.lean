import SnippetLanguage.Http.Framework
import SnippetLanguage.Log

/-!
# Handlers and the context they share

Requests are handled one after another in one context. It holds the id of the request that is being handled, for
everyone who needs to mention it, and the log. The id stays in its place after the request; the next one overwrites it.

A handler answers or lets an exception pass. A layer makes a handler of a handler; here are the two outer layers, which give
each request its id and record each answer. An exception passes both.
-/

namespace SnippetLanguage.Http

/-- What handlers share. -/
structure Context where
  /-- the id of the request at hand, or of the last one -/
  requestId : String := ""
  /-- what was recorded, the earliest first -/
  log : List Log.Event := []

/-- A computation in the shared context. -/
abbrev Handling := StateM Context

/-- Whatever handles requests. -/
abbrev Handler := Request → Handling Outcome

/-- What becomes of a request that is not handled in the context, and what is recorded of it. -/
abbrev Ending := Outcome × List Log.Event

/-- Records events. -/
def record (events : List Log.Event) : Handling Unit := modify fun c => { c with log := c.log ++ events }

/-! ## The id of a request -/

/-- The header that carries the id of a request, in both directions. -/
def requestIdHeader : String := "x-request-id"

/-- The id of a request: the one that the client sends or, if that is missing or empty, a fresh one. -/
def Head.id (head : Head) (fresh : String) : String :=
  match head.header? requestIdHeader with
  | some id => if id.isEmpty then fresh else id
  | none => fresh

/-- Puts the id of the request into the context and into the response. -/
def withRequestId (fresh : String) (inner : Handler) : Handler := fun request => do
  let id := request.id fresh
  modify fun c => { c with requestId := id }
  let outcome ← inner request
  return outcome.mapResponse (·.setHeader requestIdHeader id)

/-! ## The access log -/

/-- The path whose requests are not recorded. -/
def quietPath : List Char := "/health".toList

/-- The address of a client in the log. -/
def clientName (client : Option String) : String := client.getD "unknown"

/-- Records each answer, but for the quiet path. `urlPath` is the path of the address that a request is for. -/
def withAccessLog (urlPath : Head → List Char) (inner : Handler) : Handler := fun request => do
  let path := urlPath request.toHead
  let outcome ← inner request
  if path = quietPath then return outcome
  match outcome with
  | .raised e => return .raised e
  | .answered response =>
    let id := (← get).requestId
    record [.answered request.method (String.ofList path) response.status id (clientName request.client)]
    return .answered response

end SnippetLanguage.Http

import SnippetLanguage.Http.Endpoints

/-!
# The server

A request passes through the layers from the outside to the inside, its response back: request id, access log,
compression, origins, handlers of exceptions, routes. An exception that nobody handles passes all layers by; outside of them
it becomes a response that tells nothing about it.

* `handle` answers one request, `serve` answers requests one after another in one context.
-/

namespace SnippetLanguage.Http

/-- The number of bytes from which on a body is worth compressing. -/
def minimumSize : Nat := 500

/-- What pages of other origins may do. -/
def Application.originPolicy (app : Application) : OriginPolicy where
  origins := app.settings.origins
  exposed := ["X-Request-ID", "X-Total-Count"]

/-- Answers requests that only ask what a page of another origin may do, and adds to other responses what such pages need. -/
def withCrossOrigin (F : Framework) (policy : OriginPolicy) (inner : Handler) : Handler := fun request => do
  match F.preflight? policy request.toHead with
  | some r => return .answered r
  | none => return (← inner request).mapResponse (F.share policy request.toHead)

/-- Compresses large responses. -/
def withCompression (F : Framework) (inner : Handler) : Handler := fun request =>
  return (← inner request).mapResponse (F.compress minimumSize request.toHead)

/-- What is inside the access log. -/
def Application.inside (app : Application) : Handler :=
  withCompression app.framework <| withCrossOrigin app.framework app.originPolicy <|
    app.framework.withExceptionHandlers app.routeRequest

/-- A server behind its layers. -/
def Application.layered (app : Application) (fresh : String) : Handler :=
  withRequestId fresh <| withAccessLog app.framework.urlPath app.inside

/-- Answers a request. `fresh` is the id of the request if it brings none. -/
def Application.handle (app : Application) (fresh : String) (request : Request) : Handling Response := do
  match ← app.layered fresh request with
  | .answered r => return r
  | .raised e =>
    let id := (← get).requestId
    record [.crashed id e.text]
    return crashResponse id

/-- Answers requests with their fresh ids one after another, each with what was recorded for it. `slot` is the id that
the context holds before. -/
def Application.serve (app : Application) (slot : String) : List (String × Request) → List (Response × List Log.Event)
  | [] => []
  | (fresh, request) :: rest =>
    let (response, context) := (app.handle fresh request).run ⟨slot, []⟩
    (response, context.log) :: app.serve context.requestId rest

end SnippetLanguage.Http

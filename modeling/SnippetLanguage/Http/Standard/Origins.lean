import SnippetLanguage.Http.Framework

/-!
# Requests across origins

Pages of other origins may call the server if their origin is allowed. A browser may ask beforehand, by a preflight
request, which is answered for any path without handling it.
-/

namespace SnippetLanguage.Http.Standard

/-- Whether an origin may call. -/
def allows (p : OriginPolicy) (origin : String) : Bool := p.origins.contains "*" || p.origins.contains origin

/-- The methods that another origin may use. -/
def crossOriginMethods : List String := ["DELETE", "GET", "HEAD", "OPTIONS", "PATCH", "POST", "PUT", "QUERY"]

/-- Says which origin is allowed, if it is. -/
def allowOrigin (policy : OriginPolicy) (origin : String) (r : Response) : Response :=
  if allows policy origin then r.setHeader "access-control-allow-origin" origin else r

/-- What a preflight request asks for. -/
structure Preflight where
  origin : String
  method : String
  /-- the headers that the page wants to send -/
  headers : Option String
  /-- whether the page is to reach a private network, which no page may -/
  privateNetwork : Bool

/-- What a preflight request asks for in vain. -/
def Preflight.faults (p : Preflight) (policy : OriginPolicy) : List String :=
  (if allows policy p.origin then [] else ["origin"]) ++
    (if crossOriginMethods.contains p.method then [] else ["method"]) ++
    (if p.privateNetwork then ["private-network"] else [])

/-- What a request asks for, if it is a preflight request. -/
def preflightOf? (head : Head) : Option Preflight :=
  match head.header? "origin", head.method == "OPTIONS", head.header? "access-control-request-method" with
  | some origin, true, some method =>
    some {
      origin := origin
      method := method
      headers := head.header? "access-control-request-headers"
      privateNetwork := (head.header? "access-control-request-private-network").isSome }
  | _, _, _ => none

/-- The answer to a preflight request. -/
def Preflight.answer (p : Preflight) (policy : OriginPolicy) : Response :=
  let faults := p.faults policy
  let base : Response := {
    status := if faults.isEmpty then 200 else 400
    headers := [
      ("vary", "Origin, Access-Control-Request-Method, Access-Control-Request-Headers, " ++
        "Access-Control-Request-Private-Network"),
      ("access-control-allow-methods", String.intercalate ", " crossOriginMethods),
      ("access-control-max-age", "600"), ("access-control-allow-credentials", "true"),
      ("content-type", "text/plain; charset=utf-8")]
    body := .text (if faults.isEmpty then "OK" else "Disallowed CORS " ++ String.intercalate ", " faults) }
  let r := allowOrigin policy p.origin base
  match p.headers with
  | some names => r.setHeader "access-control-allow-headers" names
  | none => r

/-- What a response says to a page of another origin. -/
def share (policy : OriginPolicy) (head : Head) (r : Response) : Response :=
  match head.header? "origin" with
  | none => r.vary "Origin"
  | some origin =>
    (allowOrigin policy origin ((r.setHeader "access-control-allow-credentials" "true").setHeader
      "access-control-expose-headers" (String.intercalate ", " policy.exposed))).vary "Origin"

end SnippetLanguage.Http.Standard

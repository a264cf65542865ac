import SnippetLanguage.Http.Standard.Host
import SnippetLanguage.Http.Standard.Target
import SnippetLanguage.Http.Standard.Writing

/-!
# Finding a route

The pages come before the routes, and the first one with the path and the method of a request counts. A path may end in a
line feed, which is not seen. A path that would be known without the slashes at its end, or with one, is redirected; a known
path with another method is refused.
-/

namespace SnippetLanguage.Http.Standard

/-- What a path and a method lead to. -/
structure Entry where
  methods : List String
  segment? : List Char → Option (List Char)
  answer : List Char → Routed

/-- Who answers a request, if it belongs to the entry. -/
def Entry.answer? (e : Entry) (head : Head) : Option Routed :=
  if e.methods.contains head.method then (e.segment? head.path).map e.answer else none

/-- A path without the line feed at its end. -/
def dropLineFeed (path : List Char) : List Char :=
  if path.getLast? = some '\n' then path.dropLast else path

/-- Whether a path is the one that was declared, with or without a line feed at its end. -/
def isPath (declared path : List Char) : Bool := path == declared || dropLineFeed path == declared

/-- The page on which requests can be tried out. -/
def docsPage : List Char := "/docs".toList

/-- The page that goes with the one on which requests can be tried out. -/
def signInPage : List Char := docsPage ++ "/oauth2-redirect".toList

/-- All pages, those included that were not declared. -/
def allPages (d : Declarations) : List (List Char) :=
  d.pages ++ if d.pages.contains docsPage then [signInPage] else []

/-- The content type of a page. -/
def pageType (page : List Char) : String :=
  if ".json".toList.isSuffixOf page then "application/json" else "text/html; charset=utf-8"

/-- The entry of a page. -/
def pageEntry (page : List Char) : Entry where
  methods := ["GET", "HEAD"]
  segment? path := if isPath page path then some [] else none
  answer _ := .own (.answered {
    status := 200
    headers := [("content-type", pageType page)]
    body := .page (String.ofList page) })

/-- The entry of a route. -/
def routeEntry (r : Route) : Entry where
  methods := [r.method]
  segment? path := if r.hasSegment then segmentAfter? r.path path else if isPath r.path path then some [] else none
  answer segment := .endpoint r.endpoint segment

/-- All entries, in the order in which they are tried. -/
def entries (d : Declarations) : List Entry := (allPages d).map pageEntry ++ d.routes.map routeEntry

/-! ## Paths that no entry has -/

/-- The host of a request that names none or not rightly. -/
def defaultHost : String := "testserver"

/-- The host of a request. -/
def hostOf (head : Head) : List Char :=
  match head.header? "host" with
  | some host => if Host.isValid host.toList then host.toList else defaultHost.toList
  | none => defaultHost.toList

/-- A path without the slashes at its end or, if it has none, with one. -/
def toggleSlash (path : List Char) : List Char :=
  if path.getLast? = some '/' then (path.reverse.dropWhile (· == '/')).reverse else path ++ ['/']

/-- The address of another path on the same server, with the query of the request. -/
def addressOf (head : Head) (path : List Char) : List Char :=
  let query := if head.query.isEmpty then [] else '?' :: head.query.toList
  "http://".toList ++ hostOf head ++ Target.escape path ++ query

/-- Sends the client to another path. -/
def redirect (head : Head) (path : List Char) : Outcome :=
  .answered {
    status := 307
    headers := [("location", String.ofList (Target.quote (addressOf head path)))]
    body := .nothing }

/-- The answer to a path that no entry has. -/
def answerUnknownPath (depth : Nat) (es : List Entry) (head : Head) : Outcome :=
  let path := toggleSlash head.path
  if head.path ≠ ['/'] ∧ es.any (fun e => (e.segment? path).isSome) then redirect head path
  else answerDetail depth 404 (.text "Not Found")

/-- The answer to a request that belongs to no entry. -/
def answerUnknown (depth : Nat) (es : List Entry) (head : Head) : Outcome :=
  match es.find? fun e => (e.segment? head.path).isSome with
  | some e => (answerDetail depth 405 (.text "Method Not Allowed")).mapResponse
      (·.setHeader "allow" (String.intercalate ", " e.methods))
  | none => answerUnknownPath depth es head

/-- Who answers a request. -/
def route (depth : Nat) (d : Declarations) (head : Head) : Routed :=
  ((entries d).findSome? (·.answer? head)).getD (.own (answerUnknown depth (entries d) head))

end SnippetLanguage.Http.Standard

import SnippetLanguage.DetectRequest
import SnippetLanguage.Http.Exceptions
import SnippetLanguage.Service
import SnippetLanguage.Startup

/-!
# Endpoints

What the routes of the server answer: the detection of a text, the list of languages, one language, and the health of
the program. An endpoint answers with a value or raises an exception.

* `routes` declares them to the framework, in the order in which they are tried.
-/

namespace SnippetLanguage.Http

/-- Whatever detects the language of a request and records what it does. -/
abbrev Detector := DetectRequest → Except Raised Detection × List Log.Event

/-- The detector that asks the service. Where a text holds halves of surrogate pairs, the characters that are shown for them
make no difference; only a style could not be named by them. -/
def serviceDetector (settings : Settings) (t : Table) : Detector := fun r =>
  match r.labelStyle with
  | none => Service.detect settings t r.content.shown (r.declaredLanguage.map WideText.shown) none
  | some style =>
    match style.text? with
    | some style => Service.detect settings t r.content.shown (r.declaredLanguage.map WideText.shown) (some style)
    | none => (.error (Service.unknownStyle style).raised, [])

/-- A running server: the framework it runs in, its settings, the table of its service, how it detects, for how many
hundredths of a second it has been running, and the table whose rules the health check counts. -/
structure Application where
  framework : Framework
  settings : Settings
  table : Table
  detector : Detector
  uptime : Nat := 0
  counted : Table := Table.default

/-- The server whose detector asks the service. -/
def Application.standard (F : Framework) (settings : Settings) (t : Table) : Application where
  framework := F
  settings := settings
  table := t
  detector := serviceDetector settings t

/-! ## Routes -/

/-- The path under which languages are found. -/
def languagesPath : List Char := "/api/languages".toList

/-- The path of the detection. -/
def detectPath : List Char := languagesPath ++ "/detect".toList

/-- The routes of a server. -/
def routes : List Route := [
  { method := "POST", path := detectPath, endpoint := .detect },
  { method := "GET", path := languagesPath, endpoint := .list },
  { method := "GET", path := languagesPath, hasSegment := true, endpoint := .language },
  { method := "GET", path := quietPath, endpoint := .health }]

/-- What a server declares to its framework. What the pages tell is up to the framework. -/
def Application.declarations (app : Application) : Declarations where
  title := app.settings.appName
  version := Startup.version
  pages := ["/docs".toList, "/redoc".toList, "/openapi.json".toList]
  routes := routes

/-! ## Detection -/

/-- The body of a response with a result. -/
def detectionJson (d : Detection) : Json :=
  .object [("language", .text d.language), ("display_label", .text d.displayLabel), ("method", .text d.method.name)]

/-- Detects the language of a request that has the right form. -/
def answerDetection (app : Application) (r : DetectRequest) : Ending :=
  match app.detector r with
  | (.ok d, events) => (app.framework.answerJson 200 (detectionJson d), events)
  | (.error e, events) => (.raised e, events)

/-- Detects the language of the text in the body of a request. -/
def detectEndpoint (app : Application) (request : Request) : Ending :=
  match app.framework.bind DetectRequest.fields request with
  | .error outcome => (outcome, [])
  | .ok values =>
    match DetectRequest.ofValues? values with
    | some r => answerDetection app r
    | none => (.raised { classes := [.other "TypeError"], text := "" }, [])

/-! ## Languages -/

/-- What is told about a language. -/
def entryJson (entry : Service.LanguageEntry) : Json :=
  .object [("name", .text entry.name), ("display_label", .text entry.displayLabel), ("priority", .int entry.priority),
    ("signature_count", .int entry.signatureCount), ("exclusion_count", .int entry.exclusionCount),
    ("aliases", .array (entry.aliases.map fun (name : String) => .text name))]

/-- Tells which languages can be detected. The list never changes while the program runs. -/
def listEndpoint (app : Application) : Ending :=
  let listing := Service.listing app.settings app.table
  let body := Json.object
    [("languages", .array (listing.languages.map entryJson)), ("total_count", .int listing.totalCount)]
  ((app.framework.answerJson 200 body).mapResponse fun r =>
    (r.setHeader "x-total-count" (toString listing.totalCount)).setHeader "cache-control" "public, max-age=3600", [])

/-- Tells about the language of a tag. -/
def languageEndpoint (app : Application) (tag : List Char) : Ending :=
  match Service.findLanguage app.settings app.table (String.ofList tag) with
  | .ok entry => (app.framework.answerJson 200 (entryJson entry), [])
  | .error f => (.raised f.raised, [])

/-! ## Health -/

/-- A text whose language the default table must find. -/
def probe : String := "def probe():\n    print('ok')"

/-- Whether the program works: it has rules, and the default ones find the language of the probe. -/
def Application.healthy (app : Application) : Bool :=
  app.counted.size != 0 && Table.default.classify probe == "python"

/-- Tells whether the program works. -/
def healthEndpoint (app : Application) : Ending :=
  let status : String := if app.healthy then "healthy" else "unhealthy"
  let body := Json.object [("status", .text status), ("version", .text Startup.version),
    ("languages", .int app.counted.size), ("uptime_seconds", .decimal ⟨false, app.uptime, -2⟩)]
  (app.framework.answerJson 200 body, if app.healthy then [] else [.probeFailed])

/-! ## Routing -/

/-- What an endpoint, which gets a segment of the path, makes of a request. -/
def Application.endpoint (app : Application) (segment : List Char) (request : Request) : Endpoint → Ending
  | .detect => detectEndpoint app request
  | .list => listEndpoint app
  | .language => languageEndpoint app segment
  | .health => healthEndpoint app

/-- Answers a request by the endpoint that the framework finds for it, or as the framework does. -/
def Application.routeRequest (app : Application) (request : Request) : Ending :=
  match app.framework.route app.declarations request.toHead with
  | .endpoint e segment => app.endpoint segment request e
  | .own outcome => (outcome, [])

end SnippetLanguage.Http

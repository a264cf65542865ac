import SnippetLanguage.Failure
import SnippetLanguage.Http.Message
import SnippetLanguage.Schema.Fields

/-!
# The framework

The program runs in a framework, to which it declares its routes, the fields of its bodies and its layers. What the
framework does of its own accord is given by a `Framework`: how it finds a route, what it makes of a body, what it answers
where no route fits, and how it writes, shares and compresses responses. What the program relies on is stated apart from
that, by `Framework.Documented`.

* `Declarations.firstRoute?` is the route that a request is meant for.
* `Framework.answerJson` answers with a value, if this can be written.
-/

namespace SnippetLanguage.Http

/-! ## What is declared -/

/-- What answers the requests of a route. -/
inductive Endpoint where
  | detect
  | list
  | language
  | health
  deriving Repr, DecidableEq

/-- A route: the requests with its method and its path or, where a segment follows, those with one segment more, which the
endpoint gets. -/
structure Route where
  method : String
  path : List Char
  hasSegment : Bool := false
  endpoint : Endpoint

/-- The segment that follows a path, if a slash and one segment that is not empty follow. -/
def segmentAfter? (base path : List Char) : Option (List Char) :=
  if (base ++ ['/']).isPrefixOf path then
    let segment := path.drop (base.length + 1)
    if segment.isEmpty || segment.contains '/' then none else some segment
  else none

/-- The segment that a path has for a route, if it belongs to the route; it is empty where the route has none. -/
def Route.segment? (r : Route) (path : List Char) : Option (List Char) :=
  if r.hasSegment then segmentAfter? r.path path else if path = r.path then some [] else none

/-- What a program declares to the framework: its name and version, the pages that tell about its routes, and the routes in
the order in which they are tried. -/
structure Declarations where
  title : String
  version : String
  pages : List (List Char)
  routes : List Route

/-- The endpoint of the first route with the method and the path of a request, and the segment for it. -/
def Declarations.firstRoute? (d : Declarations) (head : Head) : Option (Endpoint × List Char) :=
  d.routes.findSome? fun r =>
    if r.method = head.method then (r.segment? head.path).map fun segment => (r.endpoint, segment) else none

/-- What pages of other origins may do. -/
structure OriginPolicy where
  /-- the origins that may call; a star allows all -/
  origins : List String
  /-- the response headers that a page may read -/
  exposed : List String

/-! ## What becomes of a request -/

/-- How the handling of a request ends: with a response, or with an exception that nobody has handled. -/
inductive Outcome where
  | answered (r : Response)
  | raised (e : Raised)

/-- An outcome with a change to the response. -/
def Outcome.mapResponse (f : Response → Response) : Outcome → Outcome
  | answered r => .answered (f r)
  | raised e => .raised e

/-- Who answers a request: an endpoint, which gets a segment of the path, or the framework. -/
inductive Routed where
  | endpoint (e : Endpoint) (segment : List Char)
  | own (outcome : Outcome)

/-- A framework. -/
structure Framework where
  /-- the path of the address that a request is for -/
  urlPath : Head → List Char
  /-- who answers a request -/
  route : Declarations → Head → Routed
  /-- whether the body of a request is read as JSON -/
  takesJson : Head → Bool
  /-- how many arrays and objects may be nested in a body -/
  readingDepth : Nat
  /-- the texts that the body of a request gives to fields, or what becomes of a request with another body -/
  bind : List Schema.Field → Request → Except Outcome (List (Option WideText))
  /-- how the errors of a body are told -/
  report : List Schema.Error → Json
  /-- what is raised where a value cannot be written -/
  encode : Json → Option Raised
  /-- how many arrays and objects may be nested in a value that is written -/
  writingDepth : Nat
  /-- how exceptions are handled that are of a class of that name -/
  handler? : String → Option (Raised → Outcome)
  /-- the answer to a request that only asks what a page of another origin may do -/
  preflight? : OriginPolicy → Head → Option Response
  /-- what is added to a response for pages of other origins -/
  share : OriginPolicy → Head → Response → Response
  /-- a response whose body may be compressed from some number of bytes on -/
  compress : (minimum : Nat) → Head → Response → Response

namespace Framework

variable (F : Framework)

/-- Answers with a value, if this can be written. -/
def answerJson (status : Nat) (v : Json) : Outcome :=
  match F.encode v with
  | none => .answered (.json status v)
  | some e => .raised e

/-- Answers with a reason only. -/
def answerDetail (status : Nat) (detail : Json) : Outcome := F.answerJson status (.object [("detail", detail)])

/-- Whether exceptions of a class are handled, by the framework or, if the class is one of its own, by the program. -/
def handles : ErrorClass → Bool
  | .other name => (F.handler? name).isSome
  | _ => true

/-- No class of the exception is handled. -/
def Unhandled (e : Raised) : Prop := ∀ c ∈ e.classes, F.handles c = false

instance (e : Raised) : Decidable (F.Unhandled e) := inferInstanceAs (Decidable (∀ c ∈ e.classes, F.handles c = false))

end Framework

/-! ## What is known of a framework -/

/-- A character that means nothing but itself in an address. -/
def isPlainChar (c : Char) : Bool := c.isAlphanum || c == '-' || c == '.' || c == '_' || c == '/'

/-- A request whose path and host mean nothing but themselves. -/
structure Head.IsPlain (head : Head) : Prop where
  rooted : head.path.head? = some '/'
  path : ∀ c ∈ head.path, isPlainChar c = true
  host : ∀ host ∈ head.header? "host", host ≠ "" ∧ ∀ c ∈ host.toList, isPlainChar c = true ∧ c ≠ '/' ∧ c ≠ '_'

/-- A response that has no error of the program in its body. -/
def Response.IsForeign (r : Response) : Prop :=
  ∀ members, r.body = .json (.object members) →
    members.lookup ("error" : WideText) = none ∧ members.lookup ("request_id" : WideText) = none

/-- An outcome that has no error of the program in its body. -/
def Outcome.IsForeign : Outcome → Prop
  | answered r => r.IsForeign
  | raised _ => True

/-- What may become of a request whose body is refused: an answer with a detail, or an exception that nobody handles. -/
def Outcome.IsRefusal (F : Framework) : Outcome → Prop
  | answered r => (r.status = 400 ∨ r.status = 422) ∧ ∃ detail, r.body = .json (.object [("detail", detail)])
  | raised e => F.Unhandled e

/-- What is known of a framework. -/
structure Framework.Documented (F : Framework) : Prop where
  urlPath_of_isPlain : ∀ head : Head, head.IsPlain → F.urlPath head = head.path
  /-- the first route counts, if no page is asked for -/
  route_of_firstRoute : ∀ (d : Declarations) (head : Head) (endpoint : Endpoint) (segment : List Char),
    '\n' ∉ head.path → (∀ page ∈ d.pages, ¬ page <+: head.path) → d.firstRoute? head = some (endpoint, segment) →
      F.route d head = .endpoint endpoint segment
  isForeign_of_route : ∀ (d : Declarations) (head : Head) (outcome : Outcome), F.route d head = .own outcome →
    outcome.IsForeign
  takesJson_of_contentType : ∀ head : Head, head.header? "content-type" = some "application/json" →
    F.takesJson head = true
  /-- a body that is read as JSON gives what it holds to the fields, or everything that is wrong with it is told -/
  bind_of_read : ∀ (fields : List Schema.Field) (request : Request) (v : Json), F.takesJson request.toHead = true →
    Json.read F.readingDepth request.body = .ok v →
      F.bind fields request = (Schema.readBody fields v).mapError fun errors => F.answerDetail 422 (F.report errors)
  /-- a body that cannot be read, but not for its syntax, is refused without telling why -/
  bind_of_unreadable : ∀ (fields : List Schema.Field) (request : Request) (e : Json.ReadError),
    F.takesJson request.toHead = true → Json.read F.readingDepth request.body = .error e →
      (∀ fault position, e ≠ .malformed fault position) →
        F.bind fields request = .error (F.answerDetail 400 (.text "There was an error parsing the body"))
  /-- fields are given nothing but what a body holds that is read as JSON -/
  read_of_bind : ∀ (fields : List Schema.Field) (request : Request) (values : List (Option WideText)),
    F.bind fields request = .ok values → F.takesJson request.toHead = true ∧
      ∃ v, Json.read F.readingDepth request.body = .ok v ∧ Schema.readBody fields v = .ok values
  isRefusal_of_bind : ∀ (fields : List Schema.Field) (request : Request) (outcome : Outcome),
    F.bind fields request = .error outcome → outcome.IsRefusal F
  encode_of_writable : ∀ v : Json, v.writable = true → v.depth ≤ F.writingDepth → F.encode v = none
  le_writingDepth : 8 ≤ F.writingDepth
  /-- what is wrong with a value can be told if the value can be written -/
  encode_report : ∀ (fields : List Schema.Field) (v : Json) (errors : List Schema.Error),
    (∀ f ∈ fields, ∀ limit ∈ f.maxLength, Text.isWritten (some Text.usualDigits) limit = true) →
      Schema.readBody fields v = .error errors → v.writable = true → v.depth + 4 ≤ F.writingDepth →
        F.encode (.object [("detail", F.report errors)]) = none
  /-- only exceptions of the framework's own classes are handled -/
  handler?_valueError : F.handler? "ValueError" = none
  unhandled_of_encode : ∀ (v : Json) (e : Raised), F.encode v = some e → F.Unhandled e
  isForeign_of_handler : ∀ (name : String) (handler : Raised → Outcome) (e : Raised), F.handler? name = some handler →
    (handler e).IsForeign
  preflight?_of_method : ∀ (policy : OriginPolicy) (head : Head), head.method ≠ "OPTIONS" →
    F.preflight? policy head = none
  isForeign_of_preflight : ∀ (policy : OriginPolicy) (head : Head) (r : Response),
    F.preflight? policy head = some r → r.IsForeign
  status_share : ∀ (policy : OriginPolicy) (head : Head) (r : Response), (F.share policy head r).status = r.status
  body_share : ∀ (policy : OriginPolicy) (head : Head) (r : Response), (F.share policy head r).body = r.body
  status_compress : ∀ (minimum : Nat) (head : Head) (r : Response), (F.compress minimum head r).status = r.status
  body_compress : ∀ (minimum : Nat) (head : Head) (r : Response), (F.compress minimum head r).body = r.body

end SnippetLanguage.Http

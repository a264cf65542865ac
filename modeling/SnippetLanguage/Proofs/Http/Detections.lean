import SnippetLanguage.Proofs.Http.Handling
import SnippetLanguage.Proofs.Http.Standard
import SnippetLanguage.Proofs.Request.Form
import SnippetLanguage.Proofs.Service.Checks

/-!
# Requests for a detection

A request for a detection comes to its endpoint (`routeRequest_eq`), so that the client gets what the endpoint or the
handlers of exceptions answer, with what the outer layers add (`answerTo_eq`). It makes a detection request exactly if its
body is read as an object that asks for a detection (`bind_of_asksFor`, `exists_asksFor_of_bind`).

What a client gets is told by `Application.Answers`, `Application.Crashes` and, where a body may turn out to be one that
cannot be written, by `Application.Sends`.
-/

namespace SnippetLanguage.Http

variable {F : Framework} {app : Application} {request : Request} {fresh id : String} {status : Nat} {body v : Json}
  {events : List Log.Event} {e : Raised} {r : DetectRequest} {outcome : Outcome}

/-- A request for a detection, whatever its body. -/
structure Head.IsDetection (head : Head) : Prop where
  method : head.method = "POST"
  path : head.path = detectPath

/-! ## From the endpoint to the client -/

/-- What the layers between the handlers of exceptions and the access log make of a response. -/
def Application.dress (app : Application) (request : Request) (r : Response) : Response :=
  app.framework.compress minimumSize request.toHead (app.framework.share app.originPolicy request.toHead r)

/-- What the handlers of exceptions make of what the detection endpoint does. -/
def Application.detected (app : Application) (id : String) (request : Request) : Ending :=
  app.framework.settle id (detectEndpoint app request)

theorem status_dress (hF : app.framework.Documented) (r : Response) : (app.dress request r).status = r.status :=
  (hF.status_compress _ _ _).trans (hF.status_share _ _ _)

theorem body_dress (hF : app.framework.Documented) (r : Response) : (app.dress request r).body = r.body :=
  (hF.body_compress _ _ _).trans (hF.body_share _ _ _)

namespace Head.IsDetection

theorem firstRoute?_eq (h : request.IsDetection) (app : Application) :
    app.declarations.firstRoute? request.toHead = some (.detect, []) := by
  simp [Declarations.firstRoute?, Application.declarations, routes, h.method, h.path, Route.segment?]

theorem routeRequest_eq (hF : app.framework.Documented) (h : request.IsDetection) :
    app.routeRequest request = detectEndpoint app request := by
  have hline : '\n' ∉ request.path := by
    rw [h.path]
    decide
  have hpages : ∀ page ∈ app.declarations.pages, ¬ page <+: request.path := by
    rw [h.path]
    show ∀ page ∈ ["/docs".toList, "/redoc".toList, "/openapi.json".toList], ¬ page <+: detectPath
    decide
  rw [Application.routeRequest, hF.route_of_firstRoute _ _ _ _ hline hpages (h.firstRoute?_eq app)]
  rfl

/-- Inside the access log a request for a detection becomes what comes of it at its endpoint. -/
theorem inner_eq (hF : app.framework.Documented) (h : request.IsDetection) (id : String) :
    app.inner id request =
      ((app.detected id request).1.mapResponse (app.dress request), (app.detected id request).2) := by
  have hpreflight : app.framework.preflight? app.originPolicy request.toHead = none := by
    apply hF.preflight?_of_method
    rw [h.method]
    decide
  rw [Application.inner, hpreflight, h.routeRequest_eq hF]
  rfl

end Head.IsDetection

/-! ## What a client gets -/

/-- What a client gets for a request: the status and the JSON body of the response. The events are recorded, and after them
what the access log records. -/
def Application.Answers (app : Application) (fresh : String) (request : Request) (status : Nat) (body : Json)
    (events : List Log.Event) : Prop :=
  ∃ response, app.answerTo fresh request =
      (response, events ++ app.accessEvents request status (request.id fresh)) ∧
    response.status = status ∧ response.body = .json body

/-- The client gets what is answered to a crash. The events are recorded, and after them the cause of the crash. -/
def Application.Crashes (app : Application) (fresh : String) (request : Request) (cause : WideText)
    (events : List Log.Event) : Prop :=
  app.answerTo fresh request = (crashResponse (request.id fresh), events ++ [.crashed (request.id fresh) cause])

/-- The client gets the status and the body if the body can be written, and what is answered to a crash if it cannot. The
events are recorded before. -/
structure Application.Sends (app : Application) (fresh : String) (request : Request) (status : Nat) (body : Json)
    (events : List Log.Event) : Prop where
  answers : app.framework.encode body = none → app.Answers fresh request status body events
  crashes : ∀ e, app.framework.encode body = some e → app.Crashes fresh request e.text events

/-- A response reaches the client, and its status the access log. -/
theorem answerTo_of_answered {r : Response} (hF : app.framework.Documented) (hto : request.IsDetection)
    (h : app.detected (request.id fresh) request = (.answered r, events)) :
    app.answerTo fresh request = ((app.dress request r).setHeader requestIdHeader (request.id fresh),
      events ++ app.accessEvents request r.status (request.id fresh)) := by
  rw [answerTo_eq, hto.inner_eq hF, h]
  dsimp only [Outcome.mapResponse, Application.closingEvents, Outcome.finish]
  rw [status_dress hF]

theorem answers_of_answered (hF : app.framework.Documented) (hto : request.IsDetection)
    (h : app.detected (request.id fresh) request = (.answered (.json status body), events)) :
    app.Answers fresh request status body events :=
  ⟨_, answerTo_of_answered hF hto h, status_dress hF _, body_dress hF _⟩

theorem crashes_of_raised (hF : app.framework.Documented) (hto : request.IsDetection)
    (h : app.detected (request.id fresh) request = (.raised e, events)) :
    app.Crashes fresh request e.text events := by
  rw [Application.Crashes, answerTo_eq, hto.inner_eq hF, h]
  rfl

theorem Application.Sends.status_ne {other : Nat} (h : app.Sends fresh request status body events) (hne : status ≠ other)
    (hcrash : 500 ≠ other) : (app.answerTo fresh request).1.status ≠ other := by
  cases hencode : app.framework.encode body with
  | none =>
    obtain ⟨response, hanswer, hstatus, _⟩ := h.answers hencode
    rw [hanswer]
    exact hstatus ▸ hne
  | some e =>
    rw [h.crashes e hencode]
    exact hcrash

theorem answerJson_of_encode_eq_none (h : F.encode v = none) (status : Nat) :
    F.answerJson status v = .answered (.json status v) := by
  rw [Framework.answerJson, h]

theorem answerJson_of_encode_eq_some (h : F.encode v = some e) (status : Nat) : F.answerJson status v = .raised e := by
  rw [Framework.answerJson, h]

theorem settle_answered (F : Framework) (id : String) (r : Response) (events : List Log.Event) :
    F.settle id (.answered r, events) = (.answered r, events) := rfl

theorem settle_raised (F : Framework) (id : String) (e : Raised) (events : List Log.Event) :
    F.settle id (.raised e, events) = ((F.conclude id e).1, events ++ (F.conclude id e).2) := rfl

/-- What is raised where a value cannot be written is not handled. -/
theorem settle_answerJson (hF : F.Documented) (id : String) (status : Nat) (v : Json) (events : List Log.Event) :
    F.settle id (F.answerJson status v, events) = (F.answerJson status v, events) := by
  cases hencode : F.encode v with
  | none => rw [answerJson_of_encode_eq_none hencode, settle_answered]
  | some e =>
    rw [answerJson_of_encode_eq_some hencode, settle_raised,
      Framework.conclude_of_unhandled (hF.unhandled_of_encode v e hencode), List.append_nil]

theorem sends_of_answerJson (hF : app.framework.Documented) (hto : request.IsDetection)
    (h : app.detected (request.id fresh) request = (app.framework.answerJson status body, events)) :
    app.Sends fresh request status body events := by
  constructor
  · intro hencode
    rw [answerJson_of_encode_eq_none hencode] at h
    exact answers_of_answered hF hto h
  · intro e hencode
    rw [answerJson_of_encode_eq_some hencode] at h
    exact crashes_of_raised hF hto h

/-! ## Bodies -/

section Bodies

open DetectRequest Schema

variable {members : List (WideText × Json)} {content : WideText} {declared style : Option WideText}
  {values : List (Option WideText)} {errors : List Schema.Error}

/-- An object that asks for a detection gives the fields what it asks for. -/
theorem bind_of_asksFor (hF : F.Documented) (htype : F.takesJson request.toHead = true)
    (hread : Json.read F.readingDepth request.body = .ok (.object members))
    (hasks : AsksFor members content declared style) :
    F.bind fields request = .ok [some content, declared, style] := by
  rw [hF.bind_of_read _ _ _ htype hread, readBody, readFields_eq_ok_iff_asksFor.2 ⟨content, declared, style, hasks, rfl⟩]
  rfl

/-- Fields get their texts from an object that asks for a detection. -/
theorem exists_asksFor_of_bind (hF : F.Documented) (h : F.bind fields request = .ok values) :
    F.takesJson request.toHead = true ∧ ∃ members content declared style,
      Json.read F.readingDepth request.body = .ok (.object members) ∧ AsksFor members content declared style ∧
        values = [some content, declared, style] := by
  obtain ⟨htype, v, hread, hvalues⟩ := hF.read_of_bind _ _ _ h
  refine ⟨htype, ?_⟩
  cases v with
  | object members =>
    rw [readBody] at hvalues
    cases hfields : readFields members fields with
    | ok values' =>
      rw [hfields] at hvalues
      obtain rfl := Except.ok.inj hvalues
      obtain ⟨content, declared, style, hasks, rfl⟩ := readFields_eq_ok_iff_asksFor.1 hfields
      exact ⟨members, content, declared, style, hread, hasks, rfl⟩
    | error errors =>
      rw [hfields] at hvalues
      cases hvalues
  | _ => cases hvalues

/-- A request for a detection whose body makes a detection request. -/
structure Request.Reaches (F : Framework) (request : Request) (r : DetectRequest) : Prop
    extends request.toHead.IsDetection where
  form : ∃ values, F.bind fields request = .ok values ∧ ofValues? values = some r

/-- Whatever is bound makes a detection request. -/
theorem exists_reaches_of_bind (hF : F.Documented) (hto : request.IsDetection) (h : F.bind fields request = .ok values) :
    ∃ r, request.Reaches F r := by
  obtain ⟨_, _, content, declared, style, _, _, rfl⟩ := exists_asksFor_of_bind hF h
  exact ⟨⟨content, declared, style.map WideText.lowercase⟩, hto, _, h, rfl⟩

theorem reaches_of_asksFor (hF : F.Documented) (hto : request.IsDetection) (htype : F.takesJson request.toHead = true)
    (hread : Json.read F.readingDepth request.body = .ok (.object members))
    (hasks : AsksFor members content declared style) :
    request.Reaches F ⟨content, declared, style.map WideText.lowercase⟩ :=
  ⟨hto, _, bind_of_asksFor hF htype hread hasks, rfl⟩

/-- What makes a detection request asks for it. -/
theorem Request.Reaches.exists_asksFor (h : request.Reaches F r) (hF : F.Documented) :
    F.takesJson request.toHead = true ∧ ∃ members style, Json.read F.readingDepth request.body = .ok (.object members) ∧
      AsksFor members r.content r.declaredLanguage style ∧ r.labelStyle = style.map WideText.lowercase := by
  obtain ⟨values, hbind, hvalues⟩ := h.form
  obtain ⟨htype, members, content, declared, style, hread, hasks, rfl⟩ := exists_asksFor_of_bind hF hbind
  obtain rfl := Option.some.inj hvalues
  exact ⟨htype, members, style, hread, hasks, rfl⟩

/-- What comes of a request that makes a detection request. -/
theorem Request.Reaches.detected_eq (h : request.Reaches app.framework r) (id : String) :
    app.detected id request = app.framework.settle id (answerDetection app r) := by
  obtain ⟨values, hbind, hvalues⟩ := h.form
  rw [Application.detected, detectEndpoint, hbind]
  dsimp only
  rw [hvalues]

/-- What comes of a request whose body is refused. -/
theorem detected_of_bind_eq_error (h : app.framework.bind fields request = .error outcome) (id : String) :
    app.detected id request = app.framework.settle id (outcome, []) := by
  rw [Application.detected, detectEndpoint, h]

end Bodies

/-! ## Detectors -/

/-- What the detector raises is what the handlers of exceptions see. -/
theorem Request.Reaches.detected_of_error (h : request.Reaches app.framework r)
    (hdetector : app.detector r = (.error e, events)) (id : String) :
    app.detected id request =
      ((app.framework.conclude id e).1, events ++ (app.framework.conclude id e).2) := by
  rw [h.detected_eq, answerDetection, hdetector]
  rfl

/-- What the detector finds is answered. -/
theorem Request.Reaches.detected_of_ok {d : Detection} (h : request.Reaches app.framework r)
    (hF : app.framework.Documented) (hdetector : app.detector r = (.ok d, events)) (id : String) :
    app.detected id request = (app.framework.answerJson 200 (detectionJson d), events) := by
  rw [h.detected_eq, answerDetection, hdetector]
  exact settle_answerJson hF id 200 (detectionJson d) events

section Service

variable {settings : Settings} {t : Table} {style : Option String} {event : Log.Event}

/-- The service detector asks the service for what is shown. -/
theorem serviceDetector_eq (hstyle : r.labelStyle = style.map WideText.ofString) :
    serviceDetector settings t r =
      Service.detect settings t r.content.shown (r.declaredLanguage.map WideText.shown) style := by
  unfold serviceDetector
  cases style with
  | none => rw [hstyle]; rfl
  | some style =>
    rw [hstyle]
    dsimp only [Option.map_some]
    rw [WideText.text?_ofString]

/-- A style that is no text is unknown. -/
theorem serviceDetector_of_hasHalf (settings : Settings) (t : Table) (r : DetectRequest) {style : WideText}
    (hstyle : r.labelStyle = some style) (h : style.hasHalf = true) :
    serviceDetector settings t r = (.error (Service.unknownStyle style).raised, []) := by
  unfold serviceDetector
  rw [hstyle]
  dsimp only
  rw [WideText.text?_eq_none_iff.2 h]

/-- The style of a request is a text, or it holds halves of surrogate pairs. -/
theorem style_cases (style : Option WideText) :
    (∃ s : Option String, style = s.map WideText.ofString) ∨
      ∃ w, style = some w ∧ w.hasHalf = true := by
  cases style with
  | none => exact .inl ⟨none, rfl⟩
  | some w =>
    cases hhalf : w.hasHalf with
    | false => exact .inl ⟨some w.shown, congrArg some (WideText.eq_shown hhalf)⟩
    | true => exact .inr ⟨w, rfl, hhalf⟩

/-- **The service detector** finds a language and records this, or it raises a broken rule or that a value is wrong, and
records nothing. -/
theorem serviceDetector_cases (settings : Settings) (t : Table) (r : DetectRequest) :
    (∃ style d, r.labelStyle = style.map WideText.ofString ∧
      (Service.detect settings t r.content.shown (r.declaredLanguage.map WideText.shown) style).1 = .ok d ∧
        serviceDetector settings t r = (.ok d, [.detected d.language d.method r.content.length])) ∨
    (∃ message field details,
      serviceDetector settings t r = (.error (Failure.invalid message field details).raised, [])) ∨
    serviceDetector settings t r = (.error (.valueError (Text.unwrittenMessage (some Text.usualDigits))), []) := by
  rcases style_cases r.labelStyle with ⟨style, hstyle⟩ | ⟨style, hstyle, hhalf⟩
  · rw [serviceDetector_eq hstyle]
    rcases Service.detect_cases settings t r.content.shown (r.declaredLanguage.map WideText.shown) style
      (some Text.usualDigits) with ⟨_, h⟩ | ⟨known, _, ⟨_, h⟩ | ⟨_, h⟩⟩
    · rw [h, Service.unknownStyle_eq]
      exact .inr (.inl ⟨_, _, _, rfl⟩)
    · rw [h]
      cases hwritten : Text.isWritten (some Text.usualDigits) settings.maxContentLength with
      | true =>
        rw [Service.tooLong_of_isWritten hwritten, Service.contentTooLong_eq]
        exact .inr (.inl ⟨_, _, _, rfl⟩)
      | false =>
        rw [Service.tooLong_of_not_isWritten hwritten]
        exact .inr (.inr rfl)
    · rw [h, WideText.length_shown]
      exact .inl ⟨style, _, hstyle, by rw [h], rfl⟩
  · rw [serviceDetector_of_hasHalf settings t r hstyle hhalf, Service.unknownStyle_eq]
    exact .inr (.inl ⟨_, _, _, rfl⟩)

/-- The service detector records nothing but what it has found. -/
theorem eq_detected_of_mem_serviceDetector (h : event ∈ (serviceDetector settings t r).2) :
    ∃ language method length, event = .detected language method length := by
  rcases serviceDetector_cases settings t r with ⟨_, d, _, _, heq⟩ | ⟨_, _, _, heq⟩ | heq
  · rw [heq] at h
    exact ⟨_, _, _, List.mem_singleton.1 h⟩
  · rw [heq] at h
    cases h
  · rw [heq] at h
    cases h

end Service

/-! ## A server to try -/

/-- A server in the framework that the program runs in, with little room for nested values. -/
def Application.sample (settings : Settings) : Application := .standard (.standard 100 100) settings Table.default

theorem standard_sample (settings : Settings) :
    Application.standard (Application.sample settings).framework settings Table.default = .sample settings := rfl

theorem documented_sample (settings : Settings) : (Application.sample settings).framework.Documented :=
  Standard.documented_standard (by decide)

/-- The plainest request that submits a body. -/
def Request.submitting (body : String) : Request where
  method := "POST"
  path := detectPath
  headers := [("Content-Type", "application/json")]
  body := Text.encodeUtf8 body

theorem isDetection_submitting (body : String) : (Request.submitting body).IsDetection := ⟨rfl, rfl⟩

theorem takesJson_submitting (settings : Settings) (body : String) :
    (Application.sample settings).framework.takesJson (Request.submitting body).toHead = true :=
  (documented_sample settings).takesJson_of_contentType _ rfl

end SnippetLanguage.Http

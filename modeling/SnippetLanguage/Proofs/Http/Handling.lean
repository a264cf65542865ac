import SnippetLanguage.Http.Server

/-!
# What becomes of a request

Inside the access log, what becomes of a request is a function of the request and its id (`Application.inner`); the context
is read for the id only, and nothing but the log changes there (`run_inside`). From there to the client an answer gets its
id, and an exception becomes the response to a crash. So what the context holds before a request does not matter for it
(`run_handle`), and the response and the records are those of `answerTo_eq`.

Exceptions are handled by the first of their classes that is handled (`conclude_of_first`, `conclude_of_unhandled`). What is
recorded inside the access log is what the handlers of exceptions, the health check and the detector record
(`Covers.forall_mem_inner`).
-/

namespace SnippetLanguage.Http

variable {F : Framework} {app : Application} {request : Request} {fresh id : String} {e : Raised} {outcome : Outcome}
  {events : List Log.Event} {P : Log.Event → Prop}

theorem Outcome.mapResponse_mapResponse (outcome : Outcome) (f g : Response → Response) :
    (outcome.mapResponse f).mapResponse g = outcome.mapResponse fun r => g (f r) := by
  cases outcome <;> rfl

/-! ## Exceptions -/

namespace Framework

theorem isSome_concludeAs? (id : String) (e : Raised) (c : ErrorClass) :
    (F.concludeAs? id e c).isSome = F.handles c := by
  cases c with
  | other name => simp [concludeAs?, handles]
  | _ => rfl

/-- The first class that is handled decides what becomes of an exception. -/
theorem conclude_of_first {c : ErrorClass} {ending : Ending} (h : e.classes.find? F.handles = some c)
    (hc : F.concludeAs? id e c = some ending) : F.conclude id e = ending := by
  obtain ⟨_, front, back, hclasses, hfront⟩ := List.find?_eq_some_iff_append.1 h
  have hnone : front.findSome? (F.concludeAs? id e) = none := by
    rw [List.findSome?_eq_none_iff]
    intro c' hc'
    have hnot := hfront c' hc'
    rw [← isSome_concludeAs? id e] at hnot
    simpa using hnot
  rw [conclude, hclasses, List.findSome?_append, hnone, List.findSome?_cons, hc]
  rfl

/-- An exception that is not handled passes. -/
theorem conclude_of_unhandled (h : F.Unhandled e) : F.conclude id e = (.raised e, []) := by
  have hnone : e.classes.findSome? (F.concludeAs? id e) = none := by
    rw [List.findSome?_eq_none_iff]
    intro c hc
    have hnot := h c hc
    rw [← isSome_concludeAs? id e] at hnot
    simpa using hnot
  rw [conclude, hnone]
  rfl

/-- The program's handlers answer with error bodies. -/
theorem exists_errorBody_of_programReply? {c : ErrorClass} {reply : Reply} (h : programReply? id e c = some reply) :
    ∃ code message details, reply.body = errorBody code message details id := by
  cases c with
  | invalid =>
    obtain rfl := Option.some.inj h
    exact ⟨"validation_error", e.message, some e.details, rfl⟩
  | notFound =>
    obtain rfl := Option.some.inj h
    exact ⟨"not_found", e.message, some e.details, rfl⟩
  | internal =>
    obtain rfl := Option.some.inj h
    exact ⟨"server_error", e.message, none, rfl⟩
  | other name => cases h

/-- Whatever becomes of an exception is what a handler makes of it, or the exception itself. -/
theorem conclude_cases (F : Framework) (id : String) (e : Raised) :
    (∃ c reply, programReply? id e c = some reply ∧
      F.conclude id e = (F.answerJson reply.status reply.body, reply.events)) ∨
    (∃ name handler, F.handler? name = some handler ∧ F.conclude id e = (handler e, [])) ∨
    F.conclude id e = (.raised e, []) := by
  unfold conclude
  cases hfound : e.classes.findSome? (F.concludeAs? id e) with
  | none => exact .inr (.inr rfl)
  | some ending =>
    obtain ⟨c, _, hc⟩ := List.exists_of_findSome?_eq_some hfound
    cases c with
    | other name =>
      obtain ⟨handler, hhandler, rfl⟩ := Option.map_eq_some_iff.1 hc
      exact .inr (.inl ⟨name, handler, hhandler, rfl⟩)
    | invalid => exact .inl ⟨.invalid, _, rfl, (Option.some.inj hc).symm⟩
    | notFound => exact .inl ⟨.notFound, _, rfl, (Option.some.inj hc).symm⟩
    | internal => exact .inl ⟨.internal, _, rfl, (Option.some.inj hc).symm⟩

end Framework

/-! ## Inside the access log -/

/-- What becomes of a request inside the access log, under an id. -/
def Application.inner (app : Application) (id : String) (request : Request) : Ending :=
  match app.framework.preflight? app.originPolicy request.toHead with
  | some r => (.answered (app.framework.compress minimumSize request.toHead r), [])
  | none =>
    let ending := app.framework.settle id (app.routeRequest request)
    (ending.1.mapResponse fun r => app.framework.compress minimumSize request.toHead
      (app.framework.share app.originPolicy request.toHead r), ending.2)

theorem run_inside (app : Application) (request : Request) (id : String) (log : List Log.Event) :
    (app.inside request).run ⟨id, log⟩ = ((app.inner id request).1, ⟨id, log ++ (app.inner id request).2⟩) := by
  unfold Application.inside Application.inner withCompression withCrossOrigin
  cases app.framework.preflight? app.originPolicy request.toHead with
  | some r => exact congrArg (fun log' => (_, Context.mk id log')) (List.append_nil log).symm
  | none => exact congrArg (·, _) (Outcome.mapResponse_mapResponse _ _ _)

/-! ## From inside the access log to the client -/

/-- What the access log records of an answer with a status. -/
def Application.accessEvents (app : Application) (request : Request) (status : Nat) (id : String) : List Log.Event :=
  let path := app.framework.urlPath request.toHead
  if path = quietPath then [] else [.answered request.method (String.ofList path) status id (clientName request.client)]

/-- What the access log records of what happened inside it. -/
def Application.outcomeEvents (app : Application) (request : Request) (id : String) : Outcome → List Log.Event
  | .answered r => app.accessEvents request r.status id
  | .raised _ => []

theorem run_withAccessLog (app : Application) {inner : Handler} {c : Context} {log : List Log.Event}
    (h : (inner request).run c = (outcome, ⟨id, log⟩)) :
    (withAccessLog app.framework.urlPath inner request).run c =
      (outcome, ⟨id, log ++ app.outcomeEvents request id outcome⟩) := by
  unfold withAccessLog Application.outcomeEvents Application.accessEvents
  dsimp only
  rw [StateT.run_bind, h]
  by_cases hquiet : app.framework.urlPath request.toHead = quietPath
  · cases outcome <;> simp only [hquiet, if_true, List.append_nil] <;> rfl
  · cases outcome with
    | answered r =>
      simp only [hquiet, if_false]
      rfl
    | raised e =>
      simp only [hquiet, if_false, List.append_nil]
      rfl

/-- What comes out of the layers is what comes out of the inner ones, with the id. -/
theorem run_layered (app : Application) (fresh : String) (request : Request) (c : Context) :
    (app.layered fresh request).run c =
      ((app.inner (request.id fresh) request).1.mapResponse (·.setHeader requestIdHeader (request.id fresh)),
        ⟨request.id fresh, c.log ++ (app.inner (request.id fresh) request).2 ++
          app.outcomeEvents request (request.id fresh) (app.inner (request.id fresh) request).1⟩) := by
  have hlog := run_withAccessLog app (run_inside app request (request.id fresh) c.log)
  show (((withAccessLog app.framework.urlPath app.inside request).run ⟨request.id fresh, c.log⟩).1.mapResponse _,
    ((withAccessLog app.framework.urlPath app.inside request).run ⟨request.id fresh, c.log⟩).2) = _
  rw [hlog]

/-- The response to what happened inside the access log: an answer with the id of the request, or what is answered to a
crash. -/
def Outcome.finish (id : String) : Outcome → Response
  | answered r => r.setHeader requestIdHeader id
  | raised _ => crashResponse id

/-- What is recorded of what happened inside the access log. -/
def Application.closingEvents (app : Application) (request : Request) (id : String) : Outcome → List Log.Event
  | .answered r => app.accessEvents request r.status id
  | .raised e => [.crashed id e.text]

/-- The response to a request in a context that holds nothing yet, and what is recorded for it. -/
def Application.answerTo (app : Application) (fresh : String) (request : Request) : Response × List Log.Event :=
  let run := (app.handle fresh request).run {}
  (run.1, run.2.log)

theorem run_handle_eq (app : Application) (fresh : String) (request : Request) (c : Context) :
    (app.handle fresh request).run c = ((app.inner (request.id fresh) request).1.finish (request.id fresh),
      ⟨request.id fresh, c.log ++ (app.inner (request.id fresh) request).2 ++
        app.closingEvents request (request.id fresh) (app.inner (request.id fresh) request).1⟩) := by
  unfold Application.handle
  rw [StateT.run_bind, run_layered]
  cases (app.inner (request.id fresh) request).1 with
  | answered r => rfl
  | raised e =>
    simp only [Application.outcomeEvents, List.append_nil]
    rfl

/-- **From inside the access log to the client.** -/
theorem answerTo_eq (app : Application) (fresh : String) (request : Request) :
    app.answerTo fresh request = ((app.inner (request.id fresh) request).1.finish (request.id fresh),
      (app.inner (request.id fresh) request).2 ++
        app.closingEvents request (request.id fresh) (app.inner (request.id fresh) request).1) := by
  rw [Application.answerTo, run_handle_eq]
  rfl

/-- **The context does not matter.** Whatever it holds before, the response to a request and what is recorded for it are
the same, and afterwards it holds the id of the request. -/
theorem run_handle (app : Application) (fresh : String) (request : Request) (c : Context) :
    (app.handle fresh request).run c =
      ((app.answerTo fresh request).1, ⟨request.id fresh, c.log ++ (app.answerTo fresh request).2⟩) := by
  rw [answerTo_eq, run_handle_eq, List.append_assoc]

/-! ## What is recorded inside the access log -/

/-- All events that a server records inside the access log under an id are of the kind `P`. -/
structure Covers (app : Application) (id : String) (P : Log.Event → Prop) : Prop where
  refused : ∀ message, P (.refused id message)
  failed : ∀ message details, P (.failed id message details)
  probeFailed : P .probeFailed
  detector : ∀ r, ∀ event ∈ (app.detector r).2, P event

theorem events_languageEndpoint (app : Application) (tag : List Char) : (languageEndpoint app tag).2 = [] := by
  unfold languageEndpoint
  split <;> rfl

namespace Covers

variable (h : Covers app id P)

include h

theorem forall_mem_conclude (F : Framework) (e : Raised) : ∀ event ∈ (F.conclude id e).2, P event := by
  rcases F.conclude_cases id e with ⟨c, reply, hreply, heq⟩ | ⟨_, _, _, heq⟩ | heq
  · rw [heq]
    cases c with
    | invalid =>
      obtain rfl := Option.some.inj hreply
      exact List.forall_mem_singleton.2 (h.refused _)
    | notFound =>
      obtain rfl := Option.some.inj hreply
      exact List.forall_mem_nil P
    | internal =>
      obtain rfl := Option.some.inj hreply
      exact List.forall_mem_singleton.2 (h.failed _ _)
    | other name => cases hreply
  · rw [heq]
    exact List.forall_mem_nil P
  · rw [heq]
    exact List.forall_mem_nil P

theorem forall_mem_answerDetection (r : DetectRequest) : ∀ event ∈ (answerDetection app r).2, P event := by
  have hdetector := h.detector r
  unfold answerDetection
  split
  · rename_i heq
    rwa [heq] at hdetector
  · rename_i heq
    rwa [heq] at hdetector

theorem forall_mem_detectEndpoint (request : Request) : ∀ event ∈ (detectEndpoint app request).2, P event := by
  unfold detectEndpoint
  split
  · exact List.forall_mem_nil P
  · split
    · exact h.forall_mem_answerDetection _
    · exact List.forall_mem_nil P

theorem forall_mem_endpoint (segment : List Char) (request : Request) (endpoint : Endpoint) :
    ∀ event ∈ (app.endpoint segment request endpoint).2, P event := by
  cases endpoint with
  | detect => exact h.forall_mem_detectEndpoint request
  | list => exact List.forall_mem_nil P
  | language =>
    rw [Application.endpoint, events_languageEndpoint]
    exact List.forall_mem_nil P
  | health =>
    show ∀ event ∈ (if app.healthy then [] else [Log.Event.probeFailed]), P event
    split
    · exact List.forall_mem_nil P
    · exact List.forall_mem_singleton.2 h.probeFailed

theorem forall_mem_routeRequest (request : Request) : ∀ event ∈ (app.routeRequest request).2, P event := by
  unfold Application.routeRequest
  split
  · exact h.forall_mem_endpoint _ _ _
  · exact List.forall_mem_nil P

/-- Inside the access log only events of the kind are recorded. -/
theorem forall_mem_inner (request : Request) : ∀ event ∈ (app.inner id request).2, P event := by
  have hrouted := h.forall_mem_routeRequest request
  unfold Application.inner
  split
  · exact List.forall_mem_nil P
  · dsimp only
    generalize app.routeRequest request = ending at hrouted
    obtain ⟨outcome, events⟩ := ending
    cases outcome with
    | answered r => exact hrouted
    | raised e => exact List.forall_mem_append.2 ⟨hrouted, h.forall_mem_conclude _ e⟩

end Covers

end SnippetLanguage.Http

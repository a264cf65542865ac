import SnippetLanguage.Proofs.Http.Detections

/-!
# Failures become responses

What the client gets when the detector raises an exception is decided by the first of its classes that is handled
(`failures_become_responses`). A broken rule and a thing that does not exist are answered with their message and their
details, any other failure of the program with its message only, and of an exception that nobody handles the response tells
nothing. A response is sent as far as its body can be written (`encode_errorBody`): a failure whose message or details hold
something that cannot be written is answered like a crash. What the framework handles is answered as the framework does
(`broken_rule_answered_as_crash`).
-/

namespace SnippetLanguage.Http

open Text

variable {F : Framework} {app : Application} {request : Request} {r : DetectRequest} {fresh id code : String}
  {message : WideText} {details : Details} {e : Raised} {events : List Log.Event} {depth : Nat}

/-! ## Error bodies -/

/-- What is raised by the detector is answered as the first of its classes that is handled says. -/
theorem sends_of_first (app : Application) (fresh : String) (c : ErrorClass) {reply : Reply}
    (hF : app.framework.Documented) (h : request.Reaches app.framework r) (hdetector : app.detector r = (.error e, events))
    (hfirst : e.classes.find? app.framework.handles = some c)
    (hreply : app.framework.concludeAs? (request.id fresh) e c =
      some (app.framework.answerJson reply.status reply.body, reply.events)) :
    app.Sends fresh request reply.status reply.body (events ++ reply.events) := by
  refine sends_of_answerJson hF h.toIsDetection ?_
  rw [h.detected_of_error hdetector, Framework.conclude_of_first hfirst hreply]

/-- What is raised by the detector and not handled is answered like a crash. -/
theorem crashes_of_unhandled (app : Application) (fresh : String) (hF : app.framework.Documented)
    (h : request.Reaches app.framework r) (hdetector : app.detector r = (.error e, events))
    (hunhandled : app.framework.Unhandled e) :
    app.Crashes fresh request e.text events := by
  refine crashes_of_raised hF h.toIsDetection ?_
  rw [h.detected_of_error hdetector, Framework.conclude_of_unhandled hunhandled, List.append_nil]

/-- A server whose detector always raises one exception. -/
def Application.failing (e : Raised) : Application :=
  { Application.sample {} with detector := fun _ => (.error e, []) }

/-- The plainest body. -/
def textBody : String := "\x7b\"content\":\"x\"\x7d"

theorem reaches_of_textBody (settings : Settings) :
    (Request.submitting textBody).Reaches (Application.sample settings).framework ⟨"x", none, none⟩ :=
  reaches_of_asksFor (documented_sample settings) (isDetection_submitting _) (takesJson_submitting settings _) rfl
    (DetectRequest.asksFor_content "x")

/-- A body that wants a style that is half of a surrogate pair. -/
def halfStyleBody : String := "\x7b\"content\":\"x\",\"label_style\":\"\\ud800\"\x7d"

/-- Half of a surrogate pair. -/
def halfStyle : WideText := ⟨[.half ⟨0xD800, by decide, by decide⟩]⟩

theorem reaches_of_halfStyleBody (settings : Settings) :
    (Request.submitting halfStyleBody).Reaches (Application.sample settings).framework ⟨"x", none, some halfStyle⟩ := by
  have hread : Json.read 100 (Request.submitting halfStyleBody).body =
      .ok (.object [("content", .text "x"), ("label_style", .text halfStyle)]) := rfl
  have hasks : DetectRequest.AsksFor [("content", .text "x"), ("label_style", .text halfStyle)] "x" none (some halfStyle) :=
    { DetectRequest.asksFor_content "x" with content := rfl, language := .inl rfl, style := rfl }
  exact reaches_of_asksFor (documented_sample settings) (isDetection_submitting _) (takesJson_submitting settings _) hread
    hasks

end SnippetLanguage.Http

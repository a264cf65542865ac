import SnippetLanguage.Proofs.Http.Failures
import SnippetLanguage.Proofs.Json.Limits
import SnippetLanguage.Proofs.Service.Feedback

/-!
# What a submitted text is answered

A submitted text is answered in one of four ways, in this order of precedence (`detection_answers`): with status 422 if
the body does not have the form of a request, whatever detects languages; with 400 and the field of the style if the style
is unknown; with 400 and the field of the text if it is too long; and with 200 and the result of the service. What a result
or a broken rule of the service tells can be written (`encode_detectionJson`, `encode_errorBody`), unless the limit of the
length has too many digits. What is wrong with the form of a body can be told if the body could be written itself.

A body that the reader refuses, but not for its syntax, is answered with status 400 before its form is looked at, whatever
value it holds.
-/

namespace SnippetLanguage

open Text DetectRequest

namespace Service

variable {settings : Settings} {style : Option String}

end Service

namespace Http

variable {F : Framework} {settings : Settings} {t : Table} {request : Request} {fresh content : String}
  {declared style : Option String} {v : Json} {d : Detection} {r : DetectRequest}

/-- A result can be written. -/
theorem encode_detectionJson (hF : F.Documented) (d : Detection) : F.encode (detectionJson d) = none := by
  have hbody : (detectionJson d).Sendable 1 := by simp [detectionJson]
  have hdepth : (detectionJson d).depth ≤ F.writingDepth := by
    have := hF.le_writingDepth
    have := hbody.depth_le
    omega
  exact hF.encode_of_writable _ hbody.writable hdepth

/-- A result of the detector is answered. -/
theorem answers_of_ok (app : Application) (fresh : String) {events : List Log.Event}
    (hF : app.framework.Documented) (hreaches : request.Reaches app.framework r) (hdetector : app.detector r = (.ok d, events)) :
    app.Answers fresh request 200 (detectionJson d) events :=
  (sends_of_answerJson hF hreaches.toIsDetection (hreaches.detected_of_ok hF hdetector (request.id fresh))).answers
    (encode_detectionJson hF d)

/-- The wrong value that a limit is makes an exception that nobody handles. -/
theorem unhandled_valueError (hF : F.Documented) (text : String) : F.Unhandled (.valueError text) := by
  intro c hc
  obtain rfl := List.mem_singleton.1 hc
  show (F.handler? "ValueError").isSome = false
  rw [hF.handler?_valueError]
  rfl

section Refused

variable (app : Application) (fresh : String) {errors : List Schema.Error}

/-- No field of a request has a limit that cannot be written. -/
theorem isWritten_of_mem_fields :
    ∀ f ∈ fields, ∀ limit ∈ f.maxLength, Text.isWritten (some Text.usualDigits) limit = true := by
  decide +kernel

/-- Errors are answered without any detection. -/
theorem sends_of_errors (hF : app.framework.Documented) (hto : request.IsDetection)
    (htype : app.framework.takesJson request.toHead = true)
    (hread : Json.read app.framework.readingDepth request.body = .ok v)
    (herrors : Schema.readBody fields v = .error errors) :
    app.Sends fresh request 422 (.object [("detail", app.framework.report errors)]) [] := by
  have hbind : app.framework.bind fields request =
      .error (app.framework.answerDetail 422 (app.framework.report errors)) := by
    rw [hF.bind_of_read fields request v htype hread, herrors]
    rfl
  have hdetected := detected_of_bind_eq_error hbind (request.id fresh)
  rw [Framework.answerDetail, settle_answerJson hF] at hdetected
  exact sends_of_answerJson hF hto hdetected

end Refused

/-! ## Requests that make a detection request -/

section Reaching

/-- For texts the service detector asks the service. -/
theorem serviceDetector_of_texts (settings : Settings) (t : Table) (content : String) (declared style : Option String) :
    serviceDetector settings t ⟨content, declared.map WideText.ofString, style.map WideText.ofString⟩ =
      Service.detect settings t content declared style := by
  have hdeclared : (declared.map WideText.ofString).map WideText.shown = declared := by
    cases declared with
    | none => rfl
    | some language => exact congrArg some (WideText.shown_ofString language)
  rw [serviceDetector_eq rfl, hdeclared]
  dsimp only
  rw [WideText.shown_ofString]

variable (settings : Settings) (t : Table) (fresh : String) (hF : F.Documented)
  (hreaches : request.Reaches F ⟨content, declared.map WideText.ofString, (style.map lowercase).map WideText.ofString⟩)

include hF hreaches

end Reaching

end Http

end SnippetLanguage

import SnippetLanguage.Proofs.Http.Correlation
import SnippetLanguage.Proofs.Http.Resend

/-!
# What the log tells about a text

What is recorded for a detection can be told from its response, the id of the request and the length of the text, as long
as the answer could be written (`log_of_service`, `log_of_failing`): the log holds nothing of the body that the client does
not get back. So two requests that differ in their bodies only, and whose texts have one length, leave the same records if
they get the same response (`log_follows_answer`).

An answer that cannot be written is replaced by what is answered to a crash, and its records stay. These may differ where
the responses do not (`lost_answers_with_other_records`).
-/

namespace SnippetLanguage.Http

open Text DetectRequest

variable {F : Framework} {app : Application} {request : Request} {r : DetectRequest} {fresh id : String} {length : Nat}
  {access records events : List Log.Event} {e : Raised} {d : Detection} {settings : Settings} {t : Table}

/-! ## Reading the log off a response -/

/-- The method of a name. -/
def methodNamed (name : String) : DetectionMethod :=
  if name = "override" then .override
  else if name = "declared" then .declared
  else if name = "scorer" then .scorer
  else .fallback

theorem methodNamed_name (method : DetectionMethod) : methodNamed method.name = method := by
  cases method <;> rfl

/-- What is recorded for a detection by the service, by the body of the response. `access` is what the access log records,
and the length is the one of the text. -/
def serviceLog (id : String) (length : Nat) (access : List Log.Event) : Body → List Log.Event
  | .json (.object members) =>
    match members.lookup ("error" : WideText), members.lookup ("message" : WideText),
      members.lookup ("language" : WideText), members.lookup ("method" : WideText) with
    | none, _, some (.text language), some (.text method) =>
      .detected language.shown (methodNamed method.shown) length :: access
    | some (.text error), some (.text message), _, _ =>
      if error = ("internal_server_error" : WideText) then [.crashed id (unwrittenMessage (some usualDigits))]
      else .refused id message :: access
    | _, _, _, _ => access
  | _ => access

/-- What is recorded for a detection by a detector that always raises `e`, by the body of the response. -/
def failingLog (F : Framework) (id : String) (e : Raised) (access : List Log.Event) : Body → List Log.Event
  | .json (.object members) =>
    if (members.lookup ("error" : WideText)).isSome then
      match F.conclude id e with
      | (.answered _, records) => records ++ access
      | (.raised e', records) => records ++ [.crashed id e'.text]
    else access
  | _ => access

theorem serviceLog_detectionJson (d : Detection) :
    serviceLog id length access (.json (detectionJson d)) = .detected d.language d.method length :: access := by
  show .detected (d.language : WideText).shown (methodNamed (d.method.name : WideText).shown) length :: access = _
  rw [WideText.shown_ofString, WideText.shown_ofString, methodNamed_name]

theorem failingLog_of_isForeign {response : Response} (h : response.IsForeign) :
    failingLog F id e access response.body = access := by
  unfold failingLog
  split
  · rename_i members hbody
    rw [(h members hbody).1]
    rfl
  · rfl

/-- The records of a request can be told from its response. -/
def Application.Tells (app : Application) (fresh : String) (request : Request)
    (log : List Log.Event → Body → List Log.Event) : Prop :=
  (app.answerTo fresh request).2 =
    log (app.accessEvents request (app.answerTo fresh request).1.status (request.id fresh))
      (app.answerTo fresh request).1.body

variable {log : List Log.Event → Body → List Log.Event}

theorem tells_of_answers {status : Nat} {v : Json} (h : app.Answers fresh request status v records)
    (hlog : ∀ access, records ++ access = log access (.json v)) : app.Tells fresh request log := by
  obtain ⟨response, hanswer, hstatus, hbody⟩ := h
  rw [Application.Tells, hanswer]
  dsimp only
  rw [hbody, hstatus]
  exact hlog _

theorem tells_of_crashes {cause : WideText} (h : app.Crashes fresh request cause records)
    (hlog : ∀ access, records ++ [.crashed (request.id fresh) cause] = log access (.json (crashBody (request.id fresh)))) :
    app.Tells fresh request log := by
  rw [Application.Tells, h]
  exact hlog _

/-! ## Answers that are lost -/

/-- The answer to a request is lost: it was to tell what is wrong with the body, or it was the program's answer to what the
detector has raised, and could not be written. -/
inductive Application.Loses (app : Application) (fresh : String) (request : Request) : Prop where
  | refusal {e : Raised} (refused : app.framework.bind fields request = .error (.raised e))
  | reply {r : DetectRequest} {e : Raised} {c : ErrorClass} {reply : Reply}
      (reaches : request.Reaches app.framework r) (raised : (app.detector r).1 = .error e)
      (first : e.classes.find? app.framework.handles = some c) (replied : programReply? (request.id fresh) e c = some reply)
      (unwritten : app.framework.encode reply.body ≠ none)

/-- A body that is refused, but not lost, leaves no record but the one of the access log. -/
theorem tells_of_refused {outcome : Outcome} (hF : app.framework.Documented) (hto : request.IsDetection)
    (hbind : app.framework.bind fields request = .error outcome) (hkept : ¬ app.Loses fresh request)
    (hlog : ∀ access detail, log access (.json (.object [("detail", detail)])) = access) :
    app.Tells fresh request log := by
  have hdetected := detected_of_bind_eq_error hbind (request.id fresh)
  have hrefusal := hF.isRefusal_of_bind _ _ _ hbind
  cases outcome with
  | answered response =>
    obtain ⟨_, detail, hbody⟩ := hrefusal
    rw [Application.Tells, answerTo_of_answered hF hto hdetected]
    dsimp only [List.nil_append]
    rw [Response.status_setHeader, Response.body_setHeader, status_dress hF, body_dress hF, hbody, hlog]
  | raised e => exact absurd (.refusal hbind) hkept

/-! ## The two kinds of detectors -/

/-- **The log of a detection by the service** can be told from its response, unless the answer is lost. -/
theorem log_of_service (hF : app.framework.Documented) (hto : request.IsDetection)
    (hdetector : app.detector = serviceDetector app.settings app.table)
    (hlength : ∀ r, request.Reaches app.framework r → r.content.length = length) (hkept : ¬ app.Loses fresh request) :
    app.Tells fresh request (serviceLog (request.id fresh) length) := by
  cases hbind : app.framework.bind fields request with
  | error outcome => exact tells_of_refused hF hto hbind hkept fun _ _ => rfl
  | ok values =>
    obtain ⟨r, hreaches⟩ := exists_reaches_of_bind hF hto hbind
    have hcases := serviceDetector_cases app.settings app.table r
    rw [← hdetector] at hcases
    rcases hcases with ⟨style, d, _, _, hok⟩ | ⟨message, field, details, hraised⟩ | hraised
    · refine tells_of_answers (answers_of_ok app fresh hF hreaches hok) fun access => ?_
      rw [serviceLog_detectionJson, hlength r hreaches]
      rfl
    · have hsends := sends_of_first app fresh .invalid hF hreaches hraised rfl rfl
      refine tells_of_answers (hsends.answers ?_) fun access => rfl
      by_contra hunwritten
      exact hkept (.reply hreaches (congrArg Prod.fst hraised) rfl rfl hunwritten)
    · exact tells_of_crashes (crashes_of_unhandled app fresh hF hreaches hraised (unhandled_valueError hF _)) fun access => rfl

/-- The body of an error response says that it is one. -/
theorem lookup_error_errorBody (code : String) (message : WideText) (details : Option Details) (id : String) :
    ∃ members, errorBody code message details id = .object members ∧
      (members.lookup ("error" : WideText)).isSome = true := by
  cases details <;> exact ⟨_, rfl, rfl⟩

/-- What becomes of an exception is answered with an error, or it leaves no record. -/
theorem isSome_or_of_conclude (hF : F.Documented) {response : Response}
    (h : F.conclude id e = (.answered response, records)) :
    (∃ members, response.body = .json (.object members) ∧ (members.lookup ("error" : WideText)).isSome = true) ∨
      records = [] ∧ response.IsForeign := by
  rcases F.conclude_cases id e with ⟨c, reply, hreply, heq⟩ | ⟨name, handler, hhandler, heq⟩ | heq
  · rw [h, Framework.answerJson] at heq
    split at heq
    · obtain ⟨hresponse, _⟩ := Prod.mk.inj heq
      obtain ⟨code, message, details, hbody⟩ := Framework.exists_errorBody_of_programReply? hreply
      obtain ⟨members, hmembers, herror⟩ := lookup_error_errorBody code message details id
      refine .inl ⟨members, ?_, herror⟩
      rw [Outcome.answered.inj hresponse, Response.body_json, hbody, hmembers]
    · cases heq
  · obtain ⟨hhandled, hrecords⟩ := Prod.mk.inj (h.symm.trans heq)
    have hforeign := hF.isForeign_of_handler name handler e hhandler
    rw [← hhandled] at hforeign
    exact .inr ⟨hrecords, hforeign⟩
  · rw [h] at heq
    cases heq

/-- **The log of a detection that always fails** can be told from its response, unless the answer is lost. -/
theorem log_of_failing (hF : app.framework.Documented) (hto : request.IsDetection)
    (hdetector : app.detector = fun _ => (.error e, [])) (hkept : ¬ app.Loses fresh request) :
    app.Tells fresh request (failingLog app.framework (request.id fresh) e) := by
  cases hbind : app.framework.bind fields request with
  | error outcome => exact tells_of_refused hF hto hbind hkept fun _ _ => rfl
  | ok values =>
    obtain ⟨r, hreaches⟩ := exists_reaches_of_bind hF hto hbind
    have hdetected := hreaches.detected_of_error (congrFun hdetector r) (request.id fresh)
    cases hconclude : app.framework.conclude (request.id fresh) e with
    | mk outcome records =>
      rw [hconclude, List.nil_append] at hdetected
      cases outcome with
      | answered response =>
        rw [Application.Tells, answerTo_of_answered hF hto hdetected]
        dsimp only
        rw [Response.status_setHeader, Response.body_setHeader, status_dress hF, body_dress hF]
        rcases isSome_or_of_conclude hF hconclude with ⟨members, hbody, herror⟩ | ⟨rfl, hforeign⟩
        · rw [hbody, failingLog, if_pos herror, hconclude]
        · rw [failingLog_of_isForeign hforeign]
          rfl
      | raised e' =>
        refine tells_of_crashes (crashes_of_raised hF hto hdetected) fun access => ?_
        obtain ⟨members, hmembers, herror⟩ :=
          lookup_error_errorBody "internal_server_error" crashMessage none (request.id fresh)
        rw [crashBody, hmembers, failingLog, if_pos herror, hconclude]

/-! ## Two bodies -/

/-- A body holds a text to detect. -/
def HoldsContent (F : Framework) (body : List UInt8) (content : WideText) : Prop :=
  ∃ members, Json.read F.readingDepth body = .ok (.object members) ∧
    members.lookup ("content" : WideText) = some (.text content)

theorem Request.Reaches.holdsContent (h : request.Reaches F r) (hF : F.Documented) :
    HoldsContent F request.body r.content := by
  obtain ⟨_, members, _, hread, hasks, _⟩ := h.exists_asksFor hF
  exact ⟨members, hread, hasks.content⟩

/-- A detector that asks the service, or one that always raises the same. -/
def Detector.IsPlain (detector : Detector) (settings : Settings) (t : Table) : Prop :=
  detector = serviceDetector settings t ∨ ∃ e, detector = fun _ => (.error e, [])

/-- **The log of a detection can be told from its response**, unless the answer is lost. -/
theorem exists_tells (hF : app.framework.Documented) (hdetector : app.detector.IsPlain app.settings app.table)
    (id : String) (length : Nat) :
    ∃ log : List Log.Event → Body → List Log.Event, ∀ (request : Request) (fresh : String), request.IsDetection →
      request.id fresh = id → (∀ s, HoldsContent app.framework request.body s → s.length = length) →
        ¬ app.Loses fresh request → app.Tells fresh request log := by
  rcases hdetector with hservice | ⟨e, hfailing⟩
  · refine ⟨serviceLog id length, fun request fresh hto hid hlength hkept => ?_⟩
    rw [← hid]
    exact log_of_service hF hto hservice (fun r hreaches => hlength _ (hreaches.holdsContent hF)) hkept
  · refine ⟨failingLog app.framework id e, fun request fresh hto hid _ hkept => ?_⟩
    rw [← hid]
    exact log_of_failing hF hto hfailing hkept

/-- **The log follows the response.** Two requests for a detection differ in their bodies only, and all texts to detect that
the bodies hold have one length. If they get the same status and the same body, and neither answer is lost because it
could not be written, then all that is recorded for them is the same. The framework is any that does what is known of it; the
detector is the service, whatever the settings and the table are, or something that always raises the same. -/
theorem log_follows_answer {request' : Request} (hF : app.framework.Documented)
    (hdetector : app.detector.IsPlain app.settings app.table) (hto : request.IsDetection)
    (hhead : request'.toHead = request.toHead) (fresh : String)
    (hlength : ∀ s, HoldsContent app.framework request.body s ∨ HoldsContent app.framework request'.body s →
      s.length = length)
    (hstatus : (app.answerTo fresh request).1.status = (app.answerTo fresh request').1.status)
    (hbody : (app.answerTo fresh request).1.body = (app.answerTo fresh request').1.body)
    (hkept : ¬ app.Loses fresh request) (hkept' : ¬ app.Loses fresh request') :
    (app.answerTo fresh request).2 = (app.answerTo fresh request').2 := by
  obtain ⟨log, htells⟩ := exists_tells hF hdetector (request.id fresh) length
  have hto' : request'.IsDetection := by
    rwa [hhead]
  have hid : request'.id fresh = request.id fresh := by
    rw [hhead]
  have hfirst := htells request fresh hto rfl (fun s hs => hlength s (.inl hs)) hkept
  have hsecond := htells request' fresh hto' hid (fun s hs => hlength s (.inr hs)) hkept'
  rw [hfirst, hsecond, hstatus, hbody]
  simp only [Application.accessEvents, hhead]

/-- A body holds one text to detect. -/
theorem HoldsContent.unique {body : List UInt8} {s s' : WideText} (h : HoldsContent F body s)
    (h' : HoldsContent F body s') : s = s' := by
  obtain ⟨members, hread, hs⟩ := h
  obtain ⟨members', hread', hs'⟩ := h'
  cases hread.symm.trans hread'
  exact Json.text.inj (Option.some.inj (hs.symm.trans hs'))

/-- A result is not lost. -/
theorem not_loses_of_ok (app : Application) (fresh : String) (hreaches : request.Reaches app.framework r) (hok : (app.detector r).1 = .ok d) :
    ¬ app.Loses fresh request := by
  obtain ⟨values, hbind, hvalues⟩ := hreaches.form
  rintro (hrefused | @⟨r', _, _, _, hreaches', hraised, _, _, _⟩)
  · cases hbind.symm.trans hrefused
  · obtain ⟨values', hbind', hvalues'⟩ := hreaches'.form
    obtain rfl := Except.ok.inj (hbind.symm.trans hbind')
    obtain rfl := Option.some.inj (hvalues.symm.trans hvalues')
    cases hok.symm.trans hraised

/-! ## Submitted texts -/

/-- A letter with the name of a language. -/
def goBody : String := "\x7b\"content\":\"x\",\"declared_language\":\"go\"\x7d"

/-- Another letter with another name of that language. -/
def golangBody : String := "\x7b\"content\":\"y\",\"declared_language\":\"golang\"\x7d"

/-- An object with a text and a declared language asks for a detection. -/
theorem reaches_of_declared {body content language : String}
    (hread : Json.read 100 (Request.submitting body).body =
      .ok (.object [("content", .text content), ("declared_language", .text language)]))
    (hshort : language.length ≤ 50) :
    (Request.submitting body).Reaches (Application.sample {}).framework ⟨content, some language, none⟩ := by
  have hasks := (asksFor_content content).setDeclared (WideText.hasHalf_ofString language)
    (by rwa [WideText.length_ofString])
  exact reaches_of_asksFor (documented_sample {}) (isDetection_submitting _) (takesJson_submitting {} _) hread hasks

/-- Two texts of one letter each, of which two names of one language are declared. -/
theorem log_follows_answer_of_letters :
    (Application.sample {}).framework.Documented ∧
      (Application.sample {}).detector.IsPlain (Application.sample {}).settings (Application.sample {}).table ∧
      ∃ d, ((Application.sample {}).answerTo "f" (.submitting goBody)).1.body = .json (detectionJson d) ∧
        ((Application.sample {}).answerTo "f" (.submitting golangBody)).1.body = .json (detectionJson d) ∧
        ((Application.sample {}).answerTo "f" (.submitting goBody)).2 =
          ((Application.sample {}).answerTo "f" (.submitting golangBody)).2 := by
  have hF := documented_sample {}
  have hplain : (Application.sample {}).detector.IsPlain (Application.sample {}).settings (Application.sample {}).table :=
    .inl rfl
  have hreaches : (Request.submitting goBody).Reaches (Application.sample {}).framework ⟨"x", some "go", none⟩ :=
    reaches_of_declared rfl (by decide)
  have hreaches' : (Request.submitting golangBody).Reaches (Application.sample {}).framework ⟨"y", some "golang", none⟩ :=
    reaches_of_declared rfl (by decide)
  have hdetect : Service.detect {} Table.default "x" (some "go") none =
      (.ok ⟨"go", "Go", .declared⟩, [.detected "go" .declared 1]) :=
    Service.detect_eq_of_ok (Service.detect_eq_ok_iff.2 ⟨.plain, rfl, by decide, by decide +kernel⟩)
  have hdetect' : Service.detect {} Table.default "y" (some "golang") none =
      (.ok ⟨"go", "Go", .declared⟩, [.detected "go" .declared 1]) :=
    Service.detect_eq_of_ok (Service.detect_eq_ok_iff.2 ⟨.plain, rfl, by decide, by decide +kernel⟩)
  rw [← serviceDetector_of_texts] at hdetect hdetect'
  obtain ⟨response, hanswer, hstatus, hbody⟩ := answers_of_ok (.sample {}) "f" hF hreaches hdetect
  obtain ⟨response', hanswer', hstatus', hbody'⟩ := answers_of_ok (.sample {}) "f" hF hreaches' hdetect'
  have hlength : ∀ s, HoldsContent (Application.sample {}).framework (Request.submitting goBody).body s ∨
      HoldsContent (Application.sample {}).framework (Request.submitting golangBody).body s → s.length = 1 := by
    rintro s (hs | hs)
    · rw [hs.unique (hreaches.holdsContent hF)]
      rfl
    · rw [hs.unique (hreaches'.holdsContent hF)]
      rfl
  have hlog := @log_follows_answer (.sample {}) (.submitting goBody) 1 (.submitting golangBody) hF hplain
    (isDetection_submitting _) rfl "f" hlength
  have hresponse : ((Application.sample {}).answerTo "f" (.submitting goBody)).1 = response := congrArg Prod.fst hanswer
  have hresponse' : ((Application.sample {}).answerTo "f" (.submitting golangBody)).1 = response' :=
    congrArg Prod.fst hanswer'
  rw [hresponse, hresponse'] at hlog ⊢
  exact ⟨hF, hplain, _, hbody, hbody', hlog (hstatus.trans hstatus'.symm) (hbody.trans hbody'.symm)
    (not_loses_of_ok (.sample {}) "f" hreaches (congrArg Prod.fst hdetect))
    (not_loses_of_ok (.sample {}) "f" hreaches' (congrArg Prod.fst hdetect'))⟩

/-- A body that says that its language is no number. -/
def notANumberBody : String := "\x7b\"content\":\"x\",\"declared_language\":NaN\x7d"

theorem read_notANumberBody : Json.read 100 (Request.submitting notANumberBody).body =
    .ok (.object [("content", .text "x"), ("declared_language", .notFinite "NaN")]) := rfl

/-- What is wrong with this body. -/
def notANumber : List Schema.Error := [⟨[.name "body", .name "declared_language"], .notText, .notFinite "NaN"⟩]

/-- A language that is no number cannot be reported back, whatever detects languages. -/
theorem crashes_of_notANumberBody (detector : Detector) :
    ∃ cause, { Application.sample {} with detector }.Crashes "f" (.submitting notANumberBody) cause [] := by
  have herrors : Schema.readBody fields
      (.object [("content", .text "x"), ("declared_language", .notFinite "NaN")]) = .error notANumber := rfl
  have hencode : ((Framework.standard 100 100).encode
      (.object [("detail", (Framework.standard 100 100).report notANumber)])).isSome = true := by
    decide +kernel
  have hsends := sends_of_errors { Application.sample {} with detector } "f" (documented_sample {})
    (isDetection_submitting notANumberBody) (takesJson_submitting {} _) read_notANumberBody herrors
  obtain ⟨e, he⟩ := Option.isSome_iff_exists.1 hencode
  exact ⟨e.text, hsends.crashes e he⟩

/-- The answer to a broken rule whose details hold a number that is not finite is lost. -/
theorem crashes_of_infinite_detail :
    ∃ cause, (Application.failing (Failure.invalid "m" none [("x", .notFinite "Infinity")]).raised).Crashes "f"
      (.submitting textBody) cause [.refused "f" "m"] := by
  have hencode : ((Framework.standard 100 100).encode
      (errorBody "validation_error" "m" (some [("x", .notFinite "Infinity")]) "f")).isSome = true := by
    decide +kernel
  have hsends := sends_of_first (.failing (Failure.invalid "m" none [("x", .notFinite "Infinity")]).raised) "f"
    .invalid (documented_sample {}) (reaches_of_textBody {}) rfl rfl rfl
  obtain ⟨e, he⟩ := Option.isSome_iff_exists.1 hencode
  exact ⟨e.text, hsends.crashes e he⟩

/-- The answer to a style that is half of a surrogate pair is lost. -/
theorem crashes_of_halfStyleBody :
    ∃ cause, (Application.sample {}).Crashes "f" (.submitting halfStyleBody) cause
      [.refused "f" (Service.unknownStyle halfStyle).message] := by
  have hunknown := serviceDetector_of_hasHalf {} Table.default ⟨"x", none, some halfStyle⟩ rfl rfl
  have hencode : ((Framework.standard 100 100).encode (errorBody "validation_error"
      (Service.unknownStyle halfStyle).message (some (Service.unknownStyle halfStyle).details) "f")).isSome = true := by
    decide +kernel
  have hsends := sends_of_first (.sample {}) "f" .invalid (documented_sample {}) (reaches_of_halfStyleBody {})
    hunknown rfl rfl
  obtain ⟨e, he⟩ := Option.isSome_iff_exists.1 hencode
  exact ⟨e.text, hsends.crashes e he⟩

/-- Two requests with the text `x`. One says that its language is no number, which cannot be reported back; of the other
one the detector says that it breaks a rule, with an infinite number among the details, or it wants a style that is half of
a surrogate pair. Both get what is answered to a crash, and only the broken rule is recorded before. -/
theorem lost_answers_with_other_records :
    HoldsContent (Framework.standard 100 100) (Request.submitting notANumberBody).body "x" ∧
    (HoldsContent (Framework.standard 100 100) (Request.submitting textBody).body "x" ∧ ∃ app : Application,
      app.detector.IsPlain app.settings app.table ∧
      (∃ cause, app.answerTo "f" (.submitting textBody) =
        (crashResponse "f", [.refused "f" "m", .crashed "f" cause])) ∧
      ∃ cause, app.answerTo "f" (.submitting notANumberBody) = (crashResponse "f", [.crashed "f" cause])) ∧
    HoldsContent (Framework.standard 100 100) (Request.submitting halfStyleBody).body "x" ∧
    (∃ message cause, (Application.sample {}).answerTo "f" (.submitting halfStyleBody) =
      (crashResponse "f", [.refused "f" message, .crashed "f" cause])) ∧
    ∃ cause, (Application.sample {}).answerTo "f" (.submitting notANumberBody) =
      (crashResponse "f", [.crashed "f" cause]) := by
  have hF := documented_sample {}
  obtain ⟨infinite, hinfinite⟩ := crashes_of_infinite_detail
  obtain ⟨half, hhalf⟩ := crashes_of_halfStyleBody
  obtain ⟨notNumber, hnotNumber⟩ := crashes_of_notANumberBody
    fun _ => (.error (Failure.invalid "m" none [("x", .notFinite "Infinity")]).raised, [])
  obtain ⟨notNumber', hnotNumber'⟩ := crashes_of_notANumberBody (Application.sample {}).detector
  exact ⟨⟨_, read_notANumberBody, rfl⟩,
    ⟨(reaches_of_textBody {}).holdsContent hF, _, .inr ⟨_, rfl⟩, ⟨infinite, hinfinite⟩, notNumber, hnotNumber⟩,
    (reaches_of_halfStyleBody {}).holdsContent hF, ⟨_, half, hhalf⟩, notNumber', hnotNumber'⟩

end SnippetLanguage.Http

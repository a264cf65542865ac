import SnippetLanguage.Proofs.Http.Verdict

/-!
# Answers sent back

A request for a detection is answered with status 200 only if its body asks for a detection and the service has a result
(`exists_result_of_status`). When the same body is sent again with the language of the answer as the declared one, the
answer is this language again, as long as it is not too long to be declared (`answer_can_be_sent_back`). The tag of a
fence may be longer than that (`long_tag_cannot_be_sent_back`).
-/

namespace SnippetLanguage.Http

-- the body with the long tag is read character by character
set_option maxRecDepth 1000

open Text DetectRequest

variable {F : Framework} {settings : Settings} {t : Table} {request : Request} {fresh : String} {r : DetectRequest}
  {members : List (WideText × Json)} {content : WideText} {declared style : Option WideText} {d : Detection}

/-! ## Requests that are answered with status 200 -/

/-- A refused body is not answered with status 200. -/
theorem status_ne_of_bind_eq_error (app : Application) (fresh : String) {outcome : Outcome}
    (hF : app.framework.Documented) (hto : request.IsDetection)
    (h : app.framework.bind fields request = .error outcome) :
    (app.answerTo fresh request).1.status ≠ 200 := by
  have hdetected := detected_of_bind_eq_error h (request.id fresh)
  have hrefusal := hF.isRefusal_of_bind _ _ _ h
  cases outcome with
  | answered response =>
    rw [answerTo_of_answered hF hto hdetected, Response.status_setHeader, status_dress hF]
    rcases hrefusal.1 with hstatus | hstatus <;> rw [hstatus] <;> decide
  | raised e =>
    rw [settle_raised, Framework.conclude_of_unhandled hrefusal] at hdetected
    rw [crashes_of_raised hF hto hdetected]
    show 500 ≠ 200
    decide

/-- **Whoever is answered with status 200** has submitted an object that asks for a detection, and gets the result of the
service. -/
theorem exists_result_of_status (hF : F.Documented) (hto : request.IsDetection)
    (h : ((Application.standard F settings t).answerTo fresh request).1.status = 200) :
    ∃ r, request.Reaches F r ∧ ∃ style d, r.labelStyle = style.map WideText.ofString ∧
      (Service.detect settings t r.content.shown (r.declaredLanguage.map WideText.shown) style).1 = .ok d ∧
      (Application.standard F settings t).Answers fresh request 200 (detectionJson d)
        [.detected d.language d.method r.content.length] := by
  cases hbind : F.bind fields request with
  | error outcome => exact absurd h (status_ne_of_bind_eq_error (.standard F settings t) fresh hF hto hbind)
  | ok values =>
    obtain ⟨r, hreaches⟩ := exists_reaches_of_bind hF hto hbind
    refine ⟨r, hreaches, ?_⟩
    rcases serviceDetector_cases settings t r with
      ⟨style, d, hstyle, hdetect, hok⟩ | ⟨message, field, details, hraised⟩ | hraised
    · exact ⟨style, d, hstyle, hdetect, answers_of_ok (.standard F settings t) fresh hF hreaches hok⟩
    · have hsends := sends_of_first (.standard F settings t) fresh .invalid hF hreaches hraised rfl rfl
      exact absurd h (hsends.status_ne (show 400 ≠ 200 by decide) (by decide))
    · have hcrash : (Application.standard F settings t).Crashes fresh request _ [] :=
        crashes_of_unhandled _ fresh hF hreaches hraised (unhandled_valueError hF _)
      rw [hcrash] at h
      cases h

/-! ## Sending the answer back -/

/-- The service answers its own answer with the method that says that it was declared. -/
theorem detect_of_own_answer {content : String} {declared style : Option String}
    (h : (Service.detect settings Table.default content declared style).1 = .ok d) :
    (Service.detect settings Table.default content (some d.language) style).1 =
      .ok ⟨d.language, d.displayLabel, .declared⟩ := by
  obtain ⟨known, hstyle, hlength, rfl⟩ := Service.detect_eq_ok_iff.1 h
  obtain ⟨⟨hvisible, hcanonical⟩, hlabel⟩ := @Service.isIdentifier_resultOf content declared known
  refine Service.detect_eq_ok_iff.2 ⟨known, hstyle, hlength, ?_⟩
  rw [Service.resultOf_of_declared hvisible, hcanonical, hlabel]
  rfl

/-- A short language that the service has answered is answered again when it is declared. -/
theorem answers_of_own_answer (fresh : String) {asked : Option String} (hF : F.Documented) (hto : request.IsDetection)
    (htype : F.takesJson request.toHead = true) (hasks : AsksFor members content declared style)
    (hstyle : style.map WideText.lowercase = asked.map WideText.ofString)
    (hdetect : (Service.detect settings Table.default content.shown (declared.map WideText.shown) asked).1 = .ok d)
    (hread : Json.read F.readingDepth request.body =
      .ok (.object (Json.setMember members "declared_language" (.text d.language))))
    (hshort : d.language.length ≤ 50) :
    (Application.standard F settings Table.default).Answers fresh request 200
      (detectionJson ⟨d.language, d.displayLabel, .declared⟩) [.detected d.language .declared content.length] := by
  have hreaches := reaches_of_asksFor hF hto htype hread
    (hasks.setDeclared (WideText.hasHalf_ofString d.language) (by rwa [WideText.length_ofString]))
  have hdetector : serviceDetector settings Table.default ⟨content, some d.language, style.map WideText.lowercase⟩ =
      (.ok ⟨d.language, d.displayLabel, .declared⟩, [.detected d.language .declared content.length]) := by
    rw [serviceDetector_eq hstyle, ← WideText.length_shown]
    dsimp only [Option.map_some]
    rw [WideText.shown_ofString]
    exact Service.detect_eq_of_ok (detect_of_own_answer hdetect)
  exact answers_of_ok (.standard F settings Table.default) fresh hF hreaches hdetector

/-- What is wrong with a language that is too long to be declared. -/
def longDeclared (language : String) : Schema.Error :=
  ⟨[.name "body", .name "declared_language"], .textTooLong 50, .text language⟩

/-- That a language is too long can be told. -/
theorem encode_longDeclared {language : String} (hF : F.Documented) (hlong : 50 < language.length) :
    F.encode (.object [("detail", F.report [longDeclared language])]) = none := by
  have hhalf : (language : WideText).hasHalf = false := WideText.hasHalf_ofString language
  have hbody : (Json.object [("content", .text ""), ("declared_language", .text language)]).Sendable 1 := by simp
  have hfields := readFields_setDeclared_of_long (asksFor_content "") hhalf (by rwa [WideText.length_ofString])
  have herrors : Schema.readBody fields (.object [("content", .text ""), ("declared_language", .text language)]) =
      .error [longDeclared language] := by
    rw [Schema.readBody]
    exact congrArg (Except.mapError _) hfields
  refine hF.encode_report _ _ _ isWritten_of_mem_fields herrors hbody.writable ?_
  have := hbody.depth_le
  have := hF.le_writingDepth
  omega

/-- A long language is refused when it is declared, and nothing else is wrong. -/
theorem answers_of_long_declared (app : Application) (fresh : String) {language : String}
    (hF : app.framework.Documented) (hto : request.IsDetection)
    (htype : app.framework.takesJson request.toHead = true)
    (hasks : AsksFor members content declared style)
    (hread : Json.read app.framework.readingDepth request.body =
      .ok (.object (Json.setMember members "declared_language" (.text language))))
    (hlong : 50 < language.length) :
    app.Answers fresh request 422 (.object [("detail", app.framework.report [longDeclared language])]) [] := by
  have hhalf : (language : WideText).hasHalf = false := WideText.hasHalf_ofString language
  have hfields := readFields_setDeclared_of_long hasks hhalf (by rwa [WideText.length_ofString])
  have herrors : Schema.readBody fields (.object (Json.setMember members "declared_language" (.text language))) =
      .error [longDeclared language] := by
    rw [Schema.readBody, hfields]
    rfl
  exact (sends_of_errors app fresh hF hto htype hread herrors).answers (encode_longDeclared hF hlong)

/-- **A suggestion can be sent back**, if it is not too long. In every framework that does what is known of it, for all
settings and over the default table, every request for a detection that is answered with status 200 has submitted an
object, and the answer is a detection. When this object is sent again with the language of the answer as the declared one,
by a request that is the same otherwise, the answer depends on the length of the language.

* If the language has at most 50 characters, the answer has status 200 again, with the same language and the same label;
  the method says that the language was declared.
* If it has more, the answer has status 422 and says that the declared language is too long. -/
theorem answer_can_be_sent_back (hF : F.Documented) (settings : Settings) (hto : request.IsDetection)
    (h : ((Application.standard F settings Table.default).answerTo fresh request).1.status = 200) :
    ∃ members content d, Json.read F.readingDepth request.body = .ok (.object members) ∧
      members.lookup ("content" : WideText) = some (.text content) ∧
      ((Application.standard F settings Table.default).answerTo fresh request).1.body = .json (detectionJson d) ∧
      ∀ body, Json.read F.readingDepth body =
          .ok (.object (Json.setMember members "declared_language" (.text d.language))) →
        ∀ fresh',
          (d.language.length ≤ 50 →
            (Application.standard F settings Table.default).Answers fresh' { request with body } 200
              (detectionJson ⟨d.language, d.displayLabel, .declared⟩)
              [.detected d.language .declared content.length]) ∧
          (50 < d.language.length →
            (Application.standard F settings Table.default).Answers fresh' { request with body } 422
              (.object [("detail", F.report [longDeclared d.language])]) []) := by
  obtain ⟨r, hreaches, asked, d, hasked, hdetect, response, hanswer, _, hbody⟩ := exists_result_of_status hF hto h
  obtain ⟨htype, members, style, hread, hasks, hstyle⟩ := hreaches.exists_asksFor hF
  rw [hstyle] at hasked
  have hdetection : ((Application.standard F settings Table.default).answerTo fresh request).1.body =
      .json (detectionJson d) := by
    rw [hanswer]
    exact hbody
  refine ⟨members, r.content, d, hread, hasks.content, hdetection, fun body hread' fresh' => ⟨?_, ?_⟩⟩
  · intro hshort
    exact answers_of_own_answer fresh' hF hto htype hasks hasked hdetect hread' hshort
  · intro hlong
    exact answers_of_long_declared (.standard F settings Table.default) fresh' hF hto htype hasks hread' hlong

/-- A body that submits a fence. -/
def fenceBody : String := "\x7b\"content\":\"```Py\"\x7d"

/-- The body that gives the answer back, in another spelling of the same object. -/
def fenceAgain : String := "\x7b\"content\": \"```Py\", \"declared_language\": \"python\"\x7d"

/-- The tag of a fence, given back. -/
theorem answer_can_be_sent_back_of_fence :
    (Application.sample {}).framework.Documented ∧
      (Application.sample {}).Answers "f" (.submitting fenceBody) 200
        (detectionJson ⟨"python", "Python", .override⟩) [.detected "python" .override 5] ∧
      (Application.sample {}).Answers "g" (.submitting fenceAgain) 200
        (detectionJson ⟨"python", "Python", .declared⟩) [.detected "python" .declared 5] := by
  have hF := documented_sample {}
  have hread : Json.read 100 (Request.submitting fenceBody).body = .ok (.object [("content", .text "```Py")]) := rfl
  have hagain : Json.read 100 (Text.encodeUtf8 fenceAgain) =
      .ok (.object [("content", .text "```Py"), ("declared_language", .text "python")]) := rfl
  have hreaches := reaches_of_asksFor hF (isDetection_submitting fenceBody) (takesJson_submitting {} _) hread
    (asksFor_content "```Py")
  have hdetect : Service.detect {} Table.default "```Py" none none =
      (.ok ⟨"python", "Python", .override⟩, [.detected "python" .override 5]) :=
    Service.detect_eq_of_ok (Service.detect_eq_ok_iff.2 ⟨.plain, rfl, by decide, by decide +kernel⟩)
  rw [← serviceDetector_of_texts] at hdetect
  have hfirst := answers_of_ok (.sample {}) "f" hF hreaches hdetect
  refine ⟨hF, hfirst, ?_⟩
  obtain ⟨response, hanswer, hstatus, hbody⟩ := hfirst
  obtain ⟨members, content, d, hmembers, hcontent, hdetection, hresend⟩ :=
    @answer_can_be_sent_back _ _ "f" hF {} (isDetection_submitting fenceBody)
      (by rw [standard_sample, hanswer]; exact hstatus)
  -- the object and the answer that the theorem speaks of are those at hand
  obtain rfl := Json.object.inj (Except.ok.inj (hread.symm.trans hmembers))
  rw [standard_sample] at hdetection hresend
  rw [hanswer] at hdetection
  obtain ⟨hlanguage, hlabel, _⟩ : "python" = d.language ∧ "Python" = d.displayLabel ∧ _ := by
    simpa [detectionJson, WideText.ofString_inj] using Body.json.inj (hbody.symm.trans hdetection)
  obtain rfl : ("```Py" : WideText) = content := Json.text.inj (Option.some.inj hcontent)
  rw [← hlanguage, ← hlabel] at hresend
  obtain ⟨hshort, _⟩ := hresend _ hagain "g"
  exact hshort (by decide)

/-- A tag that is too long to be declared. -/
def longTag : String := "aaaaaaaaaaaaaaaaaaaaaaaaaaaaaaaaaaaaaaaaaaaaaaaaaaa"

/-- A body that submits a fence with this tag. -/
def longTagBody : String := "\x7b\"content\":\"```" ++ longTag ++ "\"\x7d"

/-- The body that gives the answer back. -/
def longTagAgain : String := "\x7b\"content\":\"```" ++ longTag ++ "\",\"declared_language\":\"" ++ longTag ++ "\"\x7d"

/-- A fence with a tag that is too long to be declared, and its answer given back. -/
theorem long_tag_cannot_be_sent_back :
    (Application.sample {}).Answers "f" (.submitting longTagBody) 200
        (detectionJson ⟨longTag, longTag, .override⟩) [.detected longTag .override 54] ∧
      Json.read 100 (Text.encodeUtf8 longTagAgain) =
        .ok (.object [("content", .text ("```" ++ longTag : String)), ("declared_language", .text longTag)]) ∧
      (Application.sample {}).Answers "g" (.submitting longTagAgain) 422
        (.object [("detail", (Application.sample {}).framework.report [longDeclared longTag])]) [] := by
  have hF := documented_sample {}
  have hread : Json.read 100 (Request.submitting longTagBody).body =
      .ok (.object [("content", .text ("```" ++ longTag : String))]) := rfl
  have hagain : Json.read 100 (Text.encodeUtf8 longTagAgain) =
      .ok (.object (Json.setMember [("content", .text ("```" ++ longTag : String))] "declared_language"
        (.text longTag))) := rfl
  have hreaches := reaches_of_asksFor hF (isDetection_submitting longTagBody) (takesJson_submitting {} _) hread
    (asksFor_content _)
  have hdetect : Service.detect {} Table.default ("```" ++ longTag) none none =
      (.ok ⟨longTag, longTag, .override⟩, [.detected longTag .override 54]) :=
    Service.detect_eq_of_ok (Service.detect_eq_ok_iff.2 ⟨.plain, rfl, by decide +kernel, by decide +kernel⟩)
  rw [← serviceDetector_of_texts] at hdetect
  exact ⟨answers_of_ok (.sample {}) "f" hF hreaches hdetect, hagain, answers_of_long_declared (.sample {}) "g" hF
    (isDetection_submitting _) (takesJson_submitting {} _) (asksFor_content _) hagain (by decide)⟩

end SnippetLanguage.Http

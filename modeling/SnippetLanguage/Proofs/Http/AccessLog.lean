import SnippetLanguage.Proofs.Http.Detections

/-!
# One access record per request

The access log has one record of each request that is answered, with the status of the response, and none of the requests
for the quiet path (`one_access_record`). A request that crashes leaves no access record, as the exception passes the access
log by: the client gets a response with status 500 of which the access log knows nothing (`no_access_record_of_crash`).

The path is the one of the address that a request is for. If path and host mean nothing but themselves, it is the path of
the request.
-/

namespace SnippetLanguage.Http

/-- Whether an event is a record of the access log. -/
def isAccess (e : Log.Event) : Bool := e.logger == "codeboard.access"

variable {app : Application} {id : String}

/-- The level of an access record, by the bounds of the error statuses. -/
theorem ofStatus_natCast (status : Nat) : Log.Level.ofStatus status =
    if 500 ≤ status then .error else if 400 ≤ status then .warning else .info := by
  have h500 : (500 : Int) ≤ status ↔ 500 ≤ status := by omega
  have h400 : (400 : Int) ≤ status ↔ 400 ≤ status := by omega
  simp only [Log.Level.ofStatus, h500, h400]

/-- Inside the access log neither accesses nor crashes are recorded if the detector records none. -/
theorem covers_of_detector (hdetector : ∀ r, ∀ e ∈ (app.detector r).2, isAccess e = false ∧ e.hasTrace = false)
    (id : String) : Covers app id fun e => isAccess e = false ∧ e.hasTrace = false where
  refused _ := ⟨rfl, rfl⟩
  failed _ _ := ⟨rfl, rfl⟩
  probeFailed := ⟨rfl, rfl⟩
  detector := hdetector

/-- The service records neither accesses nor crashes. -/
theorem records_serviceDetector (settings : Settings) (t : Table) :
    ∀ r, ∀ e ∈ (serviceDetector settings t r).2, isAccess e = false ∧ e.hasTrace = false := by
  intro r e he
  obtain ⟨language, method, length, rfl⟩ := eq_detected_of_mem_serviceDetector he
  exact ⟨rfl, rfl⟩

/-- **One access record per request.** Whatever the request, whatever the framework answers of its own accord and whatever
the detector answers or raises, as long as the detector leaves recording accesses and crashes to the server: the quiet path
has no access record. For every other path there is exactly one if no crash was recorded, with the status of the response,
the level that belongs to this status and the id of the request. A crash leaves none.

The path is the one of the address that the request is for, as the framework tells it. -/
theorem one_access_record (hF : app.framework.Documented)
    (hdetector : ∀ r, ∀ e ∈ (app.detector r).2, isAccess e = false ∧ e.hasTrace = false) (fresh : String)
    (request : Request) (c : Context) :
    (request.IsPlain → app.framework.urlPath request.toHead = request.path) ∧
    ∃ response events, (app.handle fresh request).run c = (response, ⟨request.id fresh, c.log ++ events⟩) ∧
      (app.framework.urlPath request.toHead = quietPath → events.filter isAccess = []) ∧
      (app.framework.urlPath request.toHead ≠ quietPath → (∀ cause, .crashed (request.id fresh) cause ∉ events) →
        ∃ e : Log.Event, events.filter isAccess = [e] ∧
          e = .answered request.method (String.ofList (app.framework.urlPath request.toHead)) response.status
            (request.id fresh) (clientName request.client) ∧
          e.requestId? = some (request.id fresh) ∧
          e.level = if 500 ≤ response.status then .error else if 400 ≤ response.status then .warning else .info) ∧
      (∀ cause, .crashed (request.id fresh) cause ∈ events →
        events.filter isAccess = [] ∧ response = crashResponse (request.id fresh)) := by
  refine ⟨hF.urlPath_of_isPlain request.toHead, _, _, run_handle app fresh request c, ?_⟩
  rw [answerTo_eq]
  have hcovered := (covers_of_detector hdetector (request.id fresh)).forall_mem_inner request
  generalize app.inner (request.id fresh) request = ending at hcovered
  obtain ⟨outcome, events⟩ := ending
  have hnone : events.filter isAccess = [] := List.filter_eq_nil_iff.2 fun e he => by simp [(hcovered e he).1]
  have hcrash : ∀ cause, .crashed (request.id fresh) cause ∉ events := fun cause he => by
    have htrace := (hcovered _ he).2
    cases htrace
  dsimp only
  cases outcome with
  | answered r =>
    dsimp only [Application.closingEvents, Application.accessEvents, Outcome.finish]
    split
    · rename_i hquiet
      rw [List.append_nil]
      exact ⟨fun _ => hnone, fun hloud => absurd hquiet hloud, fun cause he => absurd he (hcrash cause)⟩
    · rename_i hloud
      refine ⟨fun hquiet => absurd hquiet hloud, fun _ _ => ⟨_, ?_, rfl, rfl, ofStatus_natCast r.status⟩,
        fun cause he => ?_⟩
      · rw [List.filter_append, hnone]
        rfl
      · rcases List.mem_append.1 he with he | he
        · exact absurd he (hcrash cause)
        · cases List.mem_singleton.1 he
  | raised e =>
    have hfilter : (events ++ [Log.Event.crashed (request.id fresh) e.text]).filter isAccess = [] := by
      rw [List.filter_append, hnone]
      rfl
    exact ⟨fun _ => hfilter, fun _ hno => absurd (List.mem_append_right events List.mem_cons_self) (hno e.text),
      fun _ _ => ⟨hfilter, rfl⟩⟩

/-- The list of languages with a method that it does not answer. -/
def Request.wrongMethod : Request := { method := "PUT", path := languagesPath }

/-- The list of languages with a method that it does not answer, by a server that asks the service. -/
theorem one_access_record_of_wrong_method :
    (Application.sample {}).framework.Documented ∧
      (∀ r, ∀ e ∈ ((Application.sample {}).detector r).2, isAccess e = false ∧ e.hasTrace = false) ∧
      ∃ (response : Response) (events : List Log.Event) (e : Log.Event),
        ((Application.sample {}).handle "f" .wrongMethod).run {} = (response, ⟨"f", events⟩) ∧
          response.status = 405 ∧ events.filter isAccess = [e] ∧
          e = .answered "PUT" "/api/languages" 405 "f" "unknown" ∧ e.level = .warning := by
  have hdetector : ∀ r, ∀ e ∈ ((Application.sample {}).detector r).2, isAccess e = false ∧ e.hasTrace = false :=
    records_serviceDetector {} Table.default
  obtain ⟨_, response, events, hrun, _, hloud, _⟩ :=
    one_access_record (documented_sample {}) hdetector "f" .wrongMethod {}
  obtain ⟨rfl, hcontext⟩ := Prod.mk.inj (hrun.symm.trans (run_handle (.sample {}) "f" .wrongMethod {}))
  have hanswer : (Application.sample {}).answerTo "f" .wrongMethod =
      (((Application.sample {}).answerTo "f" .wrongMethod).1, [.answered "PUT" "/api/languages" 405 "f" "unknown"]) := by
    rw [answerTo_eq]
    rfl
  have hevents : events = [.answered "PUT" "/api/languages" 405 "f" "unknown"] := by
    rw [hanswer] at hcontext
    exact (Context.mk.inj hcontext).2
  have hno : ∀ cause, .crashed "f" cause ∉ events := by simp [hevents]
  obtain ⟨e, hfilter, he, _, hlevel⟩ := hloud (by decide) hno
  have hstatus : ((Application.sample {}).answerTo "f" .wrongMethod).1.status = 405 := rfl
  rw [hstatus] at he hlevel
  exact ⟨documented_sample {}, hdetector, _, events, e, hrun, hstatus, hfilter, he, hlevel⟩

/-- A body that says that its text is no number cannot be reported back, which nobody foresaw: the client gets a response
with status 500, for which there is no access record. -/
theorem no_access_record_of_crash :
    ∃ response events,
      ((Application.sample {}).handle "f" (.submitting "\x7b\"content\":NaN\x7d")).run {} = (response, ⟨"f", events⟩) ∧
        response.status = 500 ∧ events.filter isAccess = [] :=
  ⟨_, _, rfl, rfl, rfl⟩

end SnippetLanguage.Http

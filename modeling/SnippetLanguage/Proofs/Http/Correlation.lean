import Mathlib.Data.List.Forall2
import SnippetLanguage.Proofs.Http.Detections

/-!
# The id of a request in its response and its records

The headers of a request tell its id (`Head.isIdOf_iff`). The layer that puts the id into the response is the outermost
one, so that whatever passes it has this id in its header. The error bodies, which are made with the id that the context
holds, are the only ones that name an id (`fits_inner`). So the response to a request has its id and no other, and so have
the records of it (`correlated_answerTo`).

The context keeps the id after the response, but nothing reads it before the next request has overwritten it. Requests
that are handled one after another are answered as each would be alone (`request_ids_correlate`).
-/

namespace SnippetLanguage.Http

/-! ## The headers of a request -/

namespace Head

variable {head : Head} {name fresh id : String}

theorem header?_eq_none_iff : head.header? name = none ↔ ∀ h ∈ head.headers, foldName h.1 ≠ name := by
  simp [header?]

theorem header?_eq_some_iff {value : String} : head.header? name = some value ↔
    ∃ front name' back, head.headers = front ++ (name', value) :: back ∧ foldName name' = name ∧
      ∀ h ∈ front, foldName h.1 ≠ name := by
  rw [header?, Option.map_eq_some_iff]
  constructor
  · rintro ⟨⟨name', value⟩, hfind, rfl⟩
    obtain ⟨hname, front, back, hheaders, hfront⟩ := List.find?_eq_some_iff_append.1 hfind
    exact ⟨front, name', back, hheaders, beq_iff_eq.1 hname, fun h hh => by simpa using hfront h hh⟩
  · rintro ⟨front, name', back, hheaders, hname, hfront⟩
    refine ⟨(name', value), ?_, rfl⟩
    exact List.find?_eq_some_iff_append.2
      ⟨beq_iff_eq.2 hname, front, back, hheaders, fun h hh => by simpa using hfront h hh⟩

/-- The id of a request as its headers tell it: the first header of the name decides, unless it is empty. -/
inductive IsIdOf (head : Head) (fresh : String) : String → Prop where
  | sent {front back : List (String × String)} {name id : String}
      (headers : head.headers = front ++ (name, id) :: back) (named : foldName name = requestIdHeader)
      (first : ∀ h ∈ front, foldName h.1 ≠ requestIdHeader) (nonempty : id ≠ "") : IsIdOf head fresh id
  | empty {front back : List (String × String)} {name : String}
      (headers : head.headers = front ++ (name, "") :: back) (named : foldName name = requestIdHeader)
      (first : ∀ h ∈ front, foldName h.1 ≠ requestIdHeader) : IsIdOf head fresh fresh
  | missing (absent : ∀ h ∈ head.headers, foldName h.1 ≠ requestIdHeader) : IsIdOf head fresh fresh

theorem id_of_header? {value : String} (h : head.header? requestIdHeader = some value) :
    head.id fresh = if value.isEmpty then fresh else value := by
  rw [Head.id, h]

theorem id_of_missing (h : head.header? requestIdHeader = none) : head.id fresh = fresh := by
  rw [Head.id, h]

/-- A request has one id. -/
theorem isIdOf_iff : head.IsIdOf fresh id ↔ id = head.id fresh := by
  constructor
  · rintro (⟨headers, named, first, nonempty⟩ | ⟨headers, named, first⟩ | absent)
    · rw [id_of_header? (header?_eq_some_iff.2 ⟨_, _, _, headers, named, first⟩), if_neg (by simpa using nonempty)]
    · rw [id_of_header? (header?_eq_some_iff.2 ⟨_, _, _, headers, named, first⟩)]
      rfl
    · rw [id_of_missing (header?_eq_none_iff.2 absent)]
  · rintro rfl
    cases hheader : head.header? requestIdHeader with
    | none =>
      rw [id_of_missing hheader]
      exact .missing (header?_eq_none_iff.1 hheader)
    | some value =>
      obtain ⟨front, name, back, headers, named, first⟩ := header?_eq_some_iff.1 hheader
      rw [id_of_header? hheader]
      by_cases hempty : value = ""
      · subst hempty
        exact .empty headers named first
      · rw [if_neg (by simpa using hempty)]
        exact .sent headers named first hempty

end Head

/-! ## What comes out of the layers inside -/

/-- An error body names the id, and no other body names one. -/
def Body.Names (id : String) (b : Body) : Prop :=
  ∀ members, b = .json (.object members) →
    members.lookup ("request_id" : WideText) =
      if (members.lookup ("error" : WideText)).isSome then some (.text id) else none

/-- The body of an answer names the id if it is an error, and else none. -/
def Outcome.Fits (id : String) : Outcome → Prop
  | answered r => r.body.Names id
  | raised _ => True

variable {F : Framework} {app : Application} {request : Request} {id fresh : String} {v : Json} {outcome : Outcome}

/-- The body of an error response names the id that it was made with. -/
theorem names_errorBody (code : String) (message : WideText) (details : Option Details) (id : String) :
    (Body.json (errorBody code message details id)).Names id := by
  intro members hmembers
  cases details <;> (cases hmembers; rfl)

/-- A body that is no error of the program names no id. -/
theorem Outcome.IsForeign.fits (h : outcome.IsForeign) (id : String) : outcome.Fits id := by
  cases outcome with
  | answered r =>
    intro members hbody
    obtain ⟨herror, hid⟩ := h members hbody
    rw [herror, hid]
    rfl
  | raised e => trivial

theorem Outcome.Fits.mapResponse (h : outcome.Fits id) {f : Response → Response} (hbody : ∀ r, (f r).body = r.body) :
    (outcome.mapResponse f).Fits id := by
  cases outcome with
  | answered r =>
    show (f r).body.Names id
    rw [hbody]
    exact h
  | raised e => trivial

/-! ### Exceptions -/

theorem fits_answerJson (h : (Body.json v).Names id) (status : Nat) : (F.answerJson status v).Fits id := by
  unfold Framework.answerJson
  split
  · exact h
  · trivial

theorem names_reply {e : Raised} {c : ErrorClass} {reply : Reply} (h : programReply? id e c = some reply) :
    (Body.json reply.body).Names id := by
  obtain ⟨code, message, details, hbody⟩ := Framework.exists_errorBody_of_programReply? h
  rw [hbody]
  exact names_errorBody code message details id

theorem fits_conclude (hF : F.Documented) (id : String) (e : Raised) : (F.conclude id e).1.Fits id := by
  rcases F.conclude_cases id e with ⟨c, reply, hreply, heq⟩ | ⟨name, handler, hhandler, heq⟩ | heq
  · rw [heq]
    exact fits_answerJson (names_reply hreply) reply.status
  · rw [heq]
    exact (hF.isForeign_of_handler name handler e hhandler).fits id
  · rw [heq]
    trivial

theorem fits_settle (hF : F.Documented) {ending : Ending} (h : ending.1.IsForeign) : (F.settle id ending).1.Fits id := by
  obtain ⟨outcome, events⟩ := ending
  cases outcome with
  | answered r => exact h.fits id
  | raised e => exact fits_conclude hF id e

/-! ### Endpoints -/

/-- A body without the members of an error is none. -/
theorem isForeign_answerJson {members : List (WideText × Json)} (herror : members.lookup ("error" : WideText) = none)
    (hid : members.lookup ("request_id" : WideText) = none) (status : Nat) :
    (F.answerJson status (.object members)).IsForeign := by
  unfold Framework.answerJson
  split
  · intro members' hbody
    cases hbody
    exact ⟨herror, hid⟩
  · trivial

theorem Outcome.IsRefusal.isForeign (h : outcome.IsRefusal F) : outcome.IsForeign := by
  cases outcome with
  | answered r =>
    obtain ⟨_, detail, hdetail⟩ := h
    intro members hbody
    rw [hdetail] at hbody
    cases hbody
    exact ⟨rfl, rfl⟩
  | raised e => trivial

theorem isForeign_detectEndpoint (hF : app.framework.Documented) (request : Request) :
    (detectEndpoint app request).1.IsForeign := by
  unfold detectEndpoint
  split
  · rename_i outcome hbind
    exact (hF.isRefusal_of_bind _ _ _ hbind).isForeign
  · split
    · unfold answerDetection
      split
      · exact isForeign_answerJson rfl rfl 200
      · trivial
    · trivial

theorem isForeign_listEndpoint (app : Application) : (listEndpoint app).1.IsForeign := by
  have hbody := @isForeign_answerJson app.framework
    [("languages", .array ((Service.listing app.settings app.table).languages.map entryJson)),
      ("total_count", .int (Service.listing app.settings app.table).totalCount)] rfl rfl 200
  unfold listEndpoint
  dsimp only
  cases houtcome : app.framework.answerJson 200 _ with
  | answered r =>
    rw [houtcome] at hbody
    exact hbody
  | raised e => trivial

theorem isForeign_languageEndpoint (app : Application) (tag : List Char) : (languageEndpoint app tag).1.IsForeign := by
  unfold languageEndpoint
  split
  · exact isForeign_answerJson rfl rfl 200
  · trivial

theorem isForeign_routeRequest (hF : app.framework.Documented) (request : Request) :
    (app.routeRequest request).1.IsForeign := by
  unfold Application.routeRequest
  split
  · rename_i endpoint segment _
    cases endpoint with
    | detect => exact isForeign_detectEndpoint hF request
    | list => exact isForeign_listEndpoint app
    | language => exact isForeign_languageEndpoint app segment
    | health => exact isForeign_answerJson rfl rfl 200
  · rename_i outcome hroute
    exact hF.isForeign_of_route _ _ _ hroute

/-- Inside the access log every outcome fits the id. -/
theorem fits_inner (hF : app.framework.Documented) (id : String) (request : Request) : (app.inner id request).1.Fits id := by
  unfold Application.inner
  split
  · rename_i r hpreflight
    have hforeign : (Outcome.answered r).IsForeign := hF.isForeign_of_preflight _ _ _ hpreflight
    exact (hforeign.fits id).mapResponse fun _ => hF.body_compress _ _ _
  · exact (fits_settle hF (isForeign_routeRequest hF request)).mapResponse fun _ => body_dress hF _

/-! ## Requests one after another -/

/-- The way of a request with an id, to its response and its records. -/
structure Correlated (app : Application) (fresh : String) (request : Request) (id : String)
    (answer : Response × List Log.Event) : Prop where
  /-- whatever the context holds before, the response and the records are these -/
  run_eq : ∀ c, (app.handle fresh request).run c = (answer.1, ⟨id, c.log ++ answer.2⟩)
  /-- what passes the outermost layer has the id, and no other, in its header -/
  header : ∀ c r, ((app.layered fresh request).run c).1 = .answered r →
    answer.1 = r ∧ r.values requestIdHeader = [id]
  /-- what does not pass it becomes the response to a crash -/
  crash : ∀ c e, ((app.layered fresh request).run c).1 = .raised e → answer.1 = crashResponse id
  body : answer.1.body.Names id
  records : ∀ e ∈ answer.2, ∀ id', e.requestId? = some id' → id' = id

theorem records_closingEvents (app : Application) (request : Request) (outcome : Outcome) :
    ∀ e ∈ app.closingEvents request id outcome, ∀ id', e.requestId? = some id' → id' = id := by
  intro e he id' hid
  cases outcome with
  | answered r =>
    rw [Application.closingEvents, Application.accessEvents] at he
    split at he
    · cases he
    · obtain rfl := List.mem_singleton.1 he
      exact (Option.some.inj hid).symm
  | raised cause =>
    obtain rfl := List.mem_singleton.1 he
    exact (Option.some.inj hid).symm

/-- **One request.** If the detector leaves it to the server to mention ids, the response and the records of a request have
its id and no other, whatever the context held before. -/
theorem correlated_answerTo (hF : app.framework.Documented)
    (hdetector : ∀ r, ∀ e ∈ (app.detector r).2, e.requestId? = none) (fresh : String) (request : Request) :
    Correlated app fresh request (request.id fresh) (app.answerTo fresh request) := by
  have hcovers : Covers app (request.id fresh) fun e => ∀ id', e.requestId? = some id' → id' = request.id fresh := {
    refused := fun _ _ h => (Option.some.inj h).symm
    failed := fun _ _ _ h => (Option.some.inj h).symm
    probeFailed := fun _ h => by cases h
    detector := fun r e he id' h => by rw [hdetector r e he] at h; cases h }
  have hlayered : ∀ c, ((app.layered fresh request).run c).1 =
      (app.inner (request.id fresh) request).1.mapResponse (·.setHeader requestIdHeader (request.id fresh)) := fun c => by
    rw [run_layered]
  have hevents := hcovers.forall_mem_inner request
  have hfits := fits_inner hF (request.id fresh) request
  refine ⟨run_handle app fresh request, fun c r hr => ?_, fun c e he => ?_, ?_, ?_⟩ <;> rw [answerTo_eq]
  · rw [hlayered] at hr
    cases hinner : (app.inner (request.id fresh) request).1 with
    | answered r' =>
      rw [hinner] at hr
      cases hr
      exact ⟨rfl, Response.values_setHeader_self _ _ _⟩
    | raised e =>
      rw [hinner] at hr
      cases hr
  · rw [hlayered] at he
    cases hinner : (app.inner (request.id fresh) request).1 with
    | answered r =>
      rw [hinner] at he
      cases he
    | raised e' => rfl
  · cases hinner : (app.inner (request.id fresh) request).1 with
    | answered r =>
      rw [hinner] at hfits
      exact hfits
    | raised e => exact names_errorBody _ _ none _
  · exact List.forall_mem_append.2 ⟨hevents, records_closingEvents app request _⟩

/-- Each request is answered as it would be alone, whatever id the context holds before the first one. -/
theorem serve_eq_map (app : Application) (slot : String) (requests : List (String × Request)) :
    app.serve slot requests = requests.map fun p => app.answerTo p.1 p.2 := by
  induction requests generalizing slot with
  | nil => rfl
  | cons p requests ih =>
    obtain ⟨fresh, request⟩ := p
    rw [Application.serve, run_handle]
    simp only [List.map_cons, ih, List.nil_append]

/-- **Ids correlate and never leak.** Requests are handled one after another in one context, which holds some id before.
If the detector leaves it to the server to mention ids, each request is answered under the id that its headers tell: the
response that passes the layers has this id in its header, its body names this id if it is an error, the response to a
crash included, and every record that mentions an id mentions this one. No answer and no record depends on what the
context held before, neither on the id before the first request nor on the requests that came earlier. -/
theorem request_ids_correlate (hF : app.framework.Documented)
    (hdetector : ∀ r, ∀ e ∈ (app.detector r).2, e.requestId? = none) (slot : String) (requests : List (String × Request)) :
    (∀ slot', app.serve slot' requests = app.serve slot requests) ∧
      List.Forall₂ (fun p answer => ∀ id, p.2.IsIdOf p.1 id → Correlated app p.1 p.2 id answer) requests
        (app.serve slot requests) := by
  constructor
  · intro slot'
    rw [serve_eq_map, serve_eq_map]
  · rw [serve_eq_map, List.forall₂_map_right_iff, List.forall₂_same]
    intro p _ id hid
    rw [Head.isIdOf_iff.1 hid]
    exact correlated_answerTo hF hdetector p.1 p.2

/-- The service leaves it to the server to mention ids. -/
theorem requestId?_serviceDetector (settings : Settings) (t : Table) :
    ∀ r, ∀ e ∈ (serviceDetector settings t r).2, e.requestId? = none := by
  intro r e he
  obtain ⟨language, method, length, rfl⟩ := eq_detected_of_mem_serviceDetector he
  rfl

/-- A request for a language that there is not, with an empty header for the id before another one. -/
def Request.lost : Request where
  method := "GET"
  path := languagesPath ++ "/nope".toList
  headers := [("x-request-id", ""), ("X-Request-ID", "b")]

/-- A request that crashes, and after it one whose first header for the id is empty. The second one has its fresh id
everywhere, and neither the one that its second header says nor the one of the crash. -/
theorem request_ids_correlate_after_crash :
    (Application.sample {}).framework.Documented ∧
      (∀ r, ∀ e ∈ ((Application.sample {}).detector r).2, e.requestId? = none) ∧
      ∃ first second, (Application.sample {}).serve "old"
          [("a", .submitting "\x7b\"content\":NaN\x7d"), ("g", .lost)] = [first, second] ∧
        first.1 = crashResponse "a" ∧ second.1.values requestIdHeader = ["g"] ∧
        second.1.body = .json (errorBody "not_found" ("language 'nope' was not found" : String)
          (some [("resource", .text "language"), ("resource_id", .text "nope")]) "g") ∧
        ∀ e ∈ second.2, ∀ id, e.requestId? = some id → id = "g" := by
  have hdetector : ∀ r, ∀ e ∈ ((Application.sample {}).detector r).2, e.requestId? = none :=
    requestId?_serviceDetector {} Table.default
  obtain ⟨_, hanswers⟩ := request_ids_correlate (documented_sample {}) hdetector "old"
    [("a", .submitting "\x7b\"content\":NaN\x7d"), ("g", .lost)]
  obtain ⟨first, _, hfirst, hrest, hserve⟩ := List.forall₂_cons_left_iff.1 hanswers
  obtain ⟨second, _, hsecond, hnil, rfl⟩ := List.forall₂_cons_left_iff.1 hrest
  obtain rfl := List.forall₂_nil_left_iff.1 hnil
  have hA := hfirst "a" (Head.isIdOf_iff.2 (by decide +kernel))
  have hG := hsecond "g" (Head.isIdOf_iff.2 (by decide +kernel))
  -- the first request does not pass the layers, the second one does
  obtain ⟨hresponse, hvalues⟩ := hG.header {} _ rfl
  refine ⟨documented_sample {}, hdetector, first, second, hserve, hA.crash {} _ rfl, ?_, ?_, hG.records⟩
  · rw [hresponse]
    exact hvalues
  · rw [hresponse]
    exact (Response.body_setHeader _ _ _).trans (body_dress (documented_sample {}) _)

end SnippetLanguage.Http

import SnippetLanguage.Proofs.Http.Standard.Submission

/-!
# What is known of the framework that the program runs in

The framework that the program runs in does what is known of it, however deeply arrays and objects may be nested there
(`documented_standard`). Its pages do not hide the routes, which are tried in their order (`route_of_firstRoute`); its own
answers hold no errors of the program (`isForeign_of_route`).
-/

namespace SnippetLanguage.Http.Standard

variable {depth readingDepth writingDepth : Nat} {r : Response} {head : Head} {path page : List Char}
  {policy : OriginPolicy} {outcome : Outcome}

/-! ## Paths -/

theorem ne_of_isPlainChar {c d : Char} (h : isPlainChar c = true) (hd : isPlainChar d = false) : c ≠ d := by
  rintro rfl
  rw [h] at hd
  cases hd

theorem escape_eq_self (h : ∀ c ∈ path, isPlainChar c = true) : Target.escape path = path := by
  induction path with
  | nil => rfl
  | cons c path ih =>
    obtain ⟨hc, hpath⟩ := List.forall_mem_cons.1 h
    have hquestion : (c == '?') = false := beq_false_of_ne (ne_of_isPlainChar hc (by decide))
    have hnumber : (c == '#') = false := beq_false_of_ne (ne_of_isPlainChar hc (by decide))
    have hbackslash : (c == '\\') = false := beq_false_of_ne (ne_of_isPlainChar hc (by decide))
    show (if c == '?' then _ else if c == '#' then _ else if c == '\\' then _ else [c]) ++ Target.escape path = c :: path
    rw [ih hpath, hquestion, hnumber, hbackslash]
    rfl

/-- A plain path stays as it is in an address. -/
theorem shown_eq_self (hrooted : path.head? = some '/') (h : ∀ c ∈ path, isPlainChar c = true) :
    Target.shown path = path := by
  have hroot : Target.rooted path = path := by
    cases path with
    | nil => rfl
    | cons c path =>
      obtain rfl := Option.some.inj hrooted
      rfl
  rw [Target.shown, escape_eq_self h, hroot, List.filter_eq_self]
  intro c hc
  simp [ne_of_isPlainChar (h c hc) (d := '\t') (by decide), ne_of_isPlainChar (h c hc) (d := '\n') (by decide),
    ne_of_isPlainChar (h c hc) (d := '\r') (by decide)]

theorem isPath_iff (h : '\n' ∉ path) {declared : List Char} : isPath declared path = true ↔ path = declared := by
  have hlast : path.getLast? ≠ some '\n' := fun hlast => h (List.mem_of_getLast? hlast)
  simp [isPath, dropLineFeed, hlast]

/-! ## Routes -/

theorem answer?_routeEntry (h : '\n' ∉ head.path) (r : Route) : (routeEntry r).answer? head =
    if r.method = head.method then (r.segment? head.path).map (Routed.endpoint r.endpoint) else none := by
  have hsegment : (routeEntry r).segment? head.path = r.segment? head.path := by
    unfold routeEntry Route.segment?
    simp only [isPath_iff h]
  rw [Entry.answer?, hsegment]
  by_cases hmethod : r.method = head.method
  · simp [routeEntry, hmethod]
  · simp [routeEntry, hmethod, Ne.symm hmethod]

theorem answer?_pageEntry (h : '\n' ∉ head.path) (hpage : ¬ page <+: head.path) : (pageEntry page).answer? head = none := by
  have hpath : isPath page head.path = false := by
    rw [Bool.eq_false_iff, Ne, isPath_iff h]
    exact fun heq => hpage (heq ▸ List.prefix_refl _)
  unfold Entry.answer? pageEntry
  simp [hpath]

/-- A path that starts with no declared page starts with no page at all. -/
theorem not_prefix_of_mem_allPages {d : Declarations} (hpages : ∀ page ∈ d.pages, ¬ page <+: path)
    (h : page ∈ allPages d) : ¬ page <+: path := by
  rcases List.mem_append.1 h with h | h
  · exact hpages page h
  · split at h
    · rename_i hdocs
      rw [List.mem_singleton.1 h]
      exact fun hprefix => hpages docsPage (by simpa using hdocs) ((List.prefix_append _ _).trans hprefix)
    · cases h

/-- The first route with the path and the method of a request counts. -/
theorem route_of_firstRoute {d : Declarations} {endpoint : Endpoint} {segment : List Char} (hpath : '\n' ∉ head.path)
    (hpages : ∀ page ∈ d.pages, ¬ page <+: head.path) (h : d.firstRoute? head = some (endpoint, segment)) :
    route depth d head = .endpoint endpoint segment := by
  have hno : ((allPages d).map pageEntry).findSome? (·.answer? head) = none := by
    rw [List.findSome?_eq_none_iff, List.forall_mem_map]
    exact fun page hpage => answer?_pageEntry hpath (not_prefix_of_mem_allPages hpages hpage)
  have hroutes : (d.routes.map routeEntry).findSome? (·.answer? head) =
      (d.firstRoute? head).map fun found => .endpoint found.1 found.2 := by
    rw [Declarations.firstRoute?, List.findSome?_map, List.map_findSome?]
    congr 1
    funext r
    simp only [Function.comp_apply, answer?_routeEntry hpath]
    split
    · rw [Option.map_map]
      rfl
    · rfl
  rw [route, entries, List.findSome?_append, hno, hroutes, h]
  rfl

/-! ## Answers of the framework itself -/

theorem isForeign_json {status : Nat} {members : List (WideText × Json)}
    (herror : members.lookup ("error" : WideText) = none) (hid : members.lookup ("request_id" : WideText) = none) :
    (Response.json status (.object members)).IsForeign := by
  intro members' hbody
  cases hbody
  exact ⟨herror, hid⟩

theorem isForeign_of_body (r : Response) (h : ∀ v, r.body ≠ .json v) : r.IsForeign := fun _ hbody => absurd hbody (h _)

theorem isForeign_answerDetail (status : Nat) (detail : Json) : (answerDetail depth status detail).IsForeign := by
  unfold answerDetail answerJson
  split
  · exact isForeign_json rfl rfl
  · trivial

theorem isForeign_mapResponse (h : outcome.IsForeign) {f : Response → Response} (hf : ∀ r, (f r).body = r.body) :
    (outcome.mapResponse f).IsForeign := by
  cases outcome with
  | answered r =>
    intro members hbody
    rw [hf] at hbody
    exact h members hbody
  | raised e => trivial

theorem isForeign_answerUnknown (es : List Entry) (head : Head) : (answerUnknown depth es head).IsForeign := by
  unfold answerUnknown
  split
  · exact isForeign_mapResponse (isForeign_answerDetail _ _) fun _ => rfl
  · unfold answerUnknownPath
    dsimp only
    split
    · exact isForeign_of_body _ fun _ h => by cases h
    · exact isForeign_answerDetail _ _

/-- What the framework answers in place of an endpoint holds no error of the program. -/
theorem isForeign_of_route {d : Declarations} (h : route depth d head = .own outcome) : outcome.IsForeign := by
  unfold route at h
  cases hfound : (entries d).findSome? (·.answer? head) with
  | none =>
    rw [hfound] at h
    cases h
    exact isForeign_answerUnknown _ _
  | some routed =>
    rw [hfound] at h
    obtain rfl : routed = .own outcome := h
    obtain ⟨entry, hentry, hanswer⟩ := List.exists_of_findSome?_eq_some hfound
    unfold Entry.answer? at hanswer
    split at hanswer
    · obtain ⟨segment, _, heq⟩ := Option.map_eq_some_iff.1 hanswer
      rcases List.mem_append.1 hentry with hentry | hentry
      · obtain ⟨page, _, rfl⟩ := List.mem_map.1 hentry
        obtain rfl := Routed.own.inj heq
        exact isForeign_of_body _ fun _ h => by cases h
      · obtain ⟨r, _, rfl⟩ := List.mem_map.1 hentry
        cases heq
    · cases hanswer

theorem isForeign_answerException (e : Raised) : (answerException depth e).IsForeign := by
  unfold answerException
  split
  · exact isForeign_of_body _ fun _ h => by cases h
  · exact isForeign_answerDetail _ _

theorem isForeign_of_handlers {name : String} {handler : Raised → Outcome}
    (h : (handlers depth).lookup name = some handler) (e : Raised) : (handler e).IsForeign := by
  obtain ⟨front, back, heq, _⟩ := List.lookup_eq_some_iff.1 h
  have hmem : (name, handler) ∈ handlers depth := heq ▸ List.mem_append_right front List.mem_cons_self
  simp only [handlers, List.mem_cons, List.not_mem_nil, or_false, Prod.mk.injEq] at hmem
  obtain ⟨_, rfl⟩ | ⟨_, rfl⟩ := hmem
  · exact isForeign_answerException e
  · exact isForeign_answerDetail _ _

/-! ## Origins and compression -/

theorem status_allowOrigin (origin : String) : (allowOrigin policy origin r).status = r.status := by
  unfold allowOrigin
  split <;> rfl

theorem body_allowOrigin (origin : String) : (allowOrigin policy origin r).body = r.body := by
  unfold allowOrigin
  split <;> rfl

theorem isForeign_preflightAnswer (p : Preflight) : (p.answer policy).IsForeign := by
  unfold Preflight.answer
  dsimp only
  split
  · exact isForeign_of_body _ fun _ h => by rw [Response.body_setHeader, body_allowOrigin] at h; cases h
  · exact isForeign_of_body _ fun _ h => by rw [body_allowOrigin] at h; cases h

/-- Only requests of the method `OPTIONS` ask beforehand. -/
theorem preflightOf?_of_method (h : head.method ≠ "OPTIONS") : preflightOf? head = none := by
  have hmethod : (head.method == "OPTIONS") = false := beq_false_of_ne h
  unfold preflightOf?
  rw [hmethod]
  split
  · contradiction
  · rfl

theorem status_share : (share policy head r).status = r.status := by
  unfold share
  split
  · exact Response.status_vary _ _
  · rw [Response.status_vary, status_allowOrigin]
    rfl

theorem body_share : (share policy head r).body = r.body := by
  unfold share
  split
  · exact Response.body_vary _ _
  · rw [Response.body_vary, body_allowOrigin]
    rfl

theorem status_compress {minimum : Nat} : (compress minimum head r).status = r.status := by
  unfold compress
  split
  · rw [Response.status_vary]
    split <;> rfl
  · rfl

theorem body_compress {minimum : Nat} : (compress minimum head r).body = r.body := by
  unfold compress
  split
  · rw [Response.body_vary]
    split <;> rfl
  · rfl

/-! ## All of it -/

section standard

variable (readingDepth writingDepth)

theorem takesJson_standard : (Framework.standard readingDepth writingDepth).takesJson = takesJson := rfl

theorem bind_standard : (Framework.standard readingDepth writingDepth).bind = bind readingDepth writingDepth := rfl

theorem preflight?_standard (policy : OriginPolicy) (head : Head) :
    (Framework.standard readingDepth writingDepth).preflight? policy head =
      (preflightOf? head).map (·.answer policy) := rfl

end standard

theorem takesJson_of_contentType (h : head.header? "content-type" = some "application/json") : takesJson head = true := by
  have hjson : isJsonType "application/json" = true := by decide
  rw [takesJson, h]
  exact hjson

/-- **The framework that the program runs in** does what is known of it. -/
theorem documented_standard (h : 8 ≤ writingDepth) : (Framework.standard readingDepth writingDepth).Documented where
  urlPath_of_isPlain _ hplain := shown_eq_self hplain.rooted hplain.path
  route_of_firstRoute _ _ _ _ := route_of_firstRoute
  isForeign_of_route _ _ _ := isForeign_of_route
  takesJson_of_contentType head hhead := by
    rw [takesJson_standard]
    exact takesJson_of_contentType hhead
  bind_of_read fields request v hjson hread := by
    rw [takesJson_standard] at hjson
    rw [bind_standard]
    exact bind_of_read hjson hread
  bind_of_unreadable fields request e hjson hread hother := by
    rw [takesJson_standard] at hjson
    rw [bind_standard]
    exact bind_of_unreadable hjson hread hother
  read_of_bind fields request values hvalues := by
    rw [bind_standard] at hvalues
    rw [takesJson_standard]
    exact read_of_bind hvalues
  isRefusal_of_bind _ _ _ := isRefusal_bind
  encode_of_writable _ hv hdepth := encode_of_sendable ⟨hv, hdepth⟩
  le_writingDepth := h
  encode_report _ v _ hlimit herrors hv hdepth :=
    encode_of_sendable ((sendable_report (tellable_readBody hlimit (Json.sendable_of_writable hv) herrors)).mono hdepth)
  unhandled_of_encode _ _ he := (isFault_of_encode he).unhandled
  handler?_valueError := @lookup_handlers_of_notMem writingDepth "ValueError" (by decide)
  isForeign_of_handler _ _ e hname := isForeign_of_handlers hname e
  preflight?_of_method policy head hmethod := by
    rw [preflight?_standard, preflightOf?_of_method hmethod]
    rfl
  isForeign_of_preflight policy head r hr := by
    rw [preflight?_standard] at hr
    obtain ⟨p, _, rfl⟩ := Option.map_eq_some_iff.1 hr
    exact isForeign_preflightAnswer p
  status_share _ _ _ := status_share
  body_share _ _ _ := body_share
  status_compress _ _ _ := status_compress
  body_compress _ _ _ := body_compress

end SnippetLanguage.Http.Standard

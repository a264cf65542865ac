import SnippetLanguage.Proofs.Http.Standard.Writing

/-!
# What the framework says about a body

A report shows no more of a value than the value holds, so a value that can be sent is still one as a report shows it
(`sendable_shown`). What is wrong with the fields of a body can be told if the body could be sent itself
(`sendable_report`). A refused body is answered with status 400 or 422 and a detail, or with an exception that nobody
handles (`isRefusal_bind`).
-/

namespace SnippetLanguage.Http.Standard

open Schema Json

variable {depth readingDepth writingDepth : Nat} {members : List (WideText × Json)} {v : Json} {e : Schema.Error}
  {errors : List Schema.Error} {f : Field} {fields : List Field} {request : Request} {outcome : Outcome}

/-! ## Reports -/

mutual

/-- A value that can be sent can be shown in a report. -/
theorem sendable_shown : ∀ (v : Json) {depth : Nat}, v.Sendable depth → (shown v).Sendable depth
  | .null, _ | .bool _, _ | .int _, _ | .decimal _, _ | .notFinite _, _ | .text _, _ => fun h => h
  | .array items, 0 => fun h => absurd h not_sendable_array_zero
  | .object members, 0 => fun h => absurd h not_sendable_object_zero
  | .array items, depth + 1 => fun h => by
    rw [shown, sendable_array_iff]
    exact sendable_shownItems items (sendable_array_iff.1 h)
  | .object members, depth + 1 => fun h => by
    rw [shown, sendable_object_iff]
    exact sendable_shownMembers members (sendable_object_iff.1 h)

theorem sendable_shownItems : ∀ (items : List Json) {depth : Nat}, (∀ v ∈ items, v.Sendable depth) →
    ∀ v ∈ shownItems items, v.Sendable depth
  | [], _ => fun h => h
  | v :: vs, _ => fun h => by
    obtain ⟨hv, hvs⟩ := List.forall_mem_cons.1 h
    rw [shownItems]
    exact List.forall_mem_cons.2 ⟨sendable_shown v hv, sendable_shownItems vs hvs⟩

theorem sendable_shownMembers : ∀ (members : List (WideText × Json)) {depth : Nat},
    (∀ m ∈ members, m.1.hasHalf = false ∧ m.2.Sendable depth) →
      ∀ m ∈ shownMembers members, m.1.hasHalf = false ∧ m.2.Sendable depth
  | [], _ => fun h => h
  | (name, v) :: ms, _ => fun h => by
    obtain ⟨⟨hname, hv⟩, hms⟩ := List.forall_mem_cons.1 h
    rw [shownMembers]
    split
    · exact sendable_shownMembers ms hms
    · exact List.forall_mem_cons.2 ⟨⟨hname, sendable_shown v hv⟩, sendable_shownMembers ms hms⟩

end

/-- What an error tells of a value that is nested no more deeply than `depth` can be sent. -/
structure Tellable (depth : Nat) (e : Schema.Error) : Prop where
  path : ∀ step ∈ e.path, step.toJson.Sendable depth
  context : ∀ c, e.fault.context = some c → c.Sendable (depth + 1)
  input : e.input.Sendable depth

theorem Tellable.within (h : Tellable depth e) {step : Step} (hstep : step.toJson.Sendable depth) :
    Tellable depth (e.within step) :=
  ⟨List.forall_mem_cons.2 ⟨hstep, h.path⟩, h.context, h.input⟩

theorem sendable_reportOn (h : Tellable depth e) : (reportOn e).Sendable (depth + 2) := by
  have hinput : (shown e.input).Sendable (depth + 1) := (sendable_shown _ h.input).mono (Nat.le_succ depth)
  unfold reportOn
  cases hcontext : e.fault.context with
  | none => simpa using ⟨h.path, hinput⟩
  | some c => simpa using ⟨h.path, hinput, h.context c hcontext⟩

/-- What is told of errors can be sent as a detail if what each of them tells can be. -/
theorem sendable_report (h : ∀ e ∈ errors, Tellable depth e) :
    (Json.object [("detail", report errors)]).Sendable (depth + 4) := by
  rw [sendable_object_iff, List.forall_mem_singleton]
  refine ⟨WideText.hasHalf_ofString _, ?_⟩
  rw [report, sendable_array_iff, List.forall_mem_map]
  exact fun e he => sendable_reportOn (h e he)

/-! ## Fields -/

theorem sendable_context {fault : Fault} {c : Json} (h : fault.context = some c)
    (hlimit : ∀ limit, fault = .textTooLong limit → Text.isWritten (some Text.usualDigits) limit = true) :
    c.Sendable (depth + 1) := by
  cases fault with
  | textTooLong limit =>
    cases h
    simpa using hlimit limit rfl
  | notJson fault =>
    cases h
    simp
  | _ => cases h

/-- What a field is accused of can be told. -/
theorem tellable_read (hlimit : ∀ limit ∈ f.maxLength, Text.isWritten (some Text.usualDigits) limit = true)
    (hmembers : (Json.object members).Sendable depth) (h : f.read members = .error e) : Tellable depth e := by
  have hpath : ∀ step ∈ [Step.name f.name], step.toJson.Sendable depth :=
    List.forall_mem_singleton.2 (sendable_text_iff.2 (WideText.hasHalf_ofString _))
  have hfault : ∀ s fault, f.faultOf? s = some fault → ∀ limit, fault = .textTooLong limit →
      Text.isWritten (some Text.usualDigits) limit = true := by
    rintro s _ hs limit rfl
    unfold Field.faultOf? at hs
    cases hmax : f.maxLength with
    | none => simp [hmax] at hs
    | some limit' =>
      simp only [hmax] at hs
      split at hs
      · cases hs
      · split at hs
        · cases hs
          exact hlimit limit hmax
        · cases hs
  unfold Field.read at h
  split at h
  · split at h
    · cases h
      exact ⟨hpath, fun c hc => (by cases hc), hmembers⟩
    · cases h
  · split at h
    · cases h
      exact ⟨hpath, fun c hc => (by cases hc), ⟨rfl, Nat.zero_le _⟩⟩
    · cases h
  · rename_i s hlookup
    split at h
    · rename_i fault hs
      cases h
      exact ⟨hpath, fun c hc => sendable_context hc (hfault s fault hs), hmembers.of_lookup hlookup⟩
    · cases h
  · rename_i v _ _ hlookup
    cases h
    exact ⟨hpath, fun c hc => (by cases hc), hmembers.of_lookup hlookup⟩

theorem tellable_readFields
    (hlimit : ∀ f ∈ fields, ∀ limit ∈ f.maxLength, Text.isWritten (some Text.usualDigits) limit = true)
    (hmembers : (Json.object members).Sendable depth) (h : readFields members fields = .error errors) :
    ∀ e ∈ errors, Tellable depth e := by
  induction fields generalizing errors with
  | nil => cases h
  | cons f fs ih =>
    obtain ⟨hf, hfs⟩ := List.forall_mem_cons.1 hlimit
    unfold readFields at h
    split at h
    · cases h
    · rename_i hread
      cases h
      exact ih hfs hread
    · rename_i hread _
      cases h
      exact List.forall_mem_singleton.2 (tellable_read hf hmembers hread)
    · rename_i hread hreads
      cases h
      exact List.forall_mem_cons.2 ⟨tellable_read hf hmembers hread, ih hfs hreads⟩

/-- What is wrong with a body that can be sent can be told. -/
theorem tellable_readBody
    (hlimit : ∀ f ∈ fields, ∀ limit ∈ f.maxLength, Text.isWritten (some Text.usualDigits) limit = true)
    (hv : v.Sendable depth) (h : readBody fields v = .error errors) : ∀ e ∈ errors, Tellable depth e := by
  have hbody : (Step.name "body").toJson.Sendable depth := sendable_text_iff.2 (WideText.hasHalf_ofString _)
  unfold readBody at h
  split at h
  · rename_i members
    cases hread : readFields members fields with
    | ok values =>
      rw [hread] at h
      cases h
    | error errors' =>
      rw [hread] at h
      cases h
      exact List.forall_mem_map.2 fun e he => (tellable_readFields hlimit hv hread e he).within hbody
  · cases h
    exact List.forall_mem_singleton.2 ⟨List.forall_mem_singleton.2 hbody, fun c hc => (by cases hc), hv⟩

/-! ## Bodies -/

theorem isRefusal_answerDetail {status : Nat} (h : status = 400 ∨ status = 422) (detail : Json) :
    (answerDetail writingDepth status detail).IsRefusal (Framework.standard readingDepth writingDepth) := by
  unfold answerDetail answerJson
  split
  · exact ⟨h, _, rfl⟩
  · rename_i e he
    exact (isFault_of_encode he).unhandled

theorem isRefusal_refuse (errors : List Schema.Error) :
    (refuse writingDepth errors).IsRefusal (Framework.standard readingDepth writingDepth) :=
  isRefusal_answerDetail (.inr rfl) _

theorem isRefusal_refuseUnread (body : List UInt8) :
    (refuseUnread writingDepth body).IsRefusal (Framework.standard readingDepth writingDepth) := by
  unfold refuseUnread
  split
  · exact isRefusal_refuse _
  · refine IsFault.unhandled fun c hc => ?_
    simp only [undecodable, List.mem_cons, List.not_mem_nil, or_false] at hc
    rcases hc with rfl | rfl | rfl <;> exact ⟨_, rfl, by decide⟩

/-- A body that does not give texts to the fields is refused. -/
theorem isRefusal_bind (h : bind readingDepth writingDepth fields request = .error outcome) :
    outcome.IsRefusal (Framework.standard readingDepth writingDepth) := by
  unfold bind at h
  split at h
  · cases h
    exact isRefusal_refuse _
  · split at h
    · split at h
      · rename_i v _
        cases hread : readBody fields v with
        | ok values =>
          rw [hread] at h
          cases h
        | error errors =>
          rw [hread] at h
          cases h
          exact isRefusal_refuse _
      · cases h
        exact isRefusal_refuse _
      · cases h
        exact isRefusal_answerDetail (.inl rfl) _
    · cases h
      exact isRefusal_refuseUnread _

/-- There is no value in an empty body. -/
theorem read_nil (depth : Nat) : Json.read depth [] = .error (.malformed .expectedValue 0) := rfl

theorem bind_of_read (hjson : takesJson request.toHead = true) (hread : Json.read readingDepth request.body = .ok v) :
    bind readingDepth writingDepth fields request = (readBody fields v).mapError (refuse writingDepth) := by
  have hbody : request.body.isEmpty = false := by
    cases hempty : request.body with
    | nil =>
      rw [hempty, read_nil] at hread
      cases hread
    | cons b bs => rfl
  rw [bind, hbody, hjson, hread]
  rfl

theorem bind_of_unreadable {e : Json.ReadError} (hjson : takesJson request.toHead = true)
    (hread : Json.read readingDepth request.body = .error e) (hother : ∀ fault position, e ≠ .malformed fault position) :
    bind readingDepth writingDepth fields request =
      .error (answerDetail writingDepth 400 (.text "There was an error parsing the body")) := by
  have hbody : request.body.isEmpty = false := by
    cases hempty : request.body with
    | nil =>
      rw [hempty, read_nil] at hread
      cases hread
      exact absurd rfl (hother _ _)
    | cons b bs => rfl
  rw [bind, hbody, hjson, hread]
  cases e with
  | malformed fault position => exact absurd rfl (hother fault position)
  | _ => rfl

theorem read_of_bind {values : List (Option WideText)} (h : bind readingDepth writingDepth fields request = .ok values) :
    takesJson request.toHead = true ∧
      ∃ v, Json.read readingDepth request.body = .ok v ∧ readBody fields v = .ok values := by
  unfold bind at h
  split at h
  · cases h
  · split at h
    · rename_i hjson
      split at h
      · rename_i v hread
        cases hfields : readBody fields v with
        | ok values' =>
          rw [hfields] at h
          cases h
          exact ⟨hjson, v, hread, hfields⟩
        | error errors =>
          rw [hfields] at h
          cases h
      · cases h
      · cases h
    · cases h

end SnippetLanguage.Http.Standard

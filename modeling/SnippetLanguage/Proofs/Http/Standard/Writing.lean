import SnippetLanguage.Http.Standard
import SnippetLanguage.Proofs.Json.Sendable

/-!
# What the framework writes

A value that can be sent is written (`encode_of_sendable`). Where another one cannot be written, the exception is of no class
that is handled (`isFault_of_encode`).
-/

namespace SnippetLanguage.Http.Standard

open Json

variable {depth : Nat} {v : Json} {e : Raised}

mutual

theorem textFault?_of_sendable : ∀ (v : Json) {depth : Nat}, v.Sendable depth → textFault? depth v = none
  | .null, _ | .bool _, _ | .decimal _, _ | .text _, _ => fun _ => rfl
  | .int n, _ => fun h => by rw [textFault?, if_pos (sendable_int_iff.1 h)]
  | .notFinite word, _ => fun h => absurd h.writable Bool.false_ne_true
  | .array items, 0 => fun h => absurd h not_sendable_array_zero
  | .array items, depth + 1 => fun h => by rw [textFault?, itemsFault?_of_sendable items (sendable_array_iff.1 h)]
  | .object members, 0 => fun h => absurd h not_sendable_object_zero
  | .object members, depth + 1 => fun h => by
    rw [textFault?, membersFault?_of_sendable members fun m hm => (sendable_object_iff.1 h m hm).2]

theorem itemsFault?_of_sendable : ∀ (items : List Json) {depth : Nat}, (∀ v ∈ items, v.Sendable depth) →
    itemsFault? depth items = none
  | [], _ => fun _ => by rw [itemsFault?]
  | v :: vs, _ => fun h => by
    obtain ⟨hv, hvs⟩ := List.forall_mem_cons.1 h
    rw [itemsFault?, textFault?_of_sendable v hv, itemsFault?_of_sendable vs hvs, Option.or_none]

theorem membersFault?_of_sendable : ∀ (members : List (WideText × Json)) {depth : Nat},
    (∀ m ∈ members, m.2.Sendable depth) → membersFault? depth members = none
  | [], _ => fun _ => by rw [membersFault?]
  | m :: ms, _ => fun h => by
    obtain ⟨hm, hms⟩ := List.forall_mem_cons.1 h
    rw [membersFault?, textFault?_of_sendable m.2 hm, membersFault?_of_sendable ms hms, Option.or_none]

end

/-- What can be sent is written. -/
theorem encode_of_sendable (h : v.Sendable depth) : encode depth v = none := by
  rw [encode, textFault?_of_sendable v h, Option.none_or, bytesFault?, hasHalf_written v h.writable]
  rfl

/-! ## Exceptions -/

/-- An exception of no class that is handled. -/
def IsFault (e : Raised) : Prop :=
  ∀ c ∈ e.classes, ∃ name, c = .other name ∧ name ∉ ["HTTPException", "RequestValidationError"]

theorem isFault_valueError (text : String) : IsFault (.valueError text) := by
  intro c hc
  obtain rfl := List.mem_singleton.1 hc
  exact ⟨_, rfl, by decide⟩

theorem isFault_tooDeep : IsFault tooDeep := by
  intro c hc
  simp only [tooDeep, List.mem_cons, List.not_mem_nil, or_false] at hc
  rcases hc with rfl | rfl <;> exact ⟨_, rfl, by decide⟩

mutual

theorem isFault_of_textFault : ∀ (v : Json) {depth : Nat}, textFault? depth v = some e → IsFault e
  | .null, _ | .bool _, _ | .decimal _, _ | .text _, _ => fun h => by cases h
  | .int n, _ => fun h => by
    rw [textFault?] at h
    split at h
    · cases h
    · cases h
      exact isFault_valueError _
  | .notFinite word, _ => fun h => by
    cases h
    exact isFault_valueError _
  | .array items, 0 | .object members, 0 => fun h => by
    cases h
    exact isFault_tooDeep
  | .array items, depth + 1 => fun h => by
    rw [textFault?] at h
    exact isFault_of_itemsFault items h
  | .object members, depth + 1 => fun h => by
    rw [textFault?] at h
    exact isFault_of_membersFault members h

theorem isFault_of_itemsFault : ∀ (items : List Json) {depth : Nat}, itemsFault? depth items = some e → IsFault e
  | [], _ => fun h => by
    rw [itemsFault?] at h
    cases h
  | v :: vs, _ => fun h => by
    rw [itemsFault?, Option.or_eq_some_iff] at h
    exact h.elim (isFault_of_textFault v) fun h => isFault_of_itemsFault vs h.2

theorem isFault_of_membersFault : ∀ (members : List (WideText × Json)) {depth : Nat},
    membersFault? depth members = some e → IsFault e
  | [], _ => fun h => by
    rw [membersFault?] at h
    cases h
  | m :: ms, _ => fun h => by
    rw [membersFault?, Option.or_eq_some_iff] at h
    exact h.elim (isFault_of_textFault m.2) fun h => isFault_of_membersFault ms h.2

end

theorem isFault_of_bytesFault {w : WideText} (h : bytesFault? w = some e) : IsFault e := by
  unfold bytesFault? at h
  split at h
  · cases h
    intro c hc
    simp only [List.mem_cons, List.not_mem_nil, or_false] at hc
    rcases hc with rfl | rfl | rfl <;> exact ⟨_, rfl, by decide⟩
  · cases h

/-- What is raised while a value is written is not handled. -/
theorem isFault_of_encode (h : encode depth v = some e) : IsFault e := by
  rw [encode, Option.or_eq_some_iff] at h
  exact h.elim (isFault_of_textFault v) fun h => isFault_of_bytesFault h.2

theorem lookup_handlers_of_notMem {name : String} (h : name ∉ ["HTTPException", "RequestValidationError"]) :
    (handlers depth).lookup name = none := by
  simp_all [handlers, List.lookup_cons, beq_false_of_ne]

theorem IsFault.unhandled {readingDepth writingDepth : Nat} (h : IsFault e) :
    (Framework.standard readingDepth writingDepth).Unhandled e := by
  intro c hc
  obtain ⟨name, rfl, hname⟩ := h c hc
  show ((handlers writingDepth).lookup name).isSome = false
  rw [lookup_handlers_of_notMem hname]
  rfl

end SnippetLanguage.Http.Standard

import SnippetLanguage.Json.Writer

/-!
# Values that can be sent

A value can be sent by a writer of some depth if it is writable and not nested more deeply than that (`Sendable`). For an
array or an object this is a matter of its items or members (`sendable_array_iff`, `sendable_object_iff`). In what is written
of a writable value no half of a surrogate pair stands alone (`hasHalf_written`).
-/

namespace SnippetLanguage.Json

variable {depth depth' : Nat} {v : Json} {items : List Json} {members : List (WideText × Json)} {name s : WideText}

/-- A value that can be written by a writer of a depth. -/
structure Sendable (depth : Nat) (v : Json) : Prop where
  writable : v.writable = true
  depth_le : v.depth ≤ depth

theorem Sendable.mono (h : v.Sendable depth) (hdepth : depth ≤ depth') : v.Sendable depth' :=
  ⟨h.writable, Nat.le_trans h.depth_le hdepth⟩

theorem sendable_of_writable (h : v.writable = true) : v.Sendable v.depth := ⟨h, Nat.le_refl _⟩

@[simp] theorem sendable_text_iff : (text s).Sendable depth ↔ s.hasHalf = false := by
  refine ⟨fun h => ?_, fun h => ⟨?_, Nat.zero_le _⟩⟩
  · simpa [Json.writable] using h.writable
  · simp [Json.writable, h]

@[simp] theorem sendable_int_iff {n : Int} :
    (int n).Sendable depth ↔ Text.isWritten (some Text.usualDigits) n = true :=
  ⟨fun h => h.writable, fun h => ⟨h, Nat.zero_le _⟩⟩

/-! ## Arrays and objects -/

theorem writable_array : (array items).writable = true ↔ ∀ v ∈ items, v.writable = true := by
  rw [Json.writable]
  induction items with
  | nil => simp [writableItems]
  | cons v vs ih => simp [writableItems, ih]

theorem writable_object :
    (object members).writable = true ↔ ∀ m ∈ members, m.1.hasHalf = false ∧ m.2.writable = true := by
  rw [Json.writable]
  induction members with
  | nil => simp [writableMembers]
  | cons m ms ih => simp [writableMembers, ih]

theorem depth_array_le : (array items).depth ≤ depth + 1 ↔ ∀ v ∈ items, v.depth ≤ depth := by
  rw [Json.depth, Nat.add_le_add_iff_right]
  induction items with
  | nil => simp [depthItems]
  | cons v vs ih => rw [depthItems, Nat.max_le, ih, List.forall_mem_cons]

theorem depth_object_le : (object members).depth ≤ depth + 1 ↔ ∀ m ∈ members, m.2.depth ≤ depth := by
  rw [Json.depth, Nat.add_le_add_iff_right]
  induction members with
  | nil => simp [depthMembers]
  | cons m ms ih => rw [depthMembers, Nat.max_le, ih, List.forall_mem_cons]

@[simp] theorem sendable_array_iff : (array items).Sendable (depth + 1) ↔ ∀ v ∈ items, v.Sendable depth := by
  constructor
  · exact fun h v hv => ⟨writable_array.1 h.writable v hv, depth_array_le.1 h.depth_le v hv⟩
  · exact fun h => ⟨writable_array.2 fun v hv => (h v hv).writable, depth_array_le.2 fun v hv => (h v hv).depth_le⟩

@[simp] theorem sendable_object_iff :
    (object members).Sendable (depth + 1) ↔ ∀ m ∈ members, m.1.hasHalf = false ∧ m.2.Sendable depth := by
  constructor
  · exact fun h m hm =>
      ⟨(writable_object.1 h.writable m hm).1, (writable_object.1 h.writable m hm).2, depth_object_le.1 h.depth_le m hm⟩
  · exact fun h => ⟨writable_object.2 fun m hm => ⟨(h m hm).1, (h m hm).2.writable⟩,
      depth_object_le.2 fun m hm => (h m hm).2.depth_le⟩

theorem not_sendable_array_zero : ¬ (array items).Sendable 0 := fun h => Nat.not_succ_le_zero _ h.depth_le

theorem not_sendable_object_zero : ¬ (object members).Sendable 0 := fun h => Nat.not_succ_le_zero _ h.depth_le

theorem mem_of_lookup (h : members.lookup name = some v) : (name, v) ∈ members := by
  obtain ⟨_, _, rfl, _⟩ := List.lookup_eq_some_iff.1 h
  exact List.mem_append_right _ List.mem_cons_self

/-- The value of a member can be sent if the object can. -/
theorem Sendable.of_lookup (h : (object members).Sendable depth) (hlookup : members.lookup name = some v) :
    v.Sendable depth := by
  have hmem := mem_of_lookup hlookup
  cases depth with
  | zero => exact absurd h not_sendable_object_zero
  | succ depth => exact (sendable_object_iff.1 h _ hmem).2.mono (Nat.le_succ depth)

/-! ## What is written -/

theorem hasHalf_quote (s : WideText) : (quote s).hasHalf = s.hasHalf := by
  have hchars : ∀ c : Char, ((escapeChar c).map CodePoint.char).any CodePoint.isHalf = false := by
    simp [CodePoint.isHalf, CodePoint.char?]
  rw [quote, WideText.hasHalf_append, WideText.hasHalf_append, WideText.hasHalf_ofString, Bool.false_or, Bool.or_false]
  show (s.points.flatMap _).any CodePoint.isHalf = s.points.any CodePoint.isHalf
  rw [List.any_flatMap]
  congr 1
  funext p
  cases p with
  | char c => exact hchars c
  | half h => rfl

theorem hasHalf_join (separator : String) {ws : List WideText} (h : ∀ w ∈ ws, w.hasHalf = false) :
    (join separator ws).hasHalf = false := by
  induction ws with
  | nil => rfl
  | cons w ws ih =>
    obtain ⟨hw, hws⟩ := List.forall_mem_cons.1 h
    cases ws with
    | nil => exact hw
    | cons w' ws =>
      rw [join, WideText.hasHalf_append, WideText.hasHalf_append, hw, WideText.hasHalf_ofString, ih hws]
      · rfl
      · simp

mutual

/-- What is written of a writable value is a text. -/
theorem hasHalf_written : ∀ v : Json, v.writable = true → v.written.hasHalf = false
  | .null => fun _ => rfl
  | .bool b => fun _ => by cases b <;> rfl
  | .int n => fun _ => by rw [written, WideText.hasHalf_ofString]
  | .decimal x => fun _ => by rw [written, WideText.hasHalf_ofString]
  | .notFinite word => fun _ => by rw [written, WideText.hasHalf_ofString]
  | .text s => fun h => by
    rw [written, hasHalf_quote]
    simpa [Json.writable] using h
  | .array items => fun h => by
    have hitems := hasHalf_join "," (hasHalf_writtenItems items (writable_array.1 h))
    rw [written, WideText.hasHalf_append, WideText.hasHalf_append, hitems]
    rfl
  | .object members => fun h => by
    have hmembers := hasHalf_join "," (hasHalf_writtenMembers members (writable_object.1 h))
    rw [written, WideText.hasHalf_append, WideText.hasHalf_append, hmembers]
    rfl

theorem hasHalf_writtenItems : ∀ items : List Json, (∀ v ∈ items, v.writable = true) →
    ∀ w ∈ writtenItems items, w.hasHalf = false
  | [] => fun _ => List.forall_mem_nil _
  | v :: vs => fun h => by
    obtain ⟨hv, hvs⟩ := List.forall_mem_cons.1 h
    rw [writtenItems]
    exact List.forall_mem_cons.2 ⟨hasHalf_written v hv, hasHalf_writtenItems vs hvs⟩

theorem hasHalf_writtenMembers : ∀ members : List (WideText × Json),
    (∀ m ∈ members, m.1.hasHalf = false ∧ m.2.writable = true) → ∀ w ∈ writtenMembers members, w.hasHalf = false
  | [] => fun _ => List.forall_mem_nil _
  | (name, v) :: ms => fun h => by
    obtain ⟨⟨hname, hv⟩, hms⟩ := List.forall_mem_cons.1 h
    rw [writtenMembers]
    refine List.forall_mem_cons.2 ⟨?_, hasHalf_writtenMembers ms hms⟩
    rw [WideText.hasHalf_append, WideText.hasHalf_append, hasHalf_quote, hname, WideText.hasHalf_ofString,
      hasHalf_written v hv]
    rfl

end

end SnippetLanguage.Json

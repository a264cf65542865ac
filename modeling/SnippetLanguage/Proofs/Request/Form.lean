import Mathlib.Data.List.Forall2
import SnippetLanguage.DetectRequest

/-!
# The form of a detection request

The fields of an object are read if each of them holds a text that is allowed, or none where it may be left out
(`readFields_eq_ok_iff`). So an object asks for the detection of a text if it has the members that this needs, whatever
other members it has (`AsksFor`, `readFields_eq_ok_iff_asksFor`). A declared language that is too long is all that is wrong
with an object that asks for a detection otherwise (`readFields_setDeclared_of_long`).
-/

namespace SnippetLanguage

open Text

/-! ## Fields -/

namespace Schema

variable {members : List (WideText × Json)} {f : Field} {fs front back : List Field} {a : Option WideText}
  {as bs : List (Option WideText)} {e : Error} {s : WideText}

/-- A member that may be left out or null, and is a text otherwise. -/
def HasOptional (members : List (WideText × Json)) (name : String) : Option WideText → Prop
  | none => members.lookup (name : WideText) = none ∨ members.lookup (name : WideText) = some .null
  | some s => members.lookup (name : WideText) = some (.text s)

/-- What the object gives to a field is allowed. -/
structure Field.Allows (f : Field) (members : List (WideText × Json)) (a : Option WideText) : Prop where
  given : HasOptional members f.name a
  required : f.required = true → a ≠ none
  faultless : ∀ s ∈ a, f.faultOf? s = none

theorem Field.read_eq_ok_iff : f.read members = .ok a ↔ f.Allows members a := by
  unfold Field.read
  constructor
  · intro h
    split at h
    · rename_i hlookup
      split at h
      · cases h
      · rename_i hoptional
        obtain rfl := Except.ok.inj h
        exact ⟨.inl hlookup, fun hrequired => absurd hrequired hoptional, fun _ hs => by cases hs⟩
    · rename_i hlookup
      split at h
      · cases h
      · rename_i hoptional
        obtain rfl := Except.ok.inj h
        exact ⟨.inr hlookup, fun hrequired => absurd hrequired hoptional, fun _ hs => by cases hs⟩
    · rename_i hlookup
      split at h
      · cases h
      · rename_i hfault
        obtain rfl := Except.ok.inj h
        exact ⟨hlookup, fun _ => by simp, fun s hs => Option.some.inj hs ▸ hfault⟩
    · cases h
  · rintro ⟨hgiven, hrequired, hfault⟩
    cases a with
    | none =>
      have hoptional : f.required = false := Bool.eq_false_iff.2 fun h => hrequired h rfl
      rcases hgiven with hlookup | hlookup
      · rw [hlookup, hoptional]
        rfl
      · rw [hlookup]
        dsimp only
        rw [hoptional]
        rfl
    | some s =>
      have hlookup : members.lookup (f.name : WideText) = some (.text s) := hgiven
      rw [hlookup]
      dsimp only
      rw [hfault s rfl]

/-- **The fields of an object are read** exactly if the object gives each of them what is allowed. -/
theorem readFields_eq_ok_iff :
    readFields members fs = .ok as ↔ List.Forall₂ (fun f a => f.Allows members a) fs as := by
  induction fs generalizing as with
  | nil =>
    rw [readFields, List.forall₂_nil_left_iff, Except.ok.injEq]
    exact eq_comm
  | cons f fs ih =>
    rw [List.forall₂_cons_left_iff, readFields]
    constructor
    · intro h
      split at h
      · rename_i a as' ha has
        exact ⟨a, as', Field.read_eq_ok_iff.1 ha, ih.1 has, (Except.ok.inj h).symm⟩
      all_goals cases h
    · rintro ⟨a, as', ha, has, rfl⟩
      rw [Field.read_eq_ok_iff.2 ha, ih.2 has]

/-- If one field is wrong only, this is all that is told. -/
theorem readFields_of_error (hfront : readFields members front = .ok as) (hf : f.read members = .error e)
    (hback : readFields members back = .ok bs) : readFields members (front ++ f :: back) = .error [e] := by
  induction front generalizing as with
  | nil => rw [List.nil_append, readFields, hf, hback]
  | cons g front ih =>
    rw [readFields] at hfront
    split at hfront
    · rename_i a as' ha has
      rw [List.cons_append, readFields, ha, ih has]
    all_goals cases hfront

theorem Field.read_of_fault {fault : Fault} (hlookup : members.lookup (f.name : WideText) = some (.text s))
    (hfault : f.faultOf? s = some fault) : f.read members = .error ⟨[.name f.name], fault, .text s⟩ := by
  rw [Field.read, hlookup]
  dsimp only
  rw [hfault]

theorem hasOptional_setMember_of_ne {name : String} {other : WideText} {v : Json} (hne : (name : WideText) ≠ other) :
    HasOptional (Json.setMember members other v) name a ↔ HasOptional members name a := by
  cases a <;> simp only [HasOptional, Json.lookup_setMember_of_ne _ _ hne]

end Schema

/-! ## Requests -/

namespace DetectRequest

open Schema

variable {members : List (WideText × Json)} {content s : WideText} {declared style : Option WideText}
  {values : List (Option WideText)}

/-- An object that asks for the detection of a text; a language that it declares has at most 50 characters. -/
structure AsksFor (members : List (WideText × Json)) (content : WideText) (declared style : Option WideText) : Prop where
  content : members.lookup ("content" : WideText) = some (.text content)
  language : HasOptional members "declared_language" declared
  characters : ∀ s ∈ declared, s.hasHalf = false
  length_le : ∀ s ∈ declared, s.length ≤ 50
  style : HasOptional members "label_style" style

/-- The field of the declared language. -/
def declaredField : Field := { name := "declared_language", required := false, maxLength := some maxDeclaredLength }

theorem faultOf?_declaredField_eq_none_iff :
    declaredField.faultOf? s = none ↔ s.hasHalf = false ∧ s.length ≤ 50 := by
  unfold Field.faultOf? declaredField maxDeclaredLength
  dsimp only
  split
  · simp_all
  · split
    · simp_all
    · simp_all

theorem faultOf?_of_long (hhalf : s.hasHalf = false) (hlong : 50 < s.length) :
    declaredField.faultOf? s = some (.textTooLong 50) := by
  unfold Field.faultOf? declaredField maxDeclaredLength
  dsimp only
  rw [hhalf, if_neg Bool.false_ne_true, if_pos hlong]

/-- **The fields of a request** are those of an object that asks for a detection. -/
theorem readFields_eq_ok_iff_asksFor : readFields members fields = .ok values ↔
    ∃ content declared style, AsksFor members content declared style ∧ values = [some content, declared, style] := by
  rw [readFields_eq_ok_iff]
  constructor
  · intro h
    obtain ⟨content, _, hcontent, hrest, rfl⟩ := List.forall₂_cons_left_iff.1 h
    obtain ⟨declared, _, hdeclared, hlast, rfl⟩ := List.forall₂_cons_left_iff.1 hrest
    obtain ⟨style, _, hstyle, hnil, rfl⟩ := List.forall₂_cons_left_iff.1 hlast
    obtain rfl := List.forall₂_nil_left_iff.1 hnil
    obtain ⟨content, rfl⟩ := Option.ne_none_iff_exists'.1 (hcontent.required rfl)
    have hallowed := fun s hs => faultOf?_declaredField_eq_none_iff.1 (hdeclared.faultless s hs)
    exact ⟨content, declared, style, ⟨hcontent.given, hdeclared.given, fun s hs => (hallowed s hs).1,
      fun s hs => (hallowed s hs).2, hstyle.given⟩, rfl⟩
  · rintro ⟨content, declared, style, h, rfl⟩
    refine .cons ⟨h.content, fun _ => by simp, fun _ _ => rfl⟩
      (.cons ⟨h.language, fun hrequired => (by cases hrequired), fun s hs => ?_⟩
        (.cons ⟨h.style, fun hrequired => (by cases hrequired), fun _ _ => rfl⟩ .nil))
    exact faultOf?_declaredField_eq_none_iff.2 ⟨h.characters s hs, h.length_le s hs⟩

/-- A text alone asks for its detection. -/
theorem asksFor_content (content : WideText) : AsksFor [("content", .text content)] content none none where
  content := rfl
  language := .inl rfl
  characters _ hs := by cases hs
  length_le _ hs := by cases hs
  style := .inl rfl

/-- An object with another declared language asks for the same detection otherwise. -/
theorem AsksFor.setDeclared (h : AsksFor members content declared style) (hhalf : s.hasHalf = false)
    (hshort : s.length ≤ 50) :
    AsksFor (Json.setMember members "declared_language" (.text s)) content (some s) style where
  content := (Json.lookup_setMember_of_ne _ _ (by decide)).trans h.content
  language := Json.lookup_setMember_self _ _ _
  characters _ hs := Option.some.inj hs ▸ hhalf
  length_le _ hs := Option.some.inj hs ▸ hshort
  style := (hasOptional_setMember_of_ne (by decide)).2 h.style

/-- A declared language that is too long is the only fault of an object that asks for a detection otherwise. -/
theorem readFields_setDeclared_of_long (h : AsksFor members content declared style) (hhalf : s.hasHalf = false)
    (hlong : 50 < s.length) : readFields (Json.setMember members "declared_language" (.text s)) fields =
      .error [⟨[.name "declared_language"], .textTooLong 50, .text s⟩] := by
  have hcontent : HasOptional (Json.setMember members "declared_language" (.text s)) "content" (some content) :=
    (hasOptional_setMember_of_ne (by decide)).2 h.content
  have hstyle : HasOptional (Json.setMember members "declared_language" (.text s)) "label_style" style :=
    (hasOptional_setMember_of_ne (by decide)).2 h.style
  exact readFields_of_error (f := declaredField)
    (readFields_eq_ok_iff.2 (.cons ⟨hcontent, fun _ => by simp, fun _ _ => rfl⟩ .nil))
    (Field.read_of_fault (Json.lookup_setMember_self _ _ _) (faultOf?_of_long hhalf hlong))
    (readFields_eq_ok_iff.2 (.cons ⟨hstyle, fun hrequired => (by cases hrequired), fun _ _ => rfl⟩ .nil))

end DetectRequest

end SnippetLanguage

import Mathlib.Data.List.TakeWhile
import SnippetLanguage.Proofs.Detection.Method
import SnippetLanguage.Proofs.Service.Feedback

/-!
# The style is presentation

The style of a request reaches the label alone: the language of an answer and its method are chosen before a label is
looked up (`Table.exists_detect_eq_of`, `Service.exists_resultOf_eq_of`). And the labels of the two styles say the same:
the two tables have the same identifiers in the same order, and each label of the second is a glyph, a space and the
name of the first (`forall₂_labels`). A look-up walks down both tables in step (`rel_lookup_of_forall₂`), so an
identifier is in both or in none, and then its name is the identifier itself (`labelFor_pictured`). So the answers to a
request in the two styles differ in the picture alone (`Service.style_is_presentation`).
-/

namespace SnippetLanguage

open Text

/-- Look-ups in two tables with the same keys in the same order find related values, or none in both. -/
theorem rel_lookup_of_forall₂ {α β γ : Type} [BEq α] {R : β → γ → Prop} {l : List (α × β)} {l' : List (α × γ)}
    (h : List.Forall₂ (fun a b => a.1 = b.1 ∧ R a.2 b.2) l l') (k : α) : Option.Rel R (l.lookup k) (l'.lookup k) := by
  induction h with
  | nil => exact .none
  | @cons a b l l' hab _ ih =>
    obtain ⟨hkey, hvalue⟩ := hab
    rw [List.lookup_cons, List.lookup_cons, ← hkey]
    cases k == a.1 with
    | true => exact .some hvalue
    | false => exact ih

/-- Related defaults keep found and missing values related. -/
theorem rel_getD {β γ : Type} {R : β → γ → Prop} {o : Option β} {o' : Option γ} (h : Option.Rel R o o') {b : β} {c : γ}
    (hdefault : R b c) : R (o.getD b) (o'.getD c) := by
  cases h with
  | some hvalue => exact hvalue
  | none => exact hdefault

/-! ## The two tables of labels -/

/-- A name and a label that is this name behind a glyph and a space. -/
def Pictured (name label : String) : Prop :=
  ∃ glyph : String, glyph ≠ "" ∧ (∀ c ∈ glyph.toList, isBlank c = false) ∧ label = glyph ++ " " ++ name

/-- What stands before the first blank character of a label. -/
def glyphOf (label : String) : String := String.ofList (label.toList.takeWhile fun c => !isBlank c)

theorem isBlank_of_mem_glyphOf {label : String} {c : Char} (h : c ∈ (glyphOf label).toList) : isBlank c = false := by
  rw [glyphOf, String.toList_ofList] at h
  simpa using List.mem_takeWhile_imp h

theorem glyphOf_append {glyph name : String} (h : ∀ c ∈ glyph.toList, isBlank c = false) :
    glyphOf (glyph ++ " " ++ name) = glyph := by
  have hvisible : ∀ c ∈ glyph.toList, (!isBlank c) = true := by
    intro c hc
    rw [h c hc]
    rfl
  have hspace : ∀ c ∈ (' ' :: name.toList).head?, (!isBlank c) = false := by
    rintro c ⟨⟩
    rfl
  have hlabel : (glyph ++ " " ++ name).toList = glyph.toList ++ ' ' :: name.toList := by
    rw [String.toList_append, String.toList_append, List.append_assoc]
    rfl
  rw [glyphOf, hlabel, Fence.takeWhile_append_eq hvisible hspace, String.ofList_toList]

/-- Only what stands before the first blank character can be the glyph, so the tables can be checked by evaluation. -/
theorem pictured_iff {name label : String} :
    Pictured name label ↔ glyphOf label ≠ "" ∧ label = glyphOf label ++ " " ++ name := by
  constructor
  · rintro ⟨glyph, hne, hvisible, rfl⟩
    rw [glyphOf_append hvisible]
    exact ⟨hne, rfl⟩
  · rintro ⟨hne, hlabel⟩
    exact ⟨glyphOf label, hne, fun c => isBlank_of_mem_glyphOf, hlabel⟩

instance (name label : String) : Decidable (Pictured name label) := decidable_of_iff _ pictured_iff.symm

/-- The two tables agree, entry by entry. -/
theorem forall₂_labels :
    List.Forall₂ (fun plain emoji => plain.1 = emoji.1 ∧ Pictured plain.2 emoji.2) plainLabels pictureLabels := by
  decide

/-- **The labels of a language**, whether the tables know it or not. -/
theorem labelFor_pictured (language : String) : Pictured (labelFor language .plain) (labelFor language .emoji) := by
  have hvisible : ∀ c ∈ unknownPicture.toList, isBlank c = false := by
    intro c hc
    have hall : (unknownPicture.toList.all fun c => !isBlank c) = true := by decide
    simpa using List.all_eq_true.1 hall c hc
  have hunknown : Pictured language (unknownPicture ++ " " ++ language) := ⟨unknownPicture, by decide, hvisible, rfl⟩
  exact rel_getD (rel_lookup_of_forall₂ forall₂_labels language) hunknown

/-! ## One request in two styles -/

/-- A text has its language and its method in every style. -/
theorem Table.exists_detect_eq_of (t : Table) (text : String) :
    ∃ language method, ∀ style, t.detect text style = .of language style method := by
  cases hfence : Fence.language? text with
  | some language => exact ⟨language, .override, fun _ => detect_of_fence hfence⟩
  | none => exact ⟨t.classify text, _, fun _ => detect_of_no_fence hfence⟩

namespace Service

variable {settings : Settings} {t : Table} {content : String} {declared : Option String}

/-- A request has its language and its method in every style. -/
theorem exists_resultOf_eq_of (t : Table) (content : String) (declared : Option String) :
    ∃ language method, ∀ known, resultOf t content declared known = .of language known method := by
  obtain ⟨language, rfl, hvisible⟩ | hundeclared := declares_or declared
  · exact ⟨canonicalName language, .declared, fun _ => resultOf_of_declared hvisible⟩
  · obtain ⟨language, method, hdetect⟩ := t.exists_detect_eq_of content
    exact ⟨language, method, fun known => by rw [resultOf_of_undeclared hundeclared, hdetect]⟩

/-- **The style is presentation.** Whatever the configured style, the table, the text within the limit and the declared
language are, the request is answered in both styles, with the same language and the same method, and leaves the same
record; and the label in the second style is a glyph without blank characters, one space, and the label in the first. -/
theorem style_is_presentation (hshort : (content.length : Int) ≤ settings.maxContentLength) :
    ∃ plain emoji record, detect settings t content declared (some "plain") = (.ok plain, record) ∧
      detect settings t content declared (some "emoji") = (.ok emoji, record) ∧
      emoji.language = plain.language ∧ emoji.method = plain.method ∧
      ∃ glyph : String, glyph ≠ "" ∧ (∀ c ∈ glyph.toList, isBlank c = false) ∧
        emoji.displayLabel = glyph ++ " " ++ plain.displayLabel := by
  obtain ⟨language, method, hresult⟩ := exists_resultOf_eq_of t content declared
  have hdetect : ∀ style : LabelStyle, styleInForce settings (some style.name) = style.name →
      detect settings t content declared (some style.name) =
        (.ok (.of language style method), [.detected language method content.length]) := by
    intro style hstyle
    rw [detect_of_known_style hstyle hshort, hresult, Detection.language_of, Detection.method_of]
  exact ⟨_, _, _, hdetect .plain rfl, hdetect .emoji rfl, rfl, rfl, labelFor_pictured language⟩

/-- A language that no table of labels knows, over a configuration that would refuse its own style. -/
theorem style_is_presentation_of_unknown_language :
    ∃ glyph : String, glyph ≠ "" ∧ (∀ c ∈ glyph.toList, isBlank c = false) ∧
      (detect { labelStyle := "" } Table.default "```py\n" (some " Zig") (some "plain")).1 =
        .ok ⟨"zig", "zig", .declared⟩ ∧
      (detect { labelStyle := "" } Table.default "```py\n" (some " Zig") (some "emoji")).1 =
        .ok ⟨"zig", glyph ++ " " ++ "zig", .declared⟩ := by
  let settings : Settings := { labelStyle := "" }
  obtain ⟨plain, emoji, record, hplain, hemoji, hlanguage, hmethod, glyph, hne, hvisible, hlabel⟩ :=
    @style_is_presentation settings Table.default "```py\n" (some " Zig") (by decide)
  have hanswer : (detect settings Table.default "```py\n" (some " Zig") (some "plain")).1 =
      .ok ⟨"zig", "zig", .declared⟩ := detect_eq_ok_iff.2 ⟨.plain, rfl, by decide, by decide⟩
  obtain rfl : plain = ⟨"zig", "zig", .declared⟩ := by
    rw [hplain] at hanswer
    exact Except.ok.inj hanswer
  obtain ⟨language, label, method⟩ := emoji
  obtain rfl : language = "zig" := hlanguage
  obtain rfl : method = .declared := hmethod
  obtain rfl : label = glyph ++ " " ++ "zig" := hlabel
  exact ⟨glyph, hne, hvisible, hanswer, congrArg Prod.fst hemoji⟩

end Service

end SnippetLanguage

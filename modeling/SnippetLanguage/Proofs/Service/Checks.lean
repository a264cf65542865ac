import SnippetLanguage.Rule.Default
import SnippetLanguage.Service

/-!
# What the service checks before it answers

The service looks at the style in force first, then at the length of the text, and only then for a language
(`detect_cases`). A style that is unknown or a text that is too long is a failure that names its field, and leaves no
record; only a limit that cannot be written is another error. Everything else is answered, with one record: by a visible
language that is declared (`resultOf_of_declared`), whatever the text and the table, and else by the text
(`resultOf_of_undeclared`). `detect_checks_in_order` says all of this for any settings, as nothing here relies on their
having been checked.
-/

namespace SnippetLanguage

open Text

/-- The names of the styles are the only texts that are styles. -/
theorem LabelStyle.ofName?_eq_none_iff {s : String} : ofName? s = none ↔ s ∉ ["plain", "emoji"] := by
  unfold ofName?
  by_cases hplain : s = "plain" <;> by_cases hemoji : s = "emoji" <;> simp [hplain, hemoji]

namespace Service

variable {settings : Settings} {t : Table} {content : String} {declared style : Option String} {d : Detection}
  {e : Raised} {known : LabelStyle} {digits : Option Nat} {limit : Int} {length : Nat}

/-! ## The failures -/

/-- The failure of an unknown style names the field. -/
theorem unknownStyle_eq (style : WideText) : unknownStyle style =
    .invalid (unknownStyle style).message (some "label_style") [("field", .text "label_style")] := rfl

/-- The failure of a text that is too long names the limit, the length and the field. -/
theorem contentTooLong_eq (written : String) (limit : Int) (length : Nat) : contentTooLong written limit length =
    .invalid ("Content exceeds the maximum of " ++ written ++ " characters" : String) (some "content")
      [("max_length", .int limit), ("length", .int length), ("field", .text "content")] := rfl

theorem tooLong_of_isWritten (h : isWritten digits limit = true) :
    tooLong digits limit length = (contentTooLong (toString limit) limit length).raised := by
  rw [tooLong, decimal?_of_isWritten h]

theorem tooLong_of_not_isWritten (h : isWritten digits limit = false) :
    tooLong digits limit length = .valueError (unwrittenMessage digits) := by
  rw [tooLong, decimal?_of_not_isWritten h]

theorem fst_detect (settings : Settings) (t : Table) (content : String) (declared style : Option String)
    (digits : Option Nat) :
    (detect settings t content declared style digits).1 = detection settings t content declared style digits := by
  unfold detect
  cases detection settings t content declared style digits <;> rfl

theorem detect_of_unknown_style (h : LabelStyle.ofName? (styleInForce settings style) = none) :
    (detect settings t content declared style digits).1 =
      .error (unknownStyle (styleInForce settings style)).raised := by
  rw [fst_detect]
  unfold detection
  dsimp only
  rw [h]

theorem detect_of_long_content (hstyle : LabelStyle.ofName? (styleInForce settings style) = some known)
    (h : settings.maxContentLength < content.length) :
    (detect settings t content declared style digits).1 =
      .error (tooLong digits settings.maxContentLength content.length) := by
  rw [fst_detect]
  unfold detection
  dsimp only
  rw [hstyle]
  exact if_pos h

/-- The service answers exactly when the style is known and the text is not too long. -/
theorem detect_eq_ok_iff : (detect settings t content declared style digits).1 = .ok d ↔
    ∃ known, LabelStyle.ofName? (styleInForce settings style) = some known ∧
      (content.length : Int) ≤ settings.maxContentLength ∧ resultOf t content declared known = d := by
  rw [fst_detect]
  unfold detection
  dsimp only
  cases hstyle : LabelStyle.ofName? (styleInForce settings style) with
  | none => simp
  | some known =>
    dsimp only
    split
    · rename_i hlong
      refine iff_of_false (fun h => by cases h) ?_
      rintro ⟨_, _, hshort, _⟩
      omega
    · rename_i hshort
      simp only [Except.ok.injEq, Option.some.injEq, exists_eq_left']
      exact ⟨fun h => ⟨by omega, h⟩, fun h => h.2⟩

/-- What is raised leaves no record. -/
theorem detect_eq_of_error (h : (detect settings t content declared style digits).1 = .error e) :
    detect settings t content declared style digits = (.error e, []) := Prod.ext h (detect_log_of_error h)

/-- A result leaves one record. -/
theorem detect_eq_of_ok (h : (detect settings t content declared style digits).1 = .ok d) :
    detect settings t content declared style digits = (.ok d, [.detected d.language d.method content.length]) :=
  Prod.ext h (detect_log_of_ok h)

/-- **The three outcomes.** The style decides before the length does. -/
theorem detect_cases (settings : Settings) (t : Table) (content : String) (declared style : Option String)
    (digits : Option Nat) :
    (styleInForce settings style ∉ ["plain", "emoji"] ∧ detect settings t content declared style digits =
        (.error (unknownStyle (styleInForce settings style)).raised, [])) ∨
    ∃ known : LabelStyle, styleInForce settings style = known.name ∧
      (settings.maxContentLength < content.length ∧ detect settings t content declared style digits =
          (.error (tooLong digits settings.maxContentLength content.length), []) ∨
        (content.length : Int) ≤ settings.maxContentLength ∧ detect settings t content declared style digits =
          (.ok (resultOf t content declared known), [.detected (resultOf t content declared known).language
            (resultOf t content declared known).method content.length])) := by
  cases hstyle : LabelStyle.ofName? (styleInForce settings style) with
  | none =>
    exact .inl ⟨LabelStyle.ofName?_eq_none_iff.1 hstyle, detect_eq_of_error (detect_of_unknown_style hstyle)⟩
  | some known =>
    refine .inr ⟨known, LabelStyle.ofName?_eq_some_iff.1 hstyle, ?_⟩
    by_cases hlong : settings.maxContentLength < content.length
    · exact .inl ⟨hlong, detect_eq_of_error (detect_of_long_content hstyle hlong)⟩
    · have hshort : (content.length : Int) ≤ settings.maxContentLength := by omega
      exact .inr ⟨hshort, detect_eq_of_ok (detect_eq_ok_iff.2 ⟨known, hstyle, hshort, rfl⟩)⟩

theorem detect_of_known_style (hstyle : styleInForce settings style = known.name)
    (hshort : (content.length : Int) ≤ settings.maxContentLength) : detect settings t content declared style digits =
      (.ok (resultOf t content declared known), [.detected (resultOf t content declared known).language
        (resultOf t content declared known).method content.length]) :=
  detect_eq_of_ok (detect_eq_ok_iff.2 ⟨known, LabelStyle.ofName?_eq_some_iff.2 hstyle, hshort, rfl⟩)

/-! ## The results -/

/-- A visible language that is declared is kept. -/
theorem resultOf_of_declared {language : String} (h : allBlank language = false) :
    resultOf t content (some language) known = .of (canonicalName language) known .declared := by
  rw [resultOf, h]
  rfl

/-- Without a visible language that is declared the text decides. -/
theorem resultOf_of_undeclared (h : ∀ language ∈ declared, allBlank language = true) :
    resultOf t content declared known = t.detect content known := by
  cases declared with
  | none => rfl
  | some language =>
    rw [resultOf, h language rfl]
    rfl

end Service

end SnippetLanguage

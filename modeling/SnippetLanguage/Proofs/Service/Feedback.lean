import SnippetLanguage.Proofs.Alias.Canonical
import SnippetLanguage.Proofs.Fence.Layout
import SnippetLanguage.Proofs.Ranking.Winner
import SnippetLanguage.Proofs.Service.Checks

/-!
# Answers given back

Each language that the service answers is an identifier, wherever it comes from: the tag of a fence
(`isIdentifier_of_fence`), a rule of the default table or a placeholder (`isIdentifier_classify_default`), or the caller
(`isIdentifier_resultOf`). So an answer that a later request declares is kept as it is, with the same label
(`detect_keeps_own_answer`).
-/

namespace SnippetLanguage

open Text

/-! ## Where languages come from -/

theorem Fence.isBlank_of_isTagChar {c : Char} (h : IsTagChar c) : isBlank c = false := by
  rcases h with h | h
  · exact isBlank_of_isWord h
  · simp only [List.mem_cons, List.not_mem_nil, or_false] at h
    rcases h with rfl | rfl | rfl | rfl <;> decide

/-- The tag of a fence is visible, so what it declares is an identifier. -/
theorem Fence.isIdentifier_of_fence {text language : String} (h : Fence.language? text = some language) :
    IsIdentifier language := by
  rw [language?_eq_map_firstTag?, Option.map_eq_some_iff] at h
  obtain ⟨tag, htag, rfl⟩ := h
  obtain ⟨line, _, hline⟩ := List.exists_of_findSome?_eq_some htag
  obtain ⟨_, _, _, _, hne, hchars, _⟩ := lineTag?_eq_some_iff.1 hline
  obtain ⟨c, hc⟩ := List.exists_mem_of_ne_nil tag hne
  apply isIdentifier_canonicalName
  exact allBlank_eq_false_iff.2 ⟨c, by rwa [String.toList_ofList], isBlank_of_isTagChar (hchars c hc)⟩

theorem isIdentifier_placeholder (text : String) : IsIdentifier (placeholder text) := by
  unfold placeholder
  split <;> decide +kernel

namespace Table

theorem isIdentifier_of_mem_default : ∀ r ∈ Table.default.rules, IsIdentifier r.name := by decide +kernel

/-- The default table answers with identifiers. -/
theorem isIdentifier_classify_default (text : String) : IsIdentifier (Table.default.classify text) := by
  by_cases hwin : ∃ r, Table.default.Wins r text
  · obtain ⟨r, hr⟩ := hwin
    rw [classify_of_wins hr]
    exact isIdentifier_of_mem_default r hr.1
  · rw [classify_of_forall_not_wins (not_exists.1 hwin)]
    exact isIdentifier_placeholder text

theorem isIdentifier_detect_default (text : String) (style : LabelStyle) :
    IsIdentifier (Table.default.detect text style).language := by
  rw [detect_language_eq]
  cases hfence : Fence.language? text with
  | some language => exact Fence.isIdentifier_of_fence hfence
  | none => exact isIdentifier_classify_default text

/-- The label of a detection is the one of its language. -/
theorem displayLabel_detect (t : Table) (text : String) (style : LabelStyle) :
    (t.detect text style).displayLabel = labelFor (t.detect text style).language style := by
  unfold detect
  cases Fence.language? text <;> rfl

end Table

namespace Service

variable {settings : Settings} {t : Table} {content : String} {declared style : Option String} {d : Detection}
  {known : LabelStyle}

/-! ## What the service answers -/

/-- A visible language is declared, or none is. -/
theorem declares_or (declared : Option String) :
    (∃ language ∈ declared, allBlank language = false) ∨ ∀ language ∈ declared, allBlank language = true := by
  by_cases hdeclared : ∃ language ∈ declared, allBlank language = false
  · exact .inl hdeclared
  · right
    intro language hlanguage
    exact Bool.of_not_eq_false fun hvisible => hdeclared ⟨language, hlanguage, hvisible⟩

/-- A result names a visible language that is declared, or it is what the text decides. -/
theorem resultOf_eq_or (t : Table) (content : String) (declared : Option String) (known : LabelStyle) :
    (∃ language ∈ declared, allBlank language = false ∧
      resultOf t content declared known = .of (canonicalName language) known .declared) ∨
    resultOf t content declared known = t.detect content known := by
  obtain ⟨language, rfl, hvisible⟩ | hundeclared := declares_or declared
  · exact .inl ⟨language, rfl, hvisible, resultOf_of_declared hvisible⟩
  · exact .inr (resultOf_of_undeclared hundeclared)

/-- The label of a result is the one of its language. -/
theorem displayLabel_resultOf :
    (resultOf t content declared known).displayLabel = labelFor (resultOf t content declared known).language known := by
  rcases resultOf_eq_or t content declared known with ⟨language, _, _, h⟩ | h
  · rw [h, Detection.displayLabel_of, Detection.language_of]
  · rw [h, Table.displayLabel_detect]

/-- The language of a result is an identifier, and the label is the one of the language. -/
theorem isIdentifier_resultOf : IsIdentifier (resultOf Table.default content declared known).language ∧
    (resultOf Table.default content declared known).displayLabel =
      labelFor (resultOf Table.default content declared known).language known := by
  refine ⟨?_, displayLabel_resultOf⟩
  rcases resultOf_eq_or Table.default content declared known with ⟨language, _, hvisible, h⟩ | h
  · rw [h, Detection.language_of]
    exact isIdentifier_canonicalName hvisible
  · rw [h]
    exact Table.isIdentifier_detect_default content known

/-- **Answers stay when they are given back.** Normalising a name twice is normalising it once. A language that the
service answers over the default table is visible and stays under normalising; so when a later request of the same style
declares it, whatever admissible text comes with it, the answer is this language again, with the same label. -/
theorem detect_keeps_own_answer :
    (∀ tag, canonicalName (canonicalName tag) = canonicalName tag) ∧
      ∀ (settings : Settings) (content : String) (declared style : Option String) (d : Detection),
        (detect settings Table.default content declared style).1 = .ok d →
          allBlank d.language = false ∧ canonicalName d.language = d.language ∧
            ∀ content' : String, (content'.length : Int) ≤ settings.maxContentLength →
              (detect settings Table.default content' (some d.language) style).1 =
                .ok ⟨d.language, d.displayLabel, .declared⟩ := by
  refine ⟨canonicalName_canonicalName, ?_⟩
  intro settings content declared style d h
  obtain ⟨known, hstyle, _, rfl⟩ := detect_eq_ok_iff.1 h
  obtain ⟨⟨hvisible, hcanonical⟩, hlabel⟩ := @isIdentifier_resultOf content declared known
  refine ⟨hvisible, hcanonical, fun content' hlength => ?_⟩
  refine detect_eq_ok_iff.2 ⟨known, hstyle, hlength, ?_⟩
  rw [resultOf_of_declared hvisible, hcanonical, hlabel]
  rfl

/-- A tag whose capitals have lower cases of their own, given back with another text that a fence would decide. -/
theorem detect_keeps_own_answer_of_dotted_capital :
    (detect {} Table.default "```İΣ\n" none (some "emoji")).1 = .ok ⟨"i̇ς", "🏷️ i̇ς", .override⟩ ∧
      (detect {} Table.default "```py\n" (some "i̇ς") (some "emoji")).1 = .ok ⟨"i̇ς", "🏷️ i̇ς", .declared⟩ := by
  have h : (detect {} Table.default "```İΣ\n" none (some "emoji")).1 = .ok ⟨"i̇ς", "🏷️ i̇ς", .override⟩ := by
    exact detect_eq_ok_iff.2 ⟨.emoji, by decide, by decide, by decide +kernel⟩
  obtain ⟨_, hkeep⟩ := detect_keeps_own_answer
  obtain ⟨_, _, hagain⟩ := hkeep {} "```İΣ\n" none (some "emoji") _ h
  exact ⟨h, hagain "```py\n" (by decide)⟩

end Service

end SnippetLanguage

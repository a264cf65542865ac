import SnippetLanguage.Detection
import SnippetLanguage.Proofs.Ranking.Independence

/-!
# What the method of a detection tells

A detection by a fence is one for every table. Without a fence the method is read off the name that the classification
answers: it is `fallback` for the two placeholders and `scorer` for all other names. So it tells whether a rule won
unless the winner itself is named like a placeholder (`detect_method`). No table refuses a rule for such a name, and
when it wins the method says that none did (`detect_method_of_winner_named_text`).
-/

namespace SnippetLanguage

theorem isPlaceholder_placeholder (text : String) : isPlaceholder (placeholder text) = true := by
  unfold placeholder
  split <;> rfl

namespace Table

variable {t : Table} {text language : String} {style : LabelStyle}

theorem detect_of_fence (h : Fence.language? text = some language) :
    t.detect text style = .of language style .override := by
  rw [detect, h]

theorem detect_of_no_fence (h : Fence.language? text = none) : t.detect text style =
    .of (t.classify text) style (if isPlaceholder (t.classify text) then .fallback else .scorer) := by
  rw [detect, h]

/-- A fence alone decides whether the method is `override`. -/
theorem detect_method_eq_override_iff : (t.detect text style).method = .override ↔ Fence.language? text ≠ none := by
  cases hfence : Fence.language? text with
  | some language =>
    rw [detect_of_fence hfence, Detection.method_of]
    exact iff_of_true rfl (Option.some_ne_none language)
  | none =>
    rw [detect_of_no_fence hfence, Detection.method_of]
    refine iff_of_false ?_ (fun h => h rfl)
    split <;> exact DetectionMethod.noConfusion

/-- The answer is a placeholder where no rule wins or the winner is named like one. -/
theorem isPlaceholder_classify_iff :
    isPlaceholder (t.classify text) = true ↔ ∀ r, t.Wins r text → isPlaceholder r.name = true := by
  by_cases hwin : ∃ r, t.Wins r text
  · obtain ⟨r, hr⟩ := hwin
    rw [classify_of_wins hr]
    constructor
    · intro h r' hr'
      rwa [wins_unique hr' hr]
    · intro h
      exact h r hr
  · rw [classify_of_forall_not_wins (not_exists.1 hwin)]
    exact iff_of_true (isPlaceholder_placeholder text) fun r hr => absurd ⟨r, hr⟩ hwin

theorem detect_method_eq_fallback_iff (h : Fence.language? text = none) :
    (t.detect text style).method = .fallback ↔ ∀ r, t.Wins r text → isPlaceholder r.name = true := by
  rw [detect_of_no_fence h, ← isPlaceholder_classify_iff, Detection.method_of]
  cases isPlaceholder (t.classify text) <;> simp

theorem detect_method_eq_scorer_iff (h : Fence.language? text = none) :
    (t.detect text style).method = .scorer ↔ ∃ r, t.Wins r text ∧ isPlaceholder r.name = false := by
  have hexists : (∃ r, t.Wins r text ∧ isPlaceholder r.name = false) ↔ ¬ isPlaceholder (t.classify text) = true := by
    rw [isPlaceholder_classify_iff]
    simp only [not_forall, Bool.not_eq_true, exists_prop]
  rw [hexists, detect_of_no_fence h, Detection.method_of]
  cases isPlaceholder (t.classify text) <;> simp

/-- **What the method tells.** A detection is an override exactly when a fence declares the language, and then it is the
same for every table. Otherwise its language is the answer of the classification, which is the name of the rule that
wins, and some rule wins exactly when the text is not blank and a rule scores above zero. The method is `scorer` when
the winner is not named like a placeholder, and `fallback`, with a placeholder as the language, when it is or when no
rule wins. So in a table without such names the method tells whether a rule won. -/
theorem detect_method (t : Table) (text : String) (style : LabelStyle) :
    ((t.detect text style).method = .override ↔ Fence.language? text ≠ none) ∧
      (Fence.language? text ≠ none → ∀ t' : Table, t'.detect text style = t.detect text style) ∧
      (Fence.language? text = none →
        (t.detect text style).language = t.classify text ∧
        (∀ r, t.Wins r text → (t.detect text style).language = r.name) ∧
        ((∃ r, t.Wins r text) ↔ Text.allBlank text = false ∧ ∃ r ∈ t.rules, 0 < r.score text.toList) ∧
        ((t.detect text style).method = .scorer ↔ ∃ r, t.Wins r text ∧ isPlaceholder r.name = false) ∧
        ((t.detect text style).method = .fallback ↔ ∀ r, t.Wins r text → isPlaceholder r.name = true) ∧
        ((t.detect text style).method = .fallback ↔ isPlaceholder (t.detect text style).language = true) ∧
        ((∀ r ∈ t.rules, isPlaceholder r.name = false) →
          ((t.detect text style).method = .scorer ↔
            Text.allBlank text = false ∧ ∃ r ∈ t.rules, 0 < r.score text.toList) ∧
          ((t.detect text style).method = .fallback ↔ ∀ r, ¬ t.Wins r text))) := by
  refine ⟨detect_method_eq_override_iff, fun hfence t' => ?_, fun hfence => ?_⟩
  · obtain ⟨language, hlanguage⟩ := Option.ne_none_iff_exists'.1 hfence
    rw [detect_of_fence hlanguage, detect_of_fence hlanguage]
  · have hlanguage : (t.detect text style).language = t.classify text := by
      rw [detect_language_eq, hfence]
      rfl
    have hscorer := @detect_method_eq_scorer_iff t text style hfence
    have hfallback := @detect_method_eq_fallback_iff t text style hfence
    refine ⟨hlanguage, fun r hr => by rw [hlanguage, classify_of_wins hr], exists_wins_iff, hscorer, hfallback, ?_,
      fun hnames => ⟨?_, ?_⟩⟩
    · rw [hfallback, hlanguage, isPlaceholder_classify_iff]
    · rw [hscorer, ← exists_wins_iff]
      exact exists_congr fun r => and_iff_left_of_imp fun hr => hnames r hr.1
    · rw [hfallback]
      refine forall_congr' fun r => imp_congr_right fun hr => ?_
      rw [hnames r hr.1]
      exact iff_of_false Bool.false_ne_true id

/-- A fenced text for the empty table and the default one, and a text without a fence for the default table, which has
no rule named like a placeholder. -/
theorem detect_method_default :
    (∃ t : Table, t.rules = [] ∧ Fence.language? "```py\n1" ≠ none ∧
        Table.default.detect "```py\n1" .emoji = t.detect "```py\n1" .emoji) ∧
      Fence.language? "import os" = none ∧ (∀ r ∈ Table.default.rules, isPlaceholder r.name = false) ∧
        ((Table.default.detect "import os" .plain).method = .scorer ↔
          Text.allBlank "import os" = false ∧ ∃ r ∈ Table.default.rules, 0 < r.score "import os".toList) := by
  have hfenced : Fence.language? "```py\n1" ≠ none := by decide +kernel
  have hplain : Fence.language? "import os" = none := by decide +kernel
  have hnames : ∀ r ∈ Table.default.rules, isPlaceholder r.name = false := by decide
  let t : Table := .ofValid [] ⟨by decide, by decide, by decide⟩
  obtain ⟨_, hsame, _⟩ := detect_method t "```py\n1" .emoji
  obtain ⟨_, _, hmethod⟩ := detect_method Table.default "import os" .plain
  obtain ⟨_, _, _, _, _, _, hreported⟩ := hmethod hplain
  exact ⟨⟨t, rfl, hfenced, hsame hfenced Table.default⟩, hplain, hnames, (hreported hnames).1⟩

/-- A rule named `text` wins, and the method says that no rule did. -/
theorem detect_method_of_winner_named_text :
    ∃ t : Table, Table.ofRules [{ name := "text", signatures := [.pattern (.text "x")] }] = .ok t ∧
      Fence.language? "x" = none ∧ Text.allBlank "x" = false ∧ (∃ r ∈ t.rules, 0 < r.score "x".toList ∧ t.Wins r "x") ∧
        (t.detect "x" .plain).method = .fallback := by
  let r : Rule := { name := "text", signatures := [.pattern (.text "x")] }
  let t : Table := .ofValid [r] ⟨by decide, by decide, by decide⟩
  have hfence : Fence.language? "x" = none := by decide +kernel
  have hwins : t.Wins r "x" := by
    rw [@wins_iff_of_rules_eq t r [] [] "x" rfl]
    exact ⟨by decide, by decide +kernel, by simp, by simp⟩
  refine ⟨t, rfl, hfence, by decide, ⟨r, List.mem_cons_self, by decide +kernel, hwins⟩, ?_⟩
  rw [detect_method_eq_fallback_iff hfence]
  intro r' hr'
  rw [wins_unique hr' hwins]
  rfl

end Table

end SnippetLanguage

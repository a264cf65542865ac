import SnippetLanguage.Proofs.Ranking.OnePass
import SnippetLanguage.Proofs.Text.Letters

/-!
# The winner

At most one rule of a table wins for a text (`wins_unique`), and one does exactly when the text is not blank and some
rule scores above zero (`exists_wins_iff`). The winner gives the classification its answer (`classify_of_wins`); where
no rule wins the answer is the placeholder of the text (`classify_of_forall_not_wins`), which for a blank text is the
one that stands for no code.
-/

namespace SnippetLanguage

open Text

theorem isCodeMark_of_isBlank {c : Char} (h : isBlank c = true) : isCodeMark c = false :=
  @forall_of_isBlank (fun c => isCodeMark c = false) (by decide) c h

theorem placeholder_of_allBlank {text : String} (h : allBlank text = true) : placeholder text = textPlaceholder := by
  have hmark : ¬ text.toList.any isCodeMark = true := by
    rw [List.any_eq_true]
    rintro ⟨c, hc, hm⟩
    rw [isCodeMark_of_isBlank (List.all_eq_true.1 h c hc)] at hm
    cases hm
  exact if_neg hmark

namespace Table

variable {t : Table} {r r' : Rule} {text : String}

/-- At most one rule wins. -/
theorem wins_unique (h : t.Wins r text) (h' : t.Wins r' text) : r = r' := by
  obtain ⟨_, _, hfirst⟩ := wins_iff.1 h
  obtain ⟨_, _, hfirst'⟩ := wins_iff.1 h'
  exact firstBest_unique hfirst hfirst'

/-- **A rule wins exactly when the text is not blank and some rule scores above zero.** -/
theorem exists_wins_iff : (∃ r, t.Wins r text) ↔ allBlank text = false ∧ ∃ r ∈ t.rules, 0 < r.score text.toList := by
  constructor
  · rintro ⟨r, hw⟩
    obtain ⟨hblank, hpos, hfirst⟩ := wins_iff.1 hw
    exact ⟨hblank, r, hfirst.mem, hpos⟩
  · rintro ⟨hblank, r, hr, hpos⟩
    obtain ⟨best, hbest⟩ := @exists_firstBest _ (Rule.score · text.toList) _ _ hr
    have hle : r.score text.toList ≤ best.score text.toList := hbest.le_of_mem hr
    exact ⟨best, wins_iff.2 ⟨hblank, by omega, hbest⟩⟩

/-- **Where no rule wins, the answer is the placeholder of the text.** -/
theorem classify_of_forall_not_wins (h : ∀ r, ¬ t.Wins r text) : t.classify text = placeholder text := by
  rw [classify_eq]
  cases hblank : allBlank text with
  | true => exact (placeholder_of_allBlank hblank).symm
  | false =>
    cases hleader : t.leader? text with
    | none => rfl
    | some r =>
      have hnot : ¬ 0 < r.score text.toList := fun hpos =>
        h r (wins_iff.2 ⟨hblank, hpos, leader?_eq_some_iff.1 hleader⟩)
      exact if_neg hnot

end Table

end SnippetLanguage

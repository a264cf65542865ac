import SnippetLanguage.Proofs.Fence.Layout
import SnippetLanguage.Proofs.Pattern.Leading
import SnippetLanguage.Proofs.Ranking.SameSignals
import SnippetLanguage.Proofs.Ranking.Winner
import SnippetLanguage.Proofs.Rule.Cases

/-!
# Blanks before a text do not matter

Every pattern of the default table absorbs the blanks before a text (`absorbsBlanks_of_mem_default`): it starts with
something visible, or it allows for a run of blanks right behind the start of the text or of a line. Blanks are no marks
of code either, so the ranking and the classification are the same behind any blanks. A fence may be indented by spaces
and tabs only, and has to start a line: for spaces, tabs and line feeds the whole detection is the same
(`default_ignores_leadingBlanks`).
-/

namespace SnippetLanguage

open Text

namespace Pattern

/-- Whether a pattern starts with something visible, at once or behind an anchor and a run of blanks. -/
def absorbsBlanks : Pattern → Bool
  | seq textStart (seq run q) => run == star (one .blank) && q.startsVisible && q.unanchored
  | seq lineStart (seq run q) => run == star (one .blankInLine) && q.startsVisible && q.unanchored
  | p => p.startsVisible && p.unanchored

theorem isIn_blanks_append_of_absorbsBlanks {p : Pattern} {lead text : List Char} (hb : Blanks lead)
    (hp : p.absorbsBlanks = true) : p.isIn (lead ++ text) = p.isIn text := by
  rw [Bool.eq_iff_iff]
  unfold absorbsBlanks at hp
  split at hp
  · rename_i run q
    simp only [Bool.and_eq_true, beq_iff_eq] at hp
    obtain ⟨⟨rfl, hvisible⟩, hunanchored⟩ := hp
    exact isIn_blanks_append_of_textStart hb hvisible hunanchored
  · rename_i run q
    simp only [Bool.and_eq_true, beq_iff_eq] at hp
    obtain ⟨⟨rfl, hvisible⟩, hunanchored⟩ := hp
    exact isIn_blanks_append_of_lineStart hb hvisible hunanchored
  · rw [Bool.and_eq_true] at hp
    exact isIn_blanks_append hb hp.1 hp.2

end Pattern

theorem absorbsBlanks_of_mem_default {r : Rule} (hr : r ∈ Table.default.rules) {s : Signal}
    (hs : s ∈ r.signatures ++ r.exclusions) : ∃ p, s = .pattern p ∧ p.absorbsBlanks = true := by
  have hguarded : ∀ g : LineSignature, g.pattern.absorbsBlanks = true := by
    intro g
    cases g <;> decide
  exact pattern_of_mem_default_of_all (by decide +kernel) hguarded hr hs

namespace Table

theorem isIn_of_leadingBlanks {lead : String} (h : Blanks lead.toList) (text : String) {r : Rule}
    (hr : r ∈ Table.default.rules) {s : Signal} (hs : s ∈ r.signatures ++ r.exclusions) :
    s.isIn (lead ++ text).toList = s.isIn text.toList := by
  obtain ⟨p, rfl, hp⟩ := absorbsBlanks_of_mem_default hr hs
  rw [String.toList_append]
  exact Pattern.isIn_blanks_append_of_absorbsBlanks h hp

theorem rank_of_leadingBlanks {lead : String} (h : Blanks lead.toList) (text : String) :
    Table.default.rank (lead ++ text) = Table.default.rank text :=
  rank_congr fun _ hr => Rule.candidate_congr fun _ hs => isIn_of_leadingBlanks h text hr hs

theorem classify_of_leadingBlanks {lead : String} (h : Blanks lead.toList) (text : String) :
    Table.default.classify (lead ++ text) = Table.default.classify text := by
  have hblank : lead.toList.all isBlank = true := List.all_eq_true.2 h
  have hmark : lead.toList.any isCodeMark = false := by
    rw [List.any_eq_false]
    intro c hc
    rw [isCodeMark_of_isBlank (h c hc)]
    exact Bool.false_ne_true
  refine classify_congr (rank_of_leadingBlanks h text) ?_ ?_
  · rw [allBlank, allBlank, String.toList_append, List.all_append, hblank, Bool.true_and]
  · rw [String.toList_append, List.any_append, hmark, Bool.false_or]

/-- **Blanks before a text do not matter.** Behind any blanks a text shows the same signals, so it is ranked and
classified alike; behind spaces, tabs and line feeds the whole detection is the same in every style. -/
theorem default_ignores_leadingBlanks {lead : String} (h : ∀ c ∈ lead.toList, isBlank c = true) (text : String) :
    (∀ r ∈ Table.default.rules, ∀ signal ∈ r.signatures ++ r.exclusions,
        signal.isIn (lead ++ text).toList = signal.isIn text.toList) ∧
      Table.default.rank (lead ++ text) = Table.default.rank text ∧
      Table.default.classify (lead ++ text) = Table.default.classify text ∧
      ((∀ c ∈ lead.toList, c = ' ' ∨ c = '\t' ∨ c = '\n') →
        ∀ style, Table.default.detect (lead ++ text) style = Table.default.detect text style) := by
  have hclassify := classify_of_leadingBlanks h text
  refine ⟨fun r hr signal hs => isIn_of_leadingBlanks h text hr hs, rank_of_leadingBlanks h text, hclassify, ?_⟩
  intro hlayout style
  exact detect_congr (Fence.language?_append_layout hlayout text) hclassify

/-- A JSON object behind a wide space and a no-break space, and an indented fence on the third line. -/
theorem leadingBlanks_of_object_and_fence :
    ((∀ c ∈ "\u3000\u00A0".toList, isBlank c = true) ∧
        Table.default.classify ("\u3000\u00A0" ++ "[1, 2]") = Table.default.classify "[1, 2]") ∧
      (∀ c ∈ "\n\n \t".toList, c = ' ' ∨ c = '\t' ∨ c = '\n') ∧
        Table.default.detect ("\n\n \t" ++ "```py\nprint(1)") .plain =
          Table.default.detect "```py\nprint(1)" .plain := by
  have hwide : ∀ c ∈ "\u3000\u00A0".toList, isBlank c = true := List.all_eq_true.1 (by decide)
  have hlayout : ∀ c ∈ "\n\n \t".toList, c = ' ' ∨ c = '\t' ∨ c = '\n' := by simp
  have hblank : ∀ c ∈ "\n\n \t".toList, isBlank c = true := List.all_eq_true.1 (by decide)
  obtain ⟨_, _, hclassify, _⟩ := default_ignores_leadingBlanks hwide "[1, 2]"
  obtain ⟨_, _, _, hdetect⟩ := default_ignores_leadingBlanks hblank "```py\nprint(1)"
  exact ⟨⟨hwide, hclassify⟩, hlayout, hdetect hlayout .plain⟩

end Table

end SnippetLanguage

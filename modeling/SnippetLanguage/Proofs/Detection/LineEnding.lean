import SnippetLanguage.Proofs.Fence.Layout
import SnippetLanguage.Proofs.Pattern.LineEnding
import SnippetLanguage.Proofs.Ranking.SameSignals
import SnippetLanguage.Proofs.Rule.Cases
import SnippetLanguage.Proofs.Rule.SteadyShape

/-!
# Line endings do not matter, but for one signature

A text shows the same signals of the default table when every line feed gets a carriage return before it, with one
exception: the bracketed condition of the shell asks for two blanks between its brackets, and a line ending of two
characters is enough where a line feed is not. It is still never lost. So the candidates of all rules but `shell` are
the same, and the text declares the same language (`default_crlf`).
-/

namespace SnippetLanguage

open Text

theorem keepsEndings_of_mem_default {r : Rule} (hr : r ∈ Table.default.rules) {s : Signal}
    (hs : s ∈ r.signatures ++ r.exclusions) :
    ∃ p, s = .pattern p ∧ (p.keepsEndings = true ∨ ∃ g : LineSignature, g.rule.name = r.name ∧ g.pattern = p) :=
  @pattern_of_mem_default (fun _ p => p.keepsEndings) (by decide +kernel) r hr s hs

/-- A signal is in both texts or in neither, unless it is the bracketed condition of the shell. -/
theorem isIn_crlf_or_condition {r : Rule} (hr : r ∈ Table.default.rules) {s : Signal}
    (hs : s ∈ r.signatures ++ r.exclusions) (text : List Char) :
    s.isIn (crlf text) = s.isIn text ∨ (s = .pattern Rule.bracketCondition ∧ r.name = "shell") := by
  obtain ⟨p, rfl, hp | ⟨g, hname, rfl⟩⟩ := keepsEndings_of_mem_default hr hs
  · exact .inl (Pattern.isIn_crlf_eq hp)
  · by_cases hg : g = .bracketCondition
    · subst hg
      exact .inr ⟨rfl, hname.symm⟩
    · exact .inl (LineSignature.isIn_crlf_eq hg)

namespace Table

/-- **Line endings do not matter, but for one signature.** With a carriage return before every line feed a text declares
the same language and shows the same signals but for the bracketed condition of the shell, so the rules other than
`shell` have the same candidates; and it shows the condition whenever it did before. -/
theorem default_crlf (text : String) :
    Fence.language? (String.ofList (crlf text.toList)) = Fence.language? text ∧
      (∀ r ∈ Table.default.rules, ∀ signal ∈ r.signatures ++ r.exclusions,
        signal ≠ .pattern Rule.bracketCondition →
          signal.isIn (String.ofList (crlf text.toList)).toList = signal.isIn text.toList) ∧
      (∀ r ∈ Table.default.rules, r.name ≠ "shell" →
        r.candidate (String.ofList (crlf text.toList)).toList = r.candidate text.toList) ∧
      (Rule.bracketCondition.isIn text.toList = true →
        Rule.bracketCondition.isIn (String.ofList (crlf text.toList)).toList = true) := by
  rw [String.toList_ofList]
  refine ⟨Fence.language?_crlf text, fun r hr signal hs hne => ?_, fun r hr hname => ?_, ?_⟩
  · rcases isIn_crlf_or_condition hr hs text.toList with h | ⟨h, _⟩
    · exact h
    · exact absurd h hne
  · refine Rule.candidate_congr fun signal hs => ?_
    rcases isIn_crlf_or_condition hr hs text.toList with h | ⟨_, h⟩
    · exact h
    · exact absurd h hname
  · exact LineSignature.isIn_crlf .bracketCondition

/-- A line feed between the brackets is too little for a condition, a carriage return and a line feed are enough. -/
example : Rule.bracketCondition.isIn "if [\n];".toList = false ∧
    Rule.bracketCondition.isIn (crlf "if [\n];".toList) = true := by
  decide +kernel

end Table

end SnippetLanguage

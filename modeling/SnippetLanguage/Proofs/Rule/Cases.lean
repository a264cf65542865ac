import SnippetLanguage.Proofs.Rule.HeadGuard

/-!
# The signals of the default table, case by case

Every signal of the default table is a pattern. What holds of a signal is shown by a check of its pattern, or, for the
five signatures that stop at the next head, from the shape that they look for. `pattern_of_mem_default` does both at
once: a check that all other patterns pass leaves for each signal the check or one of the five.
-/

namespace SnippetLanguage

deriving instance DecidableEq for Literal
deriving instance DecidableEq for Pattern

namespace LineSignature

/-- All signatures that look for a head, a gap and a tail. -/
def all : List LineSignature := [innerAttribute, selectFrom, reactImport, selfClosingTag, bracketCondition]

end LineSignature

/-- Whether a signal of a rule is a pattern that passes the check, or one of the signatures of the rule that stop at the
next head. -/
def Signal.passes (check : Rule → Pattern → Bool) (r : Rule) : Signal → Bool
  | .pattern p => check r p || LineSignature.all.any fun g => g.rule.name == r.name && g.pattern == p
  | .matcher _ => false

/-- **A signal of the default table is a pattern that passes the check, or stops at the next head.** -/
theorem pattern_of_mem_default {check : Rule → Pattern → Bool}
    (hall : (Rule.defaults.all fun r => (r.signatures ++ r.exclusions).all (Signal.passes check r)) = true)
    {r : Rule} (hr : r ∈ Table.default.rules) {s : Signal} (hs : s ∈ r.signatures ++ r.exclusions) :
    ∃ p, s = .pattern p ∧ (check r p = true ∨ ∃ g : LineSignature, g.rule.name = r.name ∧ g.pattern = p) := by
  have hpasses : s.passes check r = true := List.all_eq_true.1 (List.all_eq_true.1 hall r hr) s hs
  cases s with
  | matcher accepts => cases hpasses
  | pattern p =>
    refine ⟨p, rfl, ?_⟩
    rw [Signal.passes, Bool.or_eq_true, List.any_eq_true] at hpasses
    refine hpasses.imp_right fun h => ?_
    obtain ⟨g, _, hg⟩ := h
    rw [Bool.and_eq_true, beq_iff_eq, beq_iff_eq] at hg
    exact ⟨g, hg⟩

/-- A check that the signatures that stop at the next head pass as well is passed by every signal. -/
theorem pattern_of_mem_default_of_all {check : Pattern → Bool}
    (hall : (Rule.defaults.all fun r => (r.signatures ++ r.exclusions).all (Signal.passes (fun _ => check) r)) = true)
    (hguarded : ∀ g : LineSignature, check g.pattern = true) {r : Rule} (hr : r ∈ Table.default.rules) {s : Signal}
    (hs : s ∈ r.signatures ++ r.exclusions) : ∃ p, s = .pattern p ∧ check p = true := by
  obtain ⟨p, rfl, hp | ⟨g, _, rfl⟩⟩ := pattern_of_mem_default hall hr hs
  · exact ⟨p, rfl, hp⟩
  · exact ⟨g.pattern, rfl, hguarded g⟩

end SnippetLanguage

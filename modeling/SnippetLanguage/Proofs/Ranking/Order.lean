import SnippetLanguage.Proofs.Ranking.OnePass

/-!
# The order of the ranking

The ranking is the one list of the candidates of a table with the best first and ties in the order of the table
(`rank_eq_iff`): each rule has its candidate there once, scores never rise, and of two rules with the same score the one
that the table has first comes first (`rank_keeps_ties`).
-/

namespace SnippetLanguage

namespace Table

variable {t : Table} {text : String} {cs : List Candidate}

theorem rankedBy_rank (t : Table) (text : String) : RankedBy Candidate.score (t.candidates text) (t.rank text) :=
  rankedBy_mergeSort

/-- **The ranking is the one list of the candidates with the best first and ties in the order of the table.** -/
theorem rank_eq_iff : t.rank text = cs ↔ RankedBy Candidate.score (t.candidates text) cs :=
  ⟨fun h => h ▸ rankedBy_rank t text, rankedBy_unique (rankedBy_rank t text)⟩

/-- **The ranking is a stable order of the candidates.** It has the candidate of each rule of the table once and
nothing else, and its scores never rise. The candidates with one score, whichever it is, are those of the rules with
this score in the order of the table; so of two rules with the same score the one that stands before the other in the
table has its candidate before that of the other. -/
theorem rank_keeps_ties (t : Table) (text : String) :
    (t.rank text).Perm (t.rules.map (·.candidate text.toList)) ∧
      ((t.rank text).map Candidate.language).Nodup ∧
      (t.rank text).Pairwise (fun a b => b.score ≤ a.score) ∧
      (∀ s, (t.rank text).filter (·.score = s) =
        (t.rules.filter (·.score text.toList = s)).map (·.candidate text.toList)) ∧
      ∀ r r', StandsBefore t.rules r r' → r.score text.toList = r'.score text.toList →
        StandsBefore (t.rank text) (r.candidate text.toList) (r'.candidate text.toList) := by
  have hranked := rankedBy_rank t text
  refine ⟨hranked.perm, ?_, hranked.descending, fun s => ?_, fun r r' hrules hscore => ?_⟩
  · have hnames : (t.candidates text).map Candidate.language = t.rules.map Rule.name := List.map_map
    rw [(hranked.perm.map Candidate.language).nodup_iff, hnames]
    exact t.nodup_names
  · rw [hranked.stable, candidates, List.filter_map]
    rfl
  · refine hranked.standsBefore hscore ?_
    rw [standsBefore_iff_sublist] at *
    exact hrules.map (·.candidate text.toList)

/-- Two rules with one negative score, behind a rule that wins though it comes after them. -/
theorem rank_keeps_ties_below_zero :
    ∃ a b c : Rule, ∃ t : Table, ofRules [a, b, c] = .ok t ∧ StandsBefore t.rules a b ∧
      a.score "x".toList = -2 ∧ a.score "x".toList = b.score "x".toList ∧
        (t.rank "x").head? = some (c.candidate "x".toList) ∧
          StandsBefore (t.rank "x") (a.candidate "x".toList) (b.candidate "x".toList) := by
  let x : Signal := .pattern (.text "x")
  let y : Signal := .pattern (.text "y")
  let a : Rule := { name := "a", signatures := [y], exclusions := [x] }
  let b : Rule := { name := "b", signatures := [y], exclusions := [x], priority := 5 }
  let c : Rule := { name := "c", signatures := [x] }
  let t : Table := .ofValid [a, b, c] ⟨by decide, by decide, by decide⟩
  have hrules : StandsBefore t.rules a b := ⟨[], [], [c], rfl⟩
  have ha : a.score "x".toList = -2 := by decide +kernel
  have hb : b.score "x".toList = -2 := by decide +kernel
  have hc : c.score "x".toList = 1 := by decide +kernel
  have hbefore : ∀ r ∈ [a, b], r.score "x".toList < c.score "x".toList := by
    rw [List.forall_mem_cons, List.forall_mem_singleton, ha, hb, hc]
    decide
  have hfirst : FirstBest (Rule.score · "x".toList) t.rules c := ⟨[a, b], [], rfl, hbefore, by simp⟩
  obtain ⟨_, _, _, _, hties⟩ := rank_keeps_ties t "x"
  exact ⟨a, b, c, t, ofRules_rules_eq_ok t, hrules, ha, ha.trans hb.symm, head?_rank_eq_some_iff.2 ⟨c, rfl, hfirst⟩,
    hties a b hrules (ha.trans hb.symm)⟩

end Table

end SnippetLanguage

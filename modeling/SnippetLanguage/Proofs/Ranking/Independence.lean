import Mathlib.Data.List.Nodup
import Mathlib.Data.List.Perm.Subperm
import SnippetLanguage.Proofs.Ranking.Order
import SnippetLanguage.Proofs.Ranking.Winner
import SnippetLanguage.Rule.Default

/-!
# Other rules do not matter

How two rules are ranked does not depend on the rest of the table. Leaving members out of a list commutes with sorting
it stably (`filter_mergeSort`), so the ranking of some of the rules is that of all of them without the others
(`rank_of_sublist`), and a rule that wins still does when others are left out (`wins_of_sublist`). One rule more can
only take the place of the winner or change nothing (`classify_insert_of_not_wins`).
-/

namespace SnippetLanguage

namespace Table

variable {S T : Table} {r : Rule} {before after : List Rule} {text : String}

/-! ## Some of the rules -/

/-- The table of some of the rules of a table. -/
def ofSublist (t : Table) {rs : List Rule} (h : rs.Sublist t.rules) : Table :=
  .ofValid rs {
    nodup_names := t.nodup_names.sublist (h.map Rule.name)
    priority_pos := fun r hr => t.priority_pos r (h.subset hr)
    signatures_nonempty := fun r hr => t.signatures_nonempty r (h.subset hr) }

/-- The rules that stay are those whose names stay. -/
theorem filter_contains_of_sublist (h : S.rules.Sublist T.rules) :
    T.rules.filter (fun r => S.contains r.name) = S.rules := by
  have hkept : S.rules.Sublist (T.rules.filter fun r => S.contains r.name) := by
    have hself : S.rules.filter (fun r => S.contains r.name) = S.rules :=
      List.filter_eq_self.2 fun r hr => contains_iff.2 ⟨r, hr, rfl⟩
    rw [← hself]
    exact h.filter _
  have hsubset : T.rules.filter (fun r => S.contains r.name) ⊆ S.rules := by
    intro r hr
    obtain ⟨hrT, hname⟩ := List.mem_filter.1 hr
    obtain ⟨r', hr', hr'name⟩ := contains_iff.1 hname
    rwa [← eq_of_name_eq (h.subset hr') hrT hr'name]
  have hnodup : (T.rules.filter fun r => S.contains r.name).Nodup := (List.Nodup.of_map _ T.nodup_names).filter _
  exact (hkept.eq_of_length_le (hnodup.subperm hsubset).length_le).symm

/-- **The ranking of some of the rules is that of all of them without the others.** -/
theorem rank_of_sublist (h : S.rules.Sublist T.rules) (text : String) :
    S.rank text = (T.rank text).filter fun c => S.contains c.language := by
  have hcandidates : (T.candidates text).filter (fun c => S.contains c.language) = S.candidates text := by
    rw [candidates, List.filter_map]
    exact congrArg (List.map (Rule.candidate · text.toList)) (filter_contains_of_sublist h)
  rw [rank, rank, filter_mergeSort, hcandidates]

/-- A rule that wins still does when others are left out. -/
theorem wins_of_sublist (h : S.rules.Sublist T.rules) (hr : r ∈ S.rules) (hw : T.Wins r text) : S.Wins r text := by
  obtain ⟨_, hblank, hhead, hpos⟩ := hw
  obtain ⟨others, hrank⟩ := List.head?_eq_some_iff.1 hhead
  refine ⟨hr, hblank, ?_, hpos⟩
  have hstays : S.contains (r.candidate text.toList).language = true := contains_iff.2 ⟨r, hr, rfl⟩
  rw [rank_of_sublist h, hrank]
  simp [hstays]

/-! ## One rule more -/

theorem sublist_of_insert (hS : S.rules = before ++ after) (hT : T.rules = before ++ r :: after) :
    S.rules.Sublist T.rules := by
  rw [hS, hT]
  exact (List.sublist_cons_self r after).append_left before

/-- A table can do without any of its rules. -/
theorem exists_rules_eq_without (hT : T.rules = before ++ r :: after) : ∃ S : Table, S.rules = before ++ after := by
  have hsub : (before ++ after).Sublist T.rules := by
    rw [hT]
    exact (List.sublist_cons_self r after).append_left before
  exact ⟨T.ofSublist hsub, rfl⟩

theorem mem_insert_iff (hS : S.rules = before ++ after) (hT : T.rules = before ++ r :: after) {x : Rule} :
    x ∈ T.rules ↔ x = r ∨ x ∈ S.rules := by
  rw [hS, hT, List.mem_append, List.mem_cons, List.mem_append]
  tauto

theorem not_contains_of_insert (hS : S.rules = before ++ after) (hT : T.rules = before ++ r :: after) :
    S.contains r.name = false := by
  have hnodup := T.nodup_names
  rw [hT, List.map_append, List.map_cons, List.nodup_middle, List.nodup_cons, ← List.map_append, ← hS] at hnodup
  rw [Bool.eq_false_iff, Ne, contains_iff]
  rintro ⟨x, hx, hname⟩
  exact hnodup.1 (List.mem_map.2 ⟨x, hx, hname⟩)

/-- Without the winner the ranking starts at the second. -/
theorem rank_insert_of_wins (hS : S.rules = before ++ after) (hT : T.rules = before ++ r :: after)
    (hw : T.Wins r text) : S.rank text = (T.rank text).tail := by
  obtain ⟨others, hrank⟩ := List.head?_eq_some_iff.1 hw.2.2.1
  have hkept : S.rank text = others.filter fun c => S.contains c.language := by
    have hgone : ¬ S.contains (r.candidate text.toList).language = true := by
      rw [Bool.not_eq_true]
      exact not_contains_of_insert hS hT
    rw [rank_of_sublist (sublist_of_insert hS hT), hrank]
    simp [hgone]
  -- nothing else is left out, since the tables differ in one rule
  have hlength : (others.filter fun c => S.contains c.language).length = others.length := by
    have hlengthT := length_rank T text
    have hlengthS := length_rank S text
    rw [hrank, size, hT] at hlengthT
    rw [hkept, size, hS] at hlengthS
    simp only [List.length_cons, List.length_append] at hlengthT hlengthS
    omega
  rw [hkept, hrank, List.tail_cons]
  exact List.filter_sublist.eq_of_length hlength

/-- Which rules a rule has to beat to win. -/
theorem wins_iff_of_rules_eq (hT : T.rules = before ++ r :: after) : T.Wins r text ↔
    Text.allBlank text = false ∧ 0 < r.score text.toList ∧ (∀ x ∈ before, x.score text.toList < r.score text.toList) ∧
      ∀ x ∈ after, x.score text.toList ≤ r.score text.toList := by
  rw [wins_iff]
  refine and_congr_right fun _ => and_congr_right fun _ => ⟨fun h => ?_, fun h => ⟨before, after, hT, h⟩⟩
  obtain ⟨b, a, hrules, hbeats⟩ := h
  have hnodup : (before ++ r :: after).Nodup := hT ▸ List.Nodup.of_map _ T.nodup_names
  have hnotMem : r ∉ before ∧ r ∉ after := by
    rw [List.nodup_middle, List.nodup_cons, List.mem_append, not_or] at hnodup
    exact hnodup.1
  obtain ⟨rfl, _, rfl⟩ := (List.append_cons_inj_of_notMem hnotMem.1 hnotMem.2).1 (hT.symm.trans hrules)
  exact hbeats

/-- **A rule that does not win changes nothing.** -/
theorem classify_insert_of_not_wins (hS : S.rules = before ++ after) (hT : T.rules = before ++ r :: after)
    (h : ¬ T.Wins r text) : T.classify text = S.classify text := by
  by_cases hwin : ∃ x, T.Wins x text
  · obtain ⟨x, hx⟩ := hwin
    have hxS : x ∈ S.rules := by
      rcases (mem_insert_iff hS hT).1 hx.1 with rfl | hxS
      · exact absurd hx h
      · exact hxS
    rw [classify_of_wins hx, classify_of_wins (wins_of_sublist (sublist_of_insert hS hT) hxS hx)]
  · have hwinS : ¬ ∃ x, S.Wins x text := by
      rw [exists_wins_iff] at hwin ⊢
      rintro ⟨hblank, x, hx, hpos⟩
      exact hwin ⟨hblank, x, (sublist_of_insert hS hT).subset hx, hpos⟩
    rw [classify_of_forall_not_wins (not_exists.1 hwin), classify_of_forall_not_wins (not_exists.1 hwinS)]

/-- **Other rules do not matter.** The ranking of some of the rules of a table is that of the table without the
candidates of the others. One rule more either wins, and gives the answer its name, or leaves the answer as it was; it
wins only on a text that is not blank, with a score above zero and above those of all rules before it, which no rule
after it exceeds. -/
theorem rank_and_classify_ignore_others {S T : Table} (h : S.rules.Sublist T.rules) (text : String) :
    S.rank text = (T.rank text).filter (fun c => S.contains c.language) ∧
      ∀ before r after, S.rules = before ++ after → T.rules = before ++ r :: after →
        (T.Wins r text ∧ T.classify text = r.name ∨ ¬ T.Wins r text ∧ T.classify text = S.classify text) ∧
          (T.Wins r text ↔ Text.allBlank text = false ∧ 0 < r.score text.toList ∧
            (∀ x ∈ before, x.score text.toList < r.score text.toList) ∧
              ∀ x ∈ after, x.score text.toList ≤ r.score text.toList) := by
  refine ⟨rank_of_sublist h text, fun before r after hS hT => ⟨?_, wins_iff_of_rules_eq hT⟩⟩
  by_cases hw : T.Wins r text
  · exact .inl ⟨hw, classify_of_wins hw⟩
  · exact .inr ⟨hw, classify_insert_of_not_wins hS hT hw⟩

/-- The default table and the one without `java`, for a text that shows nothing of that language. -/
theorem rank_and_classify_without_java :
    ∃ S : Table, S.rules = Rule.defaults.take 3 ++ Rule.defaults.drop 4 ∧ S.rules.Sublist Table.default.rules ∧
      S.rank "import os" = (Table.default.rank "import os").filter (fun c => S.contains c.language) ∧
        Table.default.rules = Rule.defaults.take 3 ++ Rule.java :: Rule.defaults.drop 4 ∧
          Table.default.classify "import os" = S.classify "import os" := by
  let S : Table := .ofValid (Rule.defaults.take 3 ++ Rule.defaults.drop 4) ⟨by decide, by decide, by decide⟩
  have hsub : S.rules.Sublist Table.default.rules := sublist_of_insert (r := Rule.java) rfl rfl
  obtain ⟨hrank, hinsert⟩ := rank_and_classify_ignore_others hsub "import os"
  obtain ⟨hanswer, hwins⟩ := hinsert _ Rule.java _ rfl rfl
  have hnot : ¬ Table.default.Wins Rule.java "import os" := by
    rw [hwins]
    rintro ⟨_, hpos, _⟩
    exact absurd hpos (by decide +kernel)
  refine ⟨S, rfl, hsub, hrank, rfl, ?_⟩
  rcases hanswer with ⟨hw, _⟩ | ⟨_, hsame⟩
  · exact absurd hw hnot
  · exact hsame

end Table

end SnippetLanguage

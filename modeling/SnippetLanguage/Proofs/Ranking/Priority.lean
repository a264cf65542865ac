import SnippetLanguage.Proofs.Detection.Method

/-!
# What priorities decide

A rule with points scores its priority at least (`Rule.priority_le_score`), and each point more adds the priority once
more. So the winner has enough points to reach the priority of every rule that has any (`priority_le_of_wins`): a rule
of low priority needs more than one point where a rule of higher priority has one. A rule whose score stays below the
priorities of all others wins exactly when it has points and they have none (`wins_iff_of_outweighed`).
-/

namespace SnippetLanguage

namespace Rule

variable {r : Rule} {text : List Char}

/-! ## Points and scores -/

theorem score_eq_mul (h : 0 < r.rawScore text) : r.score text = r.rawScore text * r.priority := if_pos h

theorem score_pos_iff (hp : 0 < r.priority) : 0 < r.score text ↔ 0 < r.rawScore text := by
  by_cases h : 0 < r.rawScore text
  · rw [score_eq_mul h]
    exact iff_of_true (Int.mul_pos h hp) h
  · have hscore : r.score text = r.rawScore text := if_neg h
    rw [hscore]

theorem priority_le_score (hp : 0 < r.priority) (h : 0 < r.rawScore text) : r.priority ≤ r.score text := by
  calc r.priority = 1 * r.priority := (Int.one_mul _).symm
    _ ≤ r.rawScore text * r.priority := Int.mul_le_mul_of_nonneg_right h (Int.le_of_lt hp)
    _ = r.score text := (score_eq_mul h).symm

/-! ## Points and signatures -/

theorem rawScore_le_countP (r : Rule) (text : List Char) : r.rawScore text ≤ r.signatures.countP (·.isIn text) := by
  unfold rawScore exclusionCost
  omega

theorem rawScore_of_no_exclusions (h : r.exclusions = []) :
    r.rawScore text = r.signatures.countP (·.isIn text) := by
  rw [rawScore, h, List.countP_nil]
  simp

/-- A rule without exclusions has points where it has a signature in the text. -/
theorem rawScore_pos_iff (h : r.exclusions = []) :
    0 < r.rawScore text ↔ ∃ s ∈ r.signatures, s.isIn text = true := by
  rw [rawScore_of_no_exclusions h, Int.natCast_pos, List.countP_pos_iff]

/-- Of signals that exclude one another one is in a text at most. -/
theorem countP_isIn_le_one {ss : List Signal}
    (h : ss.Pairwise fun s s' => s.isIn text = true → s'.isIn text = false) : ss.countP (·.isIn text) ≤ 1 := by
  induction h with
  | nil => simp
  | @cons s ss hs _ ih =>
    rw [List.countP_cons]
    split
    · rename_i hin
      have hnone : ss.countP (·.isIn text) = 0 := by
        rw [List.countP_eq_zero]
        intro s' hs'
        rw [hs s' hs' hin]
        exact Bool.false_ne_true
      omega
    · exact ih

end Rule

namespace Table

variable {t : Table} {r x : Rule} {text : String}

/-! ## The winner and the priorities of others -/

/-- A name that is no placeholder is the answer where its rule wins, and only there. -/
theorem classify_eq_name_iff (hr : r ∈ t.rules) (hname : isPlaceholder r.name = false) :
    t.classify text = r.name ↔ t.Wins r text := by
  refine ⟨fun h => ?_, classify_of_wins⟩
  by_cases hwin : ∃ r', t.Wins r' text
  · obtain ⟨r', hr'⟩ := hwin
    rw [classify_of_wins hr'] at h
    rwa [← eq_of_name_eq hr'.1 hr h]
  · rw [classify_of_forall_not_wins (not_exists.1 hwin)] at h
    rw [← h, isPlaceholder_placeholder] at hname
    cases hname

theorem score_le_of_wins (hw : t.Wins r text) (hx : x ∈ t.rules) : x.score text.toList ≤ r.score text.toList :=
  (wins_iff.1 hw).2.2.le_of_mem hx

theorem rawScore_pos_of_wins (hw : t.Wins r text) : 0 < r.rawScore text.toList :=
  (Rule.score_pos_iff (t.priority_pos r hw.1)).1 hw.2.2.2

/-- **The winner reaches the priority of every rule with points.** -/
theorem priority_le_of_wins (hw : t.Wins r text) (hx : x ∈ t.rules) (hpoints : 0 < x.rawScore text.toList) :
    x.priority ≤ r.rawScore text.toList * r.priority := by
  calc x.priority ≤ x.score text.toList := Rule.priority_le_score (t.priority_pos x hx) hpoints
    _ ≤ r.score text.toList := score_le_of_wins hw hx
    _ = r.rawScore text.toList * r.priority := Rule.score_eq_mul (rawScore_pos_of_wins hw)

/-- **A rule that every other outweighs is the last resort.** Where its score is below the priorities of all other
rules it wins exactly when it has points and no other rule has any. -/
theorem wins_iff_of_outweighed (hr : r ∈ t.rules)
    (hlow : ∀ x ∈ t.rules, x.name ≠ r.name → r.score text.toList < x.priority) : t.Wins r text ↔
      Text.allBlank text = false ∧ 0 < r.rawScore text.toList ∧
        ∀ x ∈ t.rules, x.name ≠ r.name → x.rawScore text.toList ≤ 0 := by
  constructor
  · intro hw
    refine ⟨hw.2.1, rawScore_pos_of_wins hw, fun x hx hname => ?_⟩
    by_contra hpoints
    have hreach : x.priority ≤ x.score text.toList := Rule.priority_le_score (t.priority_pos x hx) (by omega)
    have hle := score_le_of_wins hw hx
    have hlt := hlow x hx hname
    omega
  · rintro ⟨hblank, hpoints, hothers⟩
    have hscore : 0 < r.score text.toList := (Rule.score_pos_iff (t.priority_pos r hr)).2 hpoints
    -- some rule wins, and it has points
    obtain ⟨best, hbest⟩ := exists_wins_iff.2 ⟨hblank, r, hr, hscore⟩
    have hbestPoints := rawScore_pos_of_wins hbest
    have hname : best.name = r.name := by
      by_contra hne
      have := hothers best hbest.1 hne
      omega
    rwa [← eq_of_name_eq hbest.1 hr hname]

end Table

end SnippetLanguage

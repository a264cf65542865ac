import Mathlib.Data.List.Basic

/-!
# Lists in the order of scores

`RankedBy score xs ys` says that `ys` is `xs` put in the order of scores, the best first, where members with one score
keep their order. There is one such list (`rankedBy_unique`), and sorting stably gives it (`rankedBy_mergeSort`).
Members can be left out before or after (`filter_mergeSort`), and of two with one score the one that stands before the
other in `xs` does so in `ys` (`RankedBy.standsBefore`).
-/

namespace SnippetLanguage

section RankedBy

variable {α : Type} {score : α → Int} {xs ys zs : List α} {a b : α}

/-- `ys` is made of the members of `xs`, the best first, those with one score in the order that they have in `xs`. -/
structure RankedBy (score : α → Int) (xs ys : List α) : Prop where
  descending : ys.Pairwise fun a b => score b ≤ score a
  stable : ∀ s, ys.filter (score · = s) = xs.filter (score · = s)

/-- No member is lost and none is invented. -/
theorem RankedBy.perm (h : RankedBy score xs ys) : ys.Perm xs := by
  classical
  rw [List.perm_iff_count]
  intro a
  calc ys.count a = (ys.filter (score · = score a)).count a := (List.count_filter (by simp)).symm
    _ = (xs.filter (score · = score a)).count a := by rw [h.stable]
    _ = xs.count a := List.count_filter (by simp)

theorem mem_iff_of_filter_score_eq (h : ∀ s, ys.filter (score · = s) = zs.filter (score · = s)) : a ∈ ys ↔ a ∈ zs := by
  have hfilter : a ∈ ys.filter (score · = score a) ↔ a ∈ zs.filter (score · = score a) := by rw [h]
  simpa using hfilter

/-- Two lists in descending order are equal if they agree on the members of each score. -/
theorem eq_of_filter_score_eq (hys : ys.Pairwise fun a b => score b ≤ score a)
    (hzs : zs.Pairwise fun a b => score b ≤ score a)
    (h : ∀ s, ys.filter (score · = s) = zs.filter (score · = s)) : ys = zs := by
  induction ys generalizing zs with
  | nil =>
    cases zs with
    | nil => rfl
    | cons z zs => simpa using @mem_iff_of_filter_score_eq _ _ _ _ z h
  | cons y ys ih =>
    cases zs with
    | nil => simpa using @mem_iff_of_filter_score_eq _ _ _ _ y h
    | cons z zs =>
      rw [List.pairwise_cons] at hys hzs
      -- no score exceeds those of the heads, so each head is the first member with the best score
      have hyz : score y ≤ score z := by
        rcases List.mem_cons.1 ((mem_iff_of_filter_score_eq h).1 (@List.mem_cons_self _ y ys)) with rfl | hy
        · omega
        · exact hzs.1 y hy
      have hzy : score z ≤ score y := by
        rcases List.mem_cons.1 ((mem_iff_of_filter_score_eq h).2 (@List.mem_cons_self _ z zs)) with rfl | hz
        · omega
        · exact hys.1 z hz
      have hscore : score z = score y := by omega
      have hbest := h (score y)
      rw [List.filter_cons_of_pos (by simp), List.filter_cons_of_pos (by simpa using hscore)] at hbest
      obtain ⟨rfl, hrest⟩ := List.cons.inj hbest
      have htails : ∀ s, ys.filter (score · = s) = zs.filter (score · = s) := by
        intro s
        by_cases hs : score y = s
        · rw [← hs]
          exact hrest
        · have hskip := h s
          rwa [List.filter_cons_of_neg (by simpa using hs), List.filter_cons_of_neg (by simpa using hs)] at hskip
      rw [ih hys.2 hzs.2 htails]

/-- **A list can be put in this order in one way only.** -/
theorem rankedBy_unique (hys : RankedBy score xs ys) (hzs : RankedBy score xs zs) : ys = zs :=
  eq_of_filter_score_eq hys.descending hzs.descending fun s => (hys.stable s).trans (hzs.stable s).symm

theorem RankedBy.filter (h : RankedBy score xs ys) (p : α → Bool) : RankedBy score (xs.filter p) (ys.filter p) where
  descending := h.descending.filter p
  stable s := by
    rw [List.filter_comm, h.stable, List.filter_comm]

/-! ## Sorting -/

theorem better_trans (a b c : α) (hab : decide (score b ≤ score a)) (hbc : decide (score c ≤ score b)) :
    decide (score c ≤ score a) := by
  simp only [decide_eq_true_eq] at *
  omega

theorem better_total (a b : α) : decide (score b ≤ score a) || decide (score a ≤ score b) := by
  simp only [Bool.or_eq_true, decide_eq_true_eq]
  omega

/-- No member of the sorted list is better than one before it. -/
theorem pairwise_mergeSort_score :
    (xs.mergeSort fun a b => score b ≤ score a).Pairwise fun a b => score b ≤ score a :=
  (List.pairwise_mergeSort better_trans better_total xs).imp of_decide_eq_true

/-- **A stable sort keeps the order of members that need no sorting.** -/
theorem filter_mergeSort_of_tied {le : α → α → Bool} (htrans : ∀ a b c, le a b → le b c → le a c)
    (htotal : ∀ a b, le a b || le b a) {p : α → Bool} (htied : ∀ a b, p a → p b → le a b) :
    (xs.mergeSort le).filter p = xs.filter p := by
  have hordered : (xs.filter p).Pairwise fun a b => le a b := by
    rw [List.pairwise_iff_forall_sublist]
    intro a b hab
    have hkept : ∀ c ∈ [a, b], p c = true := fun c hc => (List.mem_filter.1 (hab.subset hc)).2
    exact htied a b (hkept a (by simp)) (hkept b (by simp))
  have hsublist : (xs.filter p).Sublist ((xs.mergeSort le).filter p) := by
    have hkept := (List.sublist_mergeSort htrans htotal hordered List.filter_sublist).filter p
    simpa only [List.filter_filter, Bool.and_self] using hkept
  exact (hsublist.eq_of_length ((List.mergeSort_perm xs le).filter p).length_eq.symm).symm

theorem rankedBy_mergeSort : RankedBy score xs (xs.mergeSort fun a b => score b ≤ score a) where
  descending := pairwise_mergeSort_score
  stable s := by
    refine filter_mergeSort_of_tied better_trans better_total fun a b ha hb => ?_
    simp only [decide_eq_true_eq] at *
    omega

/-- **Members can be left out before or after a stable sort.** -/
theorem filter_mergeSort (p : α → Bool) (xs : List α) :
    (xs.mergeSort fun a b => score b ≤ score a).filter p = (xs.filter p).mergeSort fun a b => score b ≤ score a :=
  rankedBy_unique (rankedBy_mergeSort.filter p) rankedBy_mergeSort

/-! ## One before the other -/

/-- `a` stands in the list somewhere before `b`. -/
def StandsBefore (xs : List α) (a b : α) : Prop := ∃ before between after, xs = before ++ a :: (between ++ b :: after)

theorem standsBefore_iff_sublist : StandsBefore xs a b ↔ [a, b].Sublist xs := by
  constructor
  · rintro ⟨before, between, after, rfl⟩
    have hb : [b].Sublist (between ++ b :: after) := List.singleton_sublist.2 (by simp)
    exact (hb.cons_cons a).trans (List.sublist_append_right before _)
  · intro h
    obtain ⟨front, back, rfl, ha, hb⟩ := List.cons_sublist_iff.1 h
    obtain ⟨before, between, rfl⟩ := List.append_of_mem ha
    obtain ⟨between', after, rfl⟩ := List.append_of_mem (List.singleton_sublist.1 hb)
    exact ⟨before, between ++ between', after, by simp⟩

/-- Members with one score stand in the one order as in the other. -/
theorem RankedBy.standsBefore (h : RankedBy score xs ys) (hscore : score a = score b) (hab : StandsBefore xs a b) :
    StandsBefore ys a b := by
  rw [standsBefore_iff_sublist] at *
  have hkept : ([a, b].filter (score · = score a)).Sublist (xs.filter (score · = score a)) := hab.filter _
  rw [← h.stable, List.filter_eq_self.2 (by simp [hscore])] at hkept
  exact hkept.trans List.filter_sublist

end RankedBy

end SnippetLanguage

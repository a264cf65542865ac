import SnippetLanguage.Proofs.Ranking.RankedBy

/-!
# The first of the best

`FirstBest score xs x` says that `x` stands in `xs` before all that are as good as it and after worse ones only. There
is one such member in every list but the empty one (`firstBest_unique`), and two ways to find it:

* `foldl_challenge_eq_some_iff`: keep the best so far while going through the list once;
* `head?_mergeSort_eq_some_iff`: sort the list stably, best first, and take the head.
-/

namespace SnippetLanguage

section FirstBest

variable {α : Type} {score : α → Int} {xs ys : List α} {x y : α}

/-- `x` is better than all before it in the list and at least as good as all after it. -/
def FirstBest (score : α → Int) (xs : List α) (x : α) : Prop :=
  ∃ before after, xs = before ++ x :: after ∧ (∀ y ∈ before, score y < score x) ∧ ∀ y ∈ after, score y ≤ score x

theorem FirstBest.mem (h : FirstBest score xs x) : x ∈ xs := by
  obtain ⟨before, after, rfl, _, _⟩ := h
  simp

/-- Nothing in the list is better. -/
theorem FirstBest.le_of_mem (h : FirstBest score xs x) (hy : y ∈ xs) : score y ≤ score x := by
  obtain ⟨before, after, rfl, hb, ha⟩ := h
  rcases List.mem_append.1 hy with hy | hy
  · exact Int.le_of_lt (hb y hy)
  · rcases List.mem_cons.1 hy with rfl | hy
    · exact Int.le_refl _
    · exact ha y hy

theorem not_firstBest_nil : ¬ FirstBest score [] x := fun h => by
  cases h.mem

/-- The first of the best is the head, if nothing after it is better, or else the first of the best of the tail. -/
theorem firstBest_cons_iff {a : α} : FirstBest score (a :: xs) x ↔
    (x = a ∧ ∀ y ∈ xs, score y ≤ score a) ∨ (score a < score x ∧ FirstBest score xs x) := by
  constructor
  · intro h
    obtain ⟨before, after, hxs, hb, ha⟩ := h
    cases before with
    | nil =>
      obtain ⟨rfl, rfl⟩ := List.cons.inj hxs
      exact .inl ⟨rfl, ha⟩
    | cons b before =>
      obtain ⟨rfl, rfl⟩ := List.cons.inj hxs
      exact .inr ⟨hb a (by simp), before, after, rfl, fun y hy => hb y (by simp [hy]), ha⟩
  · intro h
    rcases h with ⟨rfl, ha⟩ | ⟨hlt, before, after, rfl, hb, ha⟩
    · exact ⟨[], xs, rfl, by simp, ha⟩
    · refine ⟨a :: before, after, rfl, fun y hy => ?_, ha⟩
      rcases List.mem_cons.1 hy with rfl | hy
      · exact hlt
      · exact hb y hy

/-- There is at most one first of the best. -/
theorem firstBest_unique (hx : FirstBest score xs x) (hy : FirstBest score xs y) : x = y := by
  induction xs with
  | nil => exact absurd hx not_firstBest_nil
  | cons a xs ih =>
    rcases firstBest_cons_iff.1 hx with ⟨hxa, hlx⟩ | ⟨hlx, hx'⟩
    · rcases firstBest_cons_iff.1 hy with ⟨hya, _⟩ | ⟨hly, hy'⟩
      · rw [hxa, hya]
      · have := hlx y hy'.mem
        omega
    · rcases firstBest_cons_iff.1 hy with ⟨_, hly⟩ | ⟨_, hy'⟩
      · have := hly x hx'.mem
        omega
      · exact ih hx' hy'

/-- The first of the best of a list of images comes from the first of the best of the list. -/
theorem firstBest_map_iff {β : Type} {f : β → α} {bs : List β} : FirstBest score (bs.map f) x ↔
    ∃ b, f b = x ∧ FirstBest (score ∘ f) bs b := by
  induction bs with
  | nil =>
    refine ⟨fun h => absurd h not_firstBest_nil, ?_⟩
    intro h
    obtain ⟨_, _, h⟩ := h
    exact absurd h not_firstBest_nil
  | cons b bs ih =>
    simp only [List.map_cons, firstBest_cons_iff, ih]
    constructor
    · intro h
      rcases h with ⟨rfl, h⟩ | ⟨hlt, c, rfl, hc⟩
      · exact ⟨b, rfl, .inl ⟨rfl, fun y hy => h (f y) (List.mem_map_of_mem hy)⟩⟩
      · exact ⟨c, rfl, .inr ⟨hlt, hc⟩⟩
    · intro h
      obtain ⟨c, rfl, ⟨rfl, h⟩ | ⟨hlt, hc⟩⟩ := h
      · refine .inl ⟨rfl, fun y hy => ?_⟩
        obtain ⟨d, hd, rfl⟩ := List.mem_map.1 hy
        exact h d hd
      · exact .inr ⟨hlt, c, rfl, hc⟩

/-! ## Going through the list once -/

/-- The best so far after one more member: it is replaced by a strictly better one only. -/
def challenge (score : α → Int) (best : Option α) (x : α) : Option α :=
  match best with
  | none => some x
  | some b => if score b < score x then some x else some b

theorem foldl_challenge_some_eq_some_iff {b : α} :
    xs.foldl (challenge score) (some b) = some x ↔ FirstBest score (b :: xs) x := by
  induction xs generalizing b with
  | nil => simp [firstBest_cons_iff, not_firstBest_nil, eq_comm]
  | cons a xs ih =>
    rw [List.foldl_cons]
    by_cases hlt : score b < score a
    · have hstep : challenge score (some b) a = some a := if_pos hlt
      rw [hstep, ih]
      refine ⟨fun h => firstBest_cons_iff.2 (.inr ⟨?_, h⟩), fun h => ?_⟩
      · have := h.le_of_mem (y := a) (by simp)
        omega
      · rcases firstBest_cons_iff.1 h with ⟨rfl, hx⟩ | ⟨_, h⟩
        · have := hx a (by simp)
          omega
        · exact h
    · have hstep : challenge score (some b) a = some b := if_neg hlt
      rw [hstep, ih, firstBest_cons_iff, firstBest_cons_iff]
      constructor
      · intro h
        rcases h with ⟨rfl, h⟩ | ⟨hbx, h⟩
        · refine .inl ⟨rfl, fun y hy => ?_⟩
          rcases List.mem_cons.1 hy with rfl | hy
          · omega
          · exact h y hy
        · exact .inr ⟨hbx, firstBest_cons_iff.2 (.inr ⟨by omega, h⟩)⟩
      · intro h
        rcases h with ⟨rfl, h⟩ | ⟨hbx, h⟩
        · exact .inl ⟨rfl, fun y hy => h y (by simp [hy])⟩
        · rcases firstBest_cons_iff.1 h with ⟨rfl, _⟩ | ⟨_, h⟩
          · omega
          · exact .inr ⟨hbx, h⟩

/-- **One pass finds the first of the best.** -/
theorem foldl_challenge_eq_some_iff : xs.foldl (challenge score) none = some x ↔ FirstBest score xs x := by
  cases xs with
  | nil => simp [not_firstBest_nil]
  | cons a xs => exact foldl_challenge_some_eq_some_iff

/-! ## Sorting -/

/-- The first of the best is the first member with the score that no other exceeds. -/
theorem firstBest_iff_find? :
    FirstBest score xs x ↔ (∀ y ∈ xs, score y ≤ score x) ∧ xs.find? (score · = score x) = some x := by
  rw [List.find?_eq_some_iff_append]
  constructor
  · intro h
    refine ⟨fun y => h.le_of_mem, by simp, ?_⟩
    obtain ⟨before, after, hxs, hb, _⟩ := h
    refine ⟨before, after, hxs, fun y hy => ?_⟩
    simpa using Int.ne_of_lt (hb y hy)
  · rintro ⟨hle, _, before, after, rfl, hb⟩
    refine ⟨before, after, rfl, fun y hy => ?_, fun y hy => hle y (by simp [hy])⟩
    have hne : score y ≠ score x := by simpa using hb y hy
    have := hle y (by simp [hy])
    omega

/-- **The list in the order of scores starts with the first of the best.** -/
theorem RankedBy.head?_eq_some_iff (h : RankedBy score xs ys) : ys.head? = some x ↔ FirstBest score xs x := by
  -- members with one score have the same first one in both lists
  have hsame : FirstBest score xs x ↔ FirstBest score ys x := by
    simp only [firstBest_iff_find?, ← List.head?_filter, h.stable, h.perm.mem_iff]
  rw [hsame]
  cases ys with
  | nil => simp [not_firstBest_nil]
  | cons y ys =>
    have hbest : ∀ z ∈ ys, score z ≤ score y := (List.pairwise_cons.1 h.descending).1
    rw [List.head?_cons, Option.some.injEq, firstBest_cons_iff]
    constructor
    · intro hyx
      exact .inl ⟨hyx.symm, hbest⟩
    · rintro (⟨hxy, _⟩ | ⟨hlt, hx⟩)
      · exact hxy.symm
      · have := hbest x hx.mem
        omega

/-- **A stable sort puts the first of the best in front.** -/
theorem head?_mergeSort_eq_some_iff :
    (xs.mergeSort fun a b => score b ≤ score a).head? = some x ↔ FirstBest score xs x :=
  rankedBy_mergeSort.head?_eq_some_iff

/-- A list with a member has a first of the best. -/
theorem exists_firstBest (hy : y ∈ xs) : ∃ x, FirstBest score xs x := by
  have hne : (xs.mergeSort fun a b => score b ≤ score a) ≠ [] := List.ne_nil_of_mem (List.mem_mergeSort.2 hy)
  exact ⟨_, head?_mergeSort_eq_some_iff.1 (List.head?_eq_some_head hne)⟩

end FirstBest

end SnippetLanguage

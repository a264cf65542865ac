/-!
# Tables over code points

A property of characters is given by a sorted list of runs of code points, each with a value. `CodeTable.ofRuns` turns
the list into a search tree, `find?` looks a code point up in it.

* `exists_run_of_find?`: what a look-up answers is one of the runs, and the run holds the code point.
* `mem_runs_ofRuns`: the tree holds no run that the list does not hold.
-/

namespace SnippetLanguage

/-- A run of code points, both ends included, with the value they share. -/
structure CodeRun (α : Type) where
  first : Nat
  last : Nat
  value : α
  deriving Repr, DecidableEq

/-- A search tree of runs, the runs of the left part below those of the right part. -/
inductive CodeTable (α : Type) where
  | empty
  | node (left : CodeTable α) (run : CodeRun α) (right : CodeTable α)

namespace CodeTable

variable {α : Type}

/-- The run that holds a code point. -/
def find? : CodeTable α → Nat → Option (CodeRun α)
  | empty, _ => none
  | node left run right, n =>
    if n < run.first then left.find? n
    else if n ≤ run.last then some run
    else right.find? n

/-- Whether some run holds the code point. -/
def contains : CodeTable α → Nat → Bool
  | empty, _ => false
  | node left run right, n =>
    if n < run.first then left.contains n
    else if n ≤ run.last then true
    else right.contains n

/-- The runs of the tree, from left to right. -/
def runs : CodeTable α → List (CodeRun α)
  | empty => []
  | node left run right => left.runs ++ run :: right.runs

/-- A tree of the given height over the front of a list, and the runs that found no room. -/
def fill : Nat → List (CodeRun α) → CodeTable α × List (CodeRun α)
  | 0, rs => (empty, rs)
  | height + 1, rs =>
    match fill height rs with
    | (left, []) => (left, [])
    | (left, run :: rest) => ((node left run (fill height rest).1), (fill height rest).2)

/-- The search tree of a sorted list of runs. -/
def ofRuns (rs : List (CodeRun α)) : CodeTable α := (fill (rs.length.log2 + 1) rs).1

/-- The search tree of a sorted list of ranges that carry no value. -/
def ofRanges (rs : List (Nat × Nat)) : CodeTable Unit := ofRuns (rs.map fun r => ⟨r.1, r.2, ()⟩)

/-! ## What a look-up answers -/

theorem exists_run_of_find? {t : CodeTable α} {n : Nat} {run : CodeRun α} (h : t.find? n = some run) :
    run ∈ t.runs ∧ run.first ≤ n ∧ n ≤ run.last := by
  induction t with
  | empty => simp [find?] at h
  | node left r right ihl ihr =>
    unfold find? at h
    split at h
    · have := ihl h
      exact ⟨by simp [runs, this.1], this.2⟩
    · split at h
      · cases h
        exact ⟨by simp [runs], by omega, by assumption⟩
      · have := ihr h
        exact ⟨by simp [runs, this.1], this.2⟩

/-- A tree and what found no room make up the list. -/
theorem runs_fill_append (height : Nat) (rs : List (CodeRun α)) :
    (fill height rs).1.runs ++ (fill height rs).2 = rs := by
  induction height generalizing rs with
  | zero => rfl
  | succ height ih =>
    have hl := ih rs
    unfold fill
    split
    · simp_all
    · rename_i left run rest heq
      rw [heq] at hl
      simp only [runs, List.append_assoc, List.cons_append]
      rw [ih rest]
      exact hl

theorem mem_runs_ofRuns {rs : List (CodeRun α)} {run : CodeRun α} (h : run ∈ (ofRuns rs).runs) : run ∈ rs := by
  rw [← runs_fill_append (rs.length.log2 + 1) rs]
  exact List.mem_append_left _ h

end CodeTable

end SnippetLanguage

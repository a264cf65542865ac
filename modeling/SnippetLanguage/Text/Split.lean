/-!
# Splitting at a character

`splitAtChar sep` cuts a list of characters at every separator; the parts hold no separator.

* `splitAtChar_eq_splitOn`: it is the split of lists at an element.
* `splitAtChar_append_cons`: the parts of two texts joined by a separator are the parts of the one and of the other.
* `not_mem_of_mem_splitAtChar`: no part holds the separator.
-/

namespace SnippetLanguage.Text

/-- The parts of a list of characters between the separators. There is always at least one. -/
def splitAtChar (sep : Char) : List Char → List (List Char)
  | [] => [[]]
  | c :: cs =>
    if c == sep then [] :: splitAtChar sep cs
    else
      match splitAtChar sep cs with
      | [] => [[c]]
      | part :: parts => (c :: part) :: parts

theorem splitAtChar_eq_splitOn (sep : Char) (cs : List Char) : splitAtChar sep cs = cs.splitOn sep := by
  induction cs with
  | nil => rfl
  | cons c cs ih =>
    rw [splitAtChar, ih, List.splitOn_eq_splitOnP, List.splitOn_eq_splitOnP, List.splitOnP_cons_eq_if_modifyHead]
    cases h : cs.splitOnP (· == sep) with
    | nil => exact absurd h (List.splitOnP_ne_nil _ _)
    | cons part parts => rfl

theorem splitAtChar_ne_nil (sep : Char) (cs : List Char) : splitAtChar sep cs ≠ [] := by
  rw [splitAtChar_eq_splitOn]
  exact List.splitOn_ne_nil sep cs

theorem splitAtChar_append_cons (sep : Char) (as bs : List Char) :
    splitAtChar sep (as ++ sep :: bs) = splitAtChar sep as ++ splitAtChar sep bs := by
  simp only [splitAtChar_eq_splitOn, List.splitOn_append_cons_self]

theorem not_mem_of_mem_splitAtChar {sep : Char} {cs part : List Char} (h : part ∈ splitAtChar sep cs) :
    sep ∉ part := by
  induction cs generalizing part with
  | nil => simp_all [splitAtChar]
  | cons c cs ih =>
    by_cases hc : c = sep
    · simp only [splitAtChar, hc, beq_self_eq_true, if_true, List.mem_cons] at h
      rcases h with rfl | h
      · simp
      · exact ih h
    · simp only [splitAtChar, beq_iff_eq, hc, if_false] at h
      cases hs : splitAtChar sep cs with
      | nil => exact absurd hs (splitAtChar_ne_nil sep cs)
      | cons p ps =>
        rw [hs] at h ih
        rcases List.mem_cons.1 h with rfl | h
        · intro hm
          rcases List.mem_cons.1 hm with e | hm
          · exact hc e.symm
          · exact ih (by simp) hm
        · exact ih (List.mem_cons_of_mem _ h)

end SnippetLanguage.Text

import SnippetLanguage.Proofs.Pattern.Padded

/-!
# What lower case and stripping leave

A character of a text in lower case is settled: lower case does not change it, wherever it stands (`isSettled_lowerChar`,
`isSettled_of_mem_lowerFrom`). So lower case is the same when taken twice (`lowerChars_lowerChars`). It makes no blank of
a visible character, so the ends of a text stay visible in lower case (`visibleEnds_lowerChars`). Stripping leaves visible
ends (`visibleEnds_stripChars`), and it leaves a text that has them alone (`stripChars_eq_self`).
-/

namespace SnippetLanguage.Text

variable {c y : Char} {before after cs : List Char}

/-! ## Single characters -/

/-- Whether lower case leaves a character alone wherever it stands: the capital sigma and the dotted capital `I` have
rules of their own. -/
def IsSettled (c : Char) : Prop := lowerChar c = c ∧ c ≠ 'Σ' ∧ c ≠ 'İ'

instance : DecidablePred IsSettled := fun c => by unfold IsSettled; infer_instance

/-- The code points that a row of the lower case mapping moves. -/
def movedCodes (row : Nat × Nat × Nat × Int) : List Nat :=
  (List.range ((row.2.1 - row.1) / row.2.2.1 + 1)).map fun k => row.1 + row.2.2.1 * k

theorem mem_movedCodes {row : Nat × Nat × Nat × Int} {n : Nat} (hfirst : row.1 ≤ n) (hlast : n ≤ row.2.1)
    (hstep : (n - row.1) % row.2.2.1 = 0) : n ∈ movedCodes row := by
  refine List.mem_map.2 ⟨(n - row.1) / row.2.2.1, List.mem_range.2 ?_, ?_⟩
  · have : (n - row.1) / row.2.2.1 ≤ (row.2.1 - row.1) / row.2.2.1 := Nat.div_le_div_right (by omega)
    omega
  · have := Nat.div_add_mod (n - row.1) row.2.2.1
    omega

/-- Lower case leaves a character alone or moves it as a row of the mapping says. -/
theorem lowerChar_eq_or_moved (c : Char) : lowerChar c = c ∨
    ∃ row ∈ lowerRuns, ∃ n ∈ movedCodes row, lowerChar c = Char.ofNat ((n : Int) + row.2.2.2).toNat := by
  unfold lowerChar
  split
  · split
    · refine .inr ⟨(0x41, 0x5A, 1, 32), by decide, c.toNat, mem_movedCodes ?_ ?_ ?_, rfl⟩
      · show 65 ≤ c.toNat
        omega
      · show c.toNat ≤ 90
        omega
      · exact Nat.mod_one _
    · exact .inl rfl
  · rcases shiftCase_lowerTable c.toNat with h | ⟨row, hrow, hfirst, hlast, hstep, h⟩
    · exact .inl (by rw [h, Char.ofNat_toNat])
    · exact .inr ⟨row, hrow, c.toNat, mem_movedCodes hfirst hlast hstep, by rw [h]⟩

/-- What holds of all that the mapping moves to holds of a lower case that is not the character itself. -/
theorem lowerChar_eq_or_of_moved {P : Char → Prop}
    (hP : ∀ row ∈ lowerRuns, ∀ n ∈ movedCodes row, P (Char.ofNat ((n : Int) + row.2.2.2).toNat)) (c : Char) :
    lowerChar c = c ∨ P (lowerChar c) := by
  refine (lowerChar_eq_or_moved c).imp_right ?_
  rintro ⟨row, hrow, n, hn, h⟩
  rw [h]
  exact hP row hrow n hn

/-- Lower case is settled and visible where it is not the character itself. -/
theorem lowerChar_eq_or_settled (c : Char) :
    lowerChar c = c ∨ (IsSettled (lowerChar c) ∧ isBlank (lowerChar c) = false) :=
  @lowerChar_eq_or_of_moved (fun y => IsSettled y ∧ isBlank y = false) (by decide +kernel) c

theorem isSettled_lowerChar (hsigma : c ≠ 'Σ') (hdotted : c ≠ 'İ') : IsSettled (lowerChar c) := by
  rcases lowerChar_eq_or_settled c with h | ⟨h, _⟩
  · rw [h]
    exact ⟨h, hsigma, hdotted⟩
  · exact h

theorem isBlank_lowerChar (h : isBlank c = false) : isBlank (lowerChar c) = false := by
  rcases lowerChar_eq_or_settled c with hc | ⟨_, hc⟩
  · rw [hc, h]
  · exact hc

/-- A character in the lower case of another one is the image of a letter with a rule of its own, or its lower case by
the mapping. -/
theorem mem_lowerAt (h : y ∈ lowerAt before c after) :
    (y = 'ς' ∨ y = 'σ' ∨ y = 'i' ∨ y = '\u0307') ∨ c ≠ 'Σ' ∧ c ≠ 'İ' ∧ y = lowerChar c := by
  unfold lowerAt at h
  split at h
  · left
    split at h
    · exact .inl (List.mem_singleton.1 h)
    · exact .inr (.inl (List.mem_singleton.1 h))
  · rename_i hsigma
    split at h
    · exact .inl (.inr (.inr (List.mem_pair.1 h)))
    · rename_i hdotted
      exact .inr ⟨by simpa using hsigma, by simpa using hdotted, List.mem_singleton.1 h⟩

theorem lowerAt_ne_nil : lowerAt before c after ≠ [] := by
  unfold lowerAt
  split
  · split <;> exact List.cons_ne_nil _ _
  · split <;> exact List.cons_ne_nil _ _

theorem isSettled_of_mem_lowerAt (h : y ∈ lowerAt before c after) : IsSettled y := by
  rcases mem_lowerAt h with h | ⟨hsigma, hdotted, rfl⟩
  · rcases h with rfl | rfl | rfl | rfl <;> decide +kernel
  · exact isSettled_lowerChar hsigma hdotted

theorem isBlank_of_mem_lowerAt (hc : isBlank c = false) (h : y ∈ lowerAt before c after) : isBlank y = false := by
  rcases mem_lowerAt h with h | ⟨_, _, rfl⟩
  · rcases h with rfl | rfl | rfl | rfl <;> decide
  · exact isBlank_lowerChar hc

/-- A visible character begins and ends with visible ones in lower case. -/
theorem visibleEnds_lowerAt (h : isBlank c = false) : VisibleEnds (lowerAt before c after) :=
  visibleEnds_of_forall lowerAt_ne_nil fun _ hy => isBlank_of_mem_lowerAt h hy

theorem lowerAt_of_isSettled (h : IsSettled c) : lowerAt before c after = [c] := by
  obtain ⟨hc, hsigma, hdotted⟩ := h
  unfold lowerAt
  rw [if_neg (by simpa using hsigma), if_neg (by simpa using hdotted), hc]

/-! ## Texts -/

theorem lowerFrom_eq_append (done before cs : List Char) :
    lowerFrom done before cs = done.reverse ++ lowerFrom [] before cs := by
  induction cs generalizing done before with
  | nil => simp [lowerFrom]
  | cons c after ih =>
    rw [lowerFrom, lowerFrom, ih, ih (_ ++ [])]
    simp

/-- The lower case of a text begins with that of its first character. -/
theorem lowerFrom_cons (before : List Char) (c : Char) (after : List Char) :
    lowerFrom [] before (c :: after) = lowerAt before c after ++ lowerFrom [] (c :: before) after := by
  rw [lowerFrom, lowerFrom_eq_append]
  simp

/-- The lower case of a text ends with that of its last character. -/
theorem exists_lowerFrom_concat (before xs : List Char) (c : Char) :
    ∃ ys, lowerFrom [] before (xs ++ [c]) = ys ++ lowerAt (xs.reverse ++ before) c [] := by
  induction xs generalizing before with
  | nil => exact ⟨[], by rw [List.nil_append, lowerFrom_cons, lowerFrom]; simp⟩
  | cons x xs ih =>
    obtain ⟨ys, hys⟩ := ih (x :: before)
    refine ⟨lowerAt before x (xs ++ [c]) ++ ys, ?_⟩
    rw [List.cons_append, lowerFrom_cons, hys, List.reverse_cons, List.append_assoc, List.append_assoc]
    rfl

theorem isSettled_of_mem_lowerFrom (h : y ∈ lowerFrom [] before cs) : IsSettled y := by
  induction cs generalizing before with
  | nil => cases h
  | cons c after ih =>
    rw [lowerFrom_cons] at h
    rcases List.mem_append.1 h with h | h
    · exact isSettled_of_mem_lowerAt h
    · exact ih h

theorem lowerFrom_eq_self (h : ∀ c ∈ cs, IsSettled c) : lowerFrom [] before cs = cs := by
  induction cs generalizing before with
  | nil => rfl
  | cons c after ih =>
    rw [lowerFrom_cons, lowerAt_of_isSettled (h c List.mem_cons_self), ih fun x hx => h x (List.mem_cons_of_mem c hx)]
    rfl

/-- **Lower case taken twice is lower case.** -/
theorem lowerChars_lowerChars (cs : List Char) : lowerChars (lowerChars cs) = lowerChars cs :=
  lowerFrom_eq_self fun _ hc => isSettled_of_mem_lowerFrom hc

/-- A text with visible ends has visible ends in lower case. -/
theorem visibleEnds_lowerChars (h : VisibleEnds cs) : VisibleEnds (lowerChars cs) := by
  obtain ⟨⟨first, hfirst, hfirstVisible⟩, last, hlast, hlastVisible⟩ := h
  constructor
  · obtain ⟨after, rfl⟩ := List.head?_eq_some_iff.1 hfirst
    obtain ⟨y, hy, hyVisible⟩ := (@visibleEnds_lowerAt first [] after hfirstVisible).1
    refine ⟨y, ?_, hyVisible⟩
    rw [lowerChars, lowerFrom_cons]
    exact List.mem_head?_append_of_mem_head? hy
  · obtain ⟨xs, rfl⟩ := List.getLast?_eq_some_iff.1 hlast
    obtain ⟨ys, hys⟩ := exists_lowerFrom_concat [] xs last
    obtain ⟨y, hy, hyVisible⟩ := (@visibleEnds_lowerAt last (xs.reverse ++ []) [] hlastVisible).2
    refine ⟨y, ?_, hyVisible⟩
    rw [lowerChars, hys]
    exact List.mem_getLast?_append_of_mem_getLast? hy

/-! ## Without blank ends -/

/-- What is left by stripping has visible ends. -/
theorem visibleEnds_stripChars (h : stripChars cs ≠ []) : VisibleEnds (stripChars cs) := by
  unfold stripChars at h ⊢
  have hback : (cs.dropWhile isBlank).reverse.dropWhile isBlank ≠ [] := fun e => h (by rw [e]; rfl)
  have hfront : cs.dropWhile isBlank ≠ [] := fun e => hback (by rw [e]; rfl)
  constructor
  · refine ⟨(cs.dropWhile isBlank).head hfront, ?_, List.head_dropWhile_not isBlank hfront⟩
    rw [List.head?_reverse, List.getLast?_eq_some_getLast hback, (List.dropWhile_suffix isBlank).getLast hback,
      List.getLast_reverse]
    rfl
  · refine ⟨_, ?_, List.head_dropWhile_not isBlank hback⟩
    rw [List.getLast?_reverse]
    exact List.head?_eq_some_head hback

theorem stripChars_eq_self (h : VisibleEnds cs) : stripChars cs = cs := by
  obtain ⟨⟨first, hfirst, hfirstVisible⟩, last, hlast, hlastVisible⟩ := h
  have hfront : cs.dropWhile isBlank = cs := by
    obtain ⟨after, rfl⟩ := List.head?_eq_some_iff.1 hfirst
    exact List.dropWhile_cons_of_neg (by rw [hfirstVisible]; exact Bool.false_ne_true)
  have hback : cs.reverse.dropWhile isBlank = cs.reverse := by
    obtain ⟨xs, rfl⟩ := List.getLast?_eq_some_iff.1 hlast
    rw [List.reverse_concat]
    exact List.dropWhile_cons_of_neg (by rw [hlastVisible]; exact Bool.false_ne_true)
  rw [stripChars, hfront, hback, List.reverse_reverse]

end SnippetLanguage.Text

import SnippetLanguage.Proofs.Pattern.Padded

/-!
# Line endings

`crlf` puts a carriage return before every line feed of a text. A piece of the longer text that starts and ends with
something visible comes from a piece of the text (`exists_split_of_crlf_eq`), since only a carriage return and its line
feed can be taken apart.
-/

namespace SnippetLanguage.Text

variable {c : Char} {cs xs ys zs : List Char}

/-- A text with a carriage return before every line feed. -/
def crlf : List Char → List Char
  | [] => []
  | c :: cs => if c = '\n' then '\r' :: '\n' :: crlf cs else c :: crlf cs

@[simp] theorem crlf_nil : crlf [] = [] := rfl

@[simp] theorem crlf_newline : crlf ('\n' :: cs) = '\r' :: '\n' :: crlf cs := rfl

theorem crlf_cons (h : c ≠ '\n') : crlf (c :: cs) = c :: crlf cs := if_neg h

@[simp] theorem crlf_append : crlf (xs ++ ys) = crlf xs ++ crlf ys := by
  induction xs with
  | nil => rfl
  | cons x xs ih =>
    by_cases hx : x = '\n'
    · simp [hx, ih]
    · simp [crlf_cons hx, ih]

theorem crlf_eq_self (h : '\n' ∉ cs) : crlf cs = cs := by
  induction cs with
  | nil => rfl
  | cons c cs ih =>
    rw [List.mem_cons, not_or] at h
    rw [crlf_cons (Ne.symm h.1), ih h.2]

/-- What the longer text has is in the text, or is a carriage return. -/
theorem mem_crlf_iff {x : Char} : x ∈ crlf cs ↔ x ∈ cs ∨ (x = '\r' ∧ '\n' ∈ cs) := by
  induction cs with
  | nil => simp
  | cons c cs ih =>
    by_cases hc : c = '\n'
    · subst hc
      have hn : '\n' ∈ '\n' :: cs := List.mem_cons_self
      rw [crlf_newline, List.mem_cons, List.mem_cons, ih, List.mem_cons (a := x)]
      tauto
    · have hne : ('\n' = c) = False := eq_false (Ne.symm hc)
      simp only [crlf_cons hc, List.mem_cons, ih, hne, false_or]
      exact or_assoc.symm

theorem newline_mem_crlf_iff : '\n' ∈ crlf cs ↔ '\n' ∈ cs := by
  rw [mem_crlf_iff]
  exact or_iff_left fun h => absurd h.1 (by decide)

theorem eq_of_crlf_eq (h : crlf xs = ys) (hy : '\n' ∉ ys) : xs = ys := by
  rw [← h, newline_mem_crlf_iff] at hy
  rw [← h, crlf_eq_self hy]

theorem crlf_eq_nil_iff : crlf xs = [] ↔ xs = [] := by
  constructor
  · intro h
    exact eq_of_crlf_eq h (by simp)
  · rintro rfl
    rfl

theorem blanks_crlf_iff : Blanks (crlf xs) ↔ Blanks xs := by
  constructor
  · intro h x hx
    exact h x (mem_crlf_iff.2 (.inl hx))
  · intro h x hx
    rcases mem_crlf_iff.1 hx with hx | ⟨rfl, _⟩
    · exact h x hx
    · decide

/-- A property that a carriage return and a line feed share is not changed for the first character. -/
theorem any_head?_crlf {P : Char → Bool} (hP : P '\r' = P '\n') : (crlf xs).head?.any P = xs.head?.any P := by
  cases xs with
  | nil => rfl
  | cons x xs =>
    by_cases hx : x = '\n'
    · subst hx
      exact hP
    · rw [crlf_cons hx]
      rfl

theorem getLast?_crlf : (crlf xs).getLast? = xs.getLast? := by
  rcases List.eq_nil_or_concat' xs with rfl | ⟨xs, x, rfl⟩
  · rfl
  · by_cases hx : x = '\n'
    · simp [hx]
    · simp [crlf_cons hx]

/-- Of two parts at the start of a text the longer one is the longer one with carriage returns as well. -/
theorem length_crlf_le_iff {as bs : List Char} (h : xs ++ as = ys ++ bs) :
    (crlf xs).length ≤ (crlf ys).length ↔ xs.length ≤ ys.length := by
  rcases List.append_eq_append_iff.1 h with ⟨zs, rfl, _⟩ | ⟨zs, rfl, _⟩
  · simp
  · have hzs : (crlf zs).length = 0 ↔ zs.length = 0 := by
      rw [List.length_eq_zero_iff, List.length_eq_zero_iff, crlf_eq_nil_iff]
    simp only [crlf_append, List.length_append]
    omega

/-! ## Taking the longer text apart -/

/-- A split of the longer text comes from one of the text unless it is between a carriage return and a line feed. -/
theorem exists_split_of_crlf_eq_append (h : crlf cs = xs ++ ys) (hsplit : '\r' ∈ xs.getLast? → '\n' ∉ ys.head?) :
    ∃ as bs, cs = as ++ bs ∧ crlf as = xs ∧ crlf bs = ys := by
  induction cs generalizing xs with
  | nil =>
    obtain ⟨rfl, rfl⟩ := List.append_eq_nil_iff.1 h.symm
    exact ⟨[], [], rfl, rfl, rfl⟩
  | cons c cs ih =>
    cases xs with
    | nil => exact ⟨[], c :: cs, rfl, rfl, h⟩
    | cons x xs =>
      by_cases hc : c = '\n'
      · subst hc
        rw [crlf_newline, List.cons_append] at h
        obtain ⟨hx, hrest⟩ := List.cons.inj h
        subst hx
        cases xs with
        | nil =>
          -- the split is between the two characters of one line ending
          have hy : '\n' ∈ ys.head? := by
            rw [List.nil_append] at hrest
            rw [← hrest]
            rfl
          exact absurd hy (hsplit rfl)
        | cons x xs =>
          rw [List.cons_append] at hrest
          obtain ⟨hx, htail⟩ := List.cons.inj hrest
          subst hx
          obtain ⟨as, bs, rfl, rfl, rfl⟩ := ih htail fun hr => hsplit (List.mem_getLast?_cons (List.mem_getLast?_cons hr))
          exact ⟨'\n' :: as, bs, rfl, rfl, rfl⟩
      · rw [crlf_cons hc] at h
        obtain ⟨rfl, hrest⟩ := List.cons.inj h
        obtain ⟨as, bs, rfl, rfl, rfl⟩ := ih hrest fun hr => hsplit (List.mem_getLast?_cons hr)
        exact ⟨c :: as, bs, rfl, crlf_cons hc, rfl⟩

/-- **A piece with visible ends of the longer text comes from a piece of the text.** -/
theorem exists_split_of_crlf_eq (h : crlf cs = xs ++ ys ++ zs) (hy : VisibleEnds ys) :
    ∃ as bs ds, cs = as ++ bs ++ ds ∧ crlf as = xs ∧ crlf bs = ys ∧ crlf ds = zs := by
  obtain ⟨⟨y, hyhead, hyb⟩, z, hzlast, hzb⟩ := hy
  have hright : '\r' ∈ (xs ++ ys).getLast? → '\n' ∉ zs.head? := by
    intro hr
    rw [List.getLast?_append, hzlast] at hr
    obtain rfl : z = '\r' := Option.some.inj hr
    exact absurd hzb (by decide)
  obtain ⟨front, ds, rfl, hfront, hds⟩ := exists_split_of_crlf_eq_append h hright
  have hleft : '\r' ∈ xs.getLast? → '\n' ∉ ys.head? := by
    intro _ hn
    obtain rfl : y = '\n' := Option.some.inj (hyhead.symm.trans hn)
    exact absurd hyb (by decide)
  obtain ⟨as, bs, rfl, has, hbs⟩ := exists_split_of_crlf_eq_append hfront hleft
  exact ⟨as, bs, ds, rfl, has, hbs, hds⟩

end SnippetLanguage.Text

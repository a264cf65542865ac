import SnippetLanguage.Alias
import SnippetLanguage.Proofs.Text.Letters

/-!
# Texts that differ in letter case

`foldLetter` writes the letters of the ASCII range in lower case, together with the four characters outside it that
count as such letters when case is ignored. Two characters with one fold are the same to every class of characters that
a pattern asks about and the same letter to a literal (`traits_of_fold_eq`).

`Char.toLower` is the part of the fold within the ASCII range. A name is normalised alike whatever the case of its ASCII
letters (`canonicalName_of_toLower_eq`), though lower case of other letters looks at the characters around them.
-/

namespace SnippetLanguage.Text

-- the checks of characters one by one go through the ASCII range
set_option maxRecDepth 4000

variable {α : Type} {f : Char → Char} {x y : Char} {xs ys : List Char}

/-- The ASCII letter in lower case that a character counts as: the long `s` is an `s`, the Kelvin sign a `k`, the dotted
and the dotless `i` an `i`. Any other character stands for itself. -/
def foldLetter (c : Char) : Char :=
  if c == '\u017F' then 's'
  else if c == '\u212A' then 'k'
  else if c == '\u0130' || c == '\u0131' then 'i'
  else c.toLower

/-- Whether a character counts as a letter of the ASCII range. -/
def isLetterForm (c : Char) : Bool := c.isAlpha || c.toNat ∈ foreignCodes

/-! ## What the fold keeps -/

theorem toLower_eq_or_ascii (c : Char) : c.toLower = c ∨ c.toNat ∈ List.range 128 := by
  by_cases hc : c.toNat < 128
  · exact .inr (List.mem_range.2 hc)
  · refine .inl ?_
    have hupper : ¬ (c.val ≥ 'A'.val ∧ c.val ≤ 'Z'.val) := by
      intro h
      have hle : c.val.toNat ≤ 'Z'.val.toNat := UInt32.le_iff_toNat_le.1 h.2
      have hz : 'Z'.val.toNat = 90 := rfl
      have hval : c.val.toNat = c.toNat := rfl
      omega
    exact dif_neg hupper

theorem foldLetter_eq_or_ascii (c : Char) : foldLetter c = c ∨ c.toNat ∈ List.range 128 ++ foreignCodes := by
  have hforeign : ∀ n ∈ foreignCodes, c = Char.ofNat n → c.toNat ∈ List.range 128 ++ foreignCodes := by
    rintro n hn rfl
    exact List.mem_append_right _ ((by decide : ∀ n ∈ foreignCodes, (Char.ofNat n).toNat ∈ foreignCodes) n hn)
  by_cases hs : c = '\u017F'
  · exact .inr (hforeign 0x17F (by decide) hs)
  by_cases hk : c = '\u212A'
  · exact .inr (hforeign 0x212A (by decide) hk)
  by_cases hi : c = '\u0130'
  · exact .inr (hforeign 0x130 (by decide) hi)
  by_cases hj : c = '\u0131'
  · exact .inr (hforeign 0x131 (by decide) hj)
  have hfold : foldLetter c = c.toLower := by simp [foldLetter, hs, hk, hi, hj]
  rw [hfold]
  exact (toLower_eq_or_ascii c).imp_right fun h => List.mem_append_left _ h

/-- What the fold of the letters does not change is the same for characters with one fold. -/
theorem congr_of_fold_eq {g : Char → α}
    (hg : ∀ n ∈ List.range 128 ++ foreignCodes, g (foldLetter (Char.ofNat n)) = g (Char.ofNat n))
    (h : foldLetter x = foldLetter y) : g x = g y := by
  have key : ∀ c, g (foldLetter c) = g c := by
    intro c
    rcases foldLetter_eq_or_ascii c with hc | hc
    · rw [hc]
    · have := hg c.toNat hc
      rwa [Char.ofNat_toNat] at this
  rw [← key x, h, key y]

/-- What lower case within the ASCII range does not change is the same for characters with one lower case. -/
theorem congr_of_toLower_eq {g : Char → α} (hg : ∀ n ∈ List.range 128, g (Char.ofNat n).toLower = g (Char.ofNat n))
    (h : x.toLower = y.toLower) : g x = g y := by
  have key : ∀ c : Char, g c.toLower = g c := by
    intro c
    rcases toLower_eq_or_ascii c with hc | hc
    · rw [hc]
    · have := hg c.toNat hc
      rwa [Char.ofNat_toNat] at this
  rw [← key x, h, key y]

/-- What patterns ask of a character: its letter, and the classes that it belongs to. -/
def traits (c : Char) : Char × Bool × Bool × Bool × Bool :=
  (letterKey c, isWord c, isDigit c, isBlank c, isLetterForm c)

/-- Characters with one fold are the same to patterns. -/
theorem traits_of_fold_eq (h : foldLetter x = foldLetter y) : traits x = traits y :=
  congr_of_fold_eq (by decide) h

theorem letterKey_of_fold_eq (h : foldLetter x = foldLetter y) : letterKey x = letterKey y :=
  congrArg Prod.fst (traits_of_fold_eq h)

theorem isWord_of_fold_eq (h : foldLetter x = foldLetter y) : isWord x = isWord y :=
  congrArg (·.2.1) (traits_of_fold_eq h)

theorem isDigit_of_fold_eq (h : foldLetter x = foldLetter y) : isDigit x = isDigit y :=
  congrArg (·.2.2.1) (traits_of_fold_eq h)

theorem isBlank_of_fold_eq (h : foldLetter x = foldLetter y) : isBlank x = isBlank y :=
  congrArg (·.2.2.2.1) (traits_of_fold_eq h)

theorem isLetterForm_of_fold_eq (h : foldLetter x = foldLetter y) : isLetterForm x = isLetterForm y :=
  congrArg (·.2.2.2.2) (traits_of_fold_eq h)

/-- What the normalisation of names asks of a character: its fold, its lower case, and whether it is a letter or a mark
that lower case of a final sigma looks at. -/
def caseTraits (c : Char) : Char × Char × Bool × Bool × Bool × Bool :=
  (foldLetter c, lowerChar c, isIgnorable c, isCased c, c == 'Σ', c == 'İ')

/-- Characters with one lower case within the ASCII range are the same to the normalisation of names. -/
theorem caseTraits_of_toLower_eq (h : x.toLower = y.toLower) : caseTraits x = caseTraits y :=
  congr_of_toLower_eq (by decide) h

theorem fold_eq_of_toLower_eq (h : x.toLower = y.toLower) : foldLetter x = foldLetter y :=
  congrArg Prod.fst (caseTraits_of_toLower_eq h)

/-- Only letters have another character with the same fold. -/
theorem eq_of_fold_eq (h : foldLetter x = foldLetter y) (hy : isLetterForm y = false) : x = y := by
  have hself : ∀ c, isLetterForm c = false → foldLetter c = c := by
    intro c hc
    rcases foldLetter_eq_or_ascii c with h | h
    · exact h
    · have hall : ∀ n ∈ List.range 128 ++ foreignCodes, isLetterForm (Char.ofNat n) = false →
          foldLetter (Char.ofNat n) = Char.ofNat n := by
        decide
      have := hall c.toNat h
      rw [Char.ofNat_toNat] at this
      exact this hc
  have hx : isLetterForm x = false := by rw [isLetterForm_of_fold_eq h, hy]
  rw [← hself x hx, h, hself y hy]

/-! ## Parts of texts -/

theorem map_takeWhile_congr {p : Char → Bool} (hp : ∀ x y, f x = f y → p x = p y) (h : xs.map f = ys.map f) :
    (xs.takeWhile p).map f = (ys.takeWhile p).map f := by
  induction xs generalizing ys with
  | nil => rw [List.map_eq_nil_iff.1 h.symm]
  | cons x xs ih =>
    cases ys with
    | nil => cases h
    | cons y ys =>
      obtain ⟨hxy, hrest⟩ := List.cons.inj h
      simp only [List.takeWhile_cons, hp x y hxy]
      cases p y with
      | true => simp only [if_true, List.map_cons, hxy, ih hrest]
      | false => rfl

theorem map_dropWhile_congr {p : Char → Bool} (hp : ∀ x y, f x = f y → p x = p y) (h : xs.map f = ys.map f) :
    (xs.dropWhile p).map f = (ys.dropWhile p).map f := by
  induction xs generalizing ys with
  | nil => rw [List.map_eq_nil_iff.1 h.symm]
  | cons x xs ih =>
    cases ys with
    | nil => cases h
    | cons y ys =>
      obtain ⟨hxy, hrest⟩ := List.cons.inj h
      simp only [List.dropWhile_cons, hp x y hxy]
      cases p y with
      | true => simpa using ih hrest
      | false => simpa using h

theorem all_congr {p : Char → Bool} (hp : ∀ x y, f x = f y → p x = p y) (h : xs.map f = ys.map f) :
    xs.all p = ys.all p := by
  induction xs generalizing ys with
  | nil => rw [List.map_eq_nil_iff.1 h.symm]
  | cons x xs ih =>
    cases ys with
    | nil => cases h
    | cons y ys =>
      obtain ⟨hxy, hrest⟩ := List.cons.inj h
      rw [List.all_cons, List.all_cons, hp x y hxy, ih hrest]

/-! ## Lower case of the other letters -/

theorem casedNext_of_toLower_eq (h : xs.map Char.toLower = ys.map Char.toLower) : casedNext xs = casedNext ys := by
  have hignorable : ∀ x y : Char, x.toLower = y.toLower → isIgnorable x = isIgnorable y :=
    fun x y hxy => congrArg (·.2.2.1) (caseTraits_of_toLower_eq hxy)
  have hrest := map_dropWhile_congr hignorable h
  unfold casedNext
  cases hx : xs.dropWhile isIgnorable with
  | nil =>
    rw [hx] at hrest
    rw [List.map_eq_nil_iff.1 hrest.symm]
  | cons x xs' =>
    cases hy : ys.dropWhile isIgnorable with
    | nil =>
      rw [hx, hy] at hrest
      cases hrest
    | cons y ys' =>
      rw [hx, hy] at hrest
      exact congrArg (·.2.2.2.1) (caseTraits_of_toLower_eq (List.cons.inj hrest).1)

variable {before before' cs cs' : List Char}

theorem lowerAt_of_toLower_eq (hb : before.map Char.toLower = before'.map Char.toLower) (h : x.toLower = y.toLower)
    (ha : cs.map Char.toLower = cs'.map Char.toLower) : lowerAt before x cs = lowerAt before' y cs' := by
  have htraits := caseTraits_of_toLower_eq h
  have hsigma : (x == 'Σ') = (y == 'Σ') := congrArg (·.2.2.2.2.1) htraits
  have hdotted : (x == 'İ') = (y == 'İ') := congrArg (·.2.2.2.2.2) htraits
  have hlower : lowerChar x = lowerChar y := congrArg (·.2.1) htraits
  unfold lowerAt
  rw [hsigma, hdotted, hlower, casedNext_of_toLower_eq hb, casedNext_of_toLower_eq ha]

theorem lowerFrom_of_toLower_eq {done : List Char} (hb : before.map Char.toLower = before'.map Char.toLower)
    (h : cs.map Char.toLower = cs'.map Char.toLower) : lowerFrom done before cs = lowerFrom done before' cs' := by
  induction cs generalizing cs' done before before' with
  | nil => rw [List.map_eq_nil_iff.1 h.symm, lowerFrom, lowerFrom]
  | cons c cs ih =>
    cases cs' with
    | nil => cases h
    | cons c' cs' =>
      obtain ⟨hc, hrest⟩ := List.cons.inj h
      rw [lowerFrom, lowerFrom, lowerAt_of_toLower_eq hb hc hrest]
      exact ih (by rw [List.map_cons, List.map_cons, hc, hb]) hrest

theorem map_stripChars_congr (h : xs.map Char.toLower = ys.map Char.toLower) :
    (stripChars xs).map Char.toLower = (stripChars ys).map Char.toLower := by
  have hblank : ∀ x y : Char, x.toLower = y.toLower → isBlank x = isBlank y :=
    fun x y hxy => isBlank_of_fold_eq (fold_eq_of_toLower_eq hxy)
  unfold stripChars
  rw [List.map_reverse, List.map_reverse]
  refine congrArg List.reverse (map_dropWhile_congr hblank ?_)
  rw [List.map_reverse, List.map_reverse]
  exact congrArg List.reverse (map_dropWhile_congr hblank h)

/-- **A name is normalised alike whatever the case of its ASCII letters.** -/
theorem canonicalName_of_toLower_eq (h : xs.map Char.toLower = ys.map Char.toLower) :
    canonicalName (String.ofList xs) = canonicalName (String.ofList ys) := by
  have hlower : lowerChars (stripChars xs) = lowerChars (stripChars ys) :=
    lowerFrom_of_toLower_eq rfl (map_stripChars_congr h)
  simp only [canonicalName, strip, lowercase, String.toList_ofList, hlower]

end SnippetLanguage.Text

import SnippetLanguage.Text.Blank
import SnippetLanguage.Text.LetterCase
import SnippetLanguage.Text.Word

/-!
# Letters of the ASCII range and the characters that count as them

Outside the ASCII range four characters count as a letter of it: both forms of the Turkish `i`, the long `s` and the
Kelvin sign (`mem_foreignCodes`). So a sign of the ASCII range is only the same as itself (`sameLetter_sign_iff`), and
what counts as a letter of the range is a word character (`isWord_of_sameLetter`). A blank is no letter at all, and
neither a word character nor a digit (`plain_of_isBlank`).
-/

namespace SnippetLanguage.Text

-- the checks of characters one by one go through lists of up to 200 code points
set_option maxRecDepth 4000

/-! ## Code points -/

theorem toNat_ofNat_of_isValidChar {n : Nat} (h : n.isValidChar) : (Char.ofNat n).toNat = n := by
  rw [Char.ofNat, dif_pos h]
  rfl

/-! ## Blanks -/

/-- The code points of the blank characters. -/
def blankCodes : List Nat := [
  9, 10, 11, 12, 13, 28, 29, 30, 31, 32, 0x85, 0xA0, 0x1680, 0x2000, 0x2001, 0x2002, 0x2003, 0x2004, 0x2005, 0x2006,
  0x2007, 0x2008, 0x2009, 0x200A, 0x2028, 0x2029, 0x202F, 0x205F, 0x3000]

theorem mem_blankCodes_of_isBlank {c : Char} (h : isBlank c = true) : c.toNat ∈ blankCodes := by
  unfold isBlank at h
  dsimp only at h
  simp only [blankCodes, List.mem_cons, List.not_mem_nil, or_false]
  split at h
  · simp only [Bool.or_eq_true, Bool.and_eq_true, decide_eq_true_eq, beq_iff_eq] at h
    omega
  · simp only [Bool.or_eq_true, Bool.and_eq_true, decide_eq_true_eq, beq_iff_eq] at h
    omega

/-- What holds of the 29 blanks holds of every blank. -/
theorem forall_of_isBlank {P : Char → Prop} (h : ∀ n ∈ blankCodes, P (Char.ofNat n)) {c : Char}
    (hc : isBlank c = true) : P c := by
  have hP := h _ (mem_blankCodes_of_isBlank hc)
  rwa [Char.ofNat_toNat] at hP

/-- A blank has no other letter case, and is neither a word character nor a digit. -/
theorem plain_of_isBlank {c : Char} (h : isBlank c = true) :
    letterKey c = c ∧ isWord c = false ∧ isDigit c = false :=
  @forall_of_isBlank (fun c => letterKey c = c ∧ isWord c = false ∧ isDigit c = false) (by decide) c h

theorem letterKey_of_isBlank {c : Char} (h : isBlank c = true) : letterKey c = c := (plain_of_isBlank h).1

theorem isWord_of_isBlank {c : Char} (h : isBlank c = true) : isWord c = false := (plain_of_isBlank h).2.1

theorem isBlank_of_isWord {c : Char} (h : isWord c = true) : isBlank c = false := by
  cases hb : isBlank c with
  | false => rfl
  | true => exact (Bool.false_ne_true ((isWord_of_isBlank hb).symm.trans h)).elim

theorem isBlank_of_isDigit {c : Char} (h : isDigit c = true) : isBlank c = false := by
  cases hb : isBlank c with
  | false => rfl
  | true => exact (Bool.false_ne_true ((plain_of_isBlank hb).2.2.symm.trans h)).elim

/-- What counts as a letter that is not blank is not blank. -/
theorem isBlank_of_sameLetter {x c : Char} (h : sameLetter x c = true) (hc : isBlank (letterKey c) = false) :
    isBlank x = false := by
  rw [sameLetter, beq_iff_eq] at h
  cases hx : isBlank x with
  | false => rfl
  | true =>
    rw [← h, letterKey_of_isBlank hx, hx] at hc
    cases hc

/-! ## Lower case beyond the ASCII range -/

/-- Whether a row of the lower case mapping leads from outside the ASCII range to characters outside it that are neither
the dotless `i` nor the long `s`; the rows of the dotted capital `I` and of the Kelvin sign need not. -/
def RowStaysOutside (row : Nat × Nat × Nat × Int) : Prop :=
  row.2.1 < 128 ∨ (row.1 = row.2.1 ∧ (row.1 = 0x130 ∨ row.1 = 0x212A)) ∨
    (128 ≤ row.1 + row.2.2.2 ∧ (row.2.1 + row.2.2.2 < 0xD800 ∨ (0xE000 ≤ row.1 + row.2.2.2 ∧
      row.2.1 + row.2.2.2 < 0x110000)) ∧ (row.2.1 + row.2.2.2 < 0x131 ∨ 0x131 < row.1 + row.2.2.2) ∧
      (row.2.1 + row.2.2.2 < 0x17F ∨ 0x17F < row.1 + row.2.2.2))

instance : DecidablePred RowStaysOutside := fun row => by unfold RowStaysOutside; infer_instance

theorem rowStaysOutside_of_mem : ∀ row ∈ lowerRuns, RowStaysOutside row := by decide

theorem shiftCase_lowerTable (n : Nat) : shiftCase lowerTable n = n ∨
    ∃ row ∈ lowerRuns, row.1 ≤ n ∧ n ≤ row.2.1 ∧ (n - row.1) % row.2.2.1 = 0 ∧
      shiftCase lowerTable n = ((n : Int) + row.2.2.2).toNat := by
  unfold shiftCase
  split
  · rename_i run hrun
    obtain ⟨hmem, hfirst, hlast⟩ := CodeTable.exists_run_of_find? hrun
    obtain ⟨row, hrow, rfl⟩ := List.mem_map.1 (CodeTable.mem_runs_ofRuns hmem)
    split
    · rename_i hstep
      exact .inr ⟨row, hrow, hfirst, hlast, hstep, rfl⟩
    · exact .inl rfl
  · exact .inl rfl

/-- The lower case of a character outside the ASCII range, seen from the range. -/
theorem lowerChar_outside {c : Char} (hc : 128 ≤ c.toNat) :
    ((lowerChar c).toNat < 128 → c.toNat = 0x130 ∨ c.toNat = 0x212A) ∧
      ((lowerChar c).toNat = 0x131 → c.toNat = 0x131) ∧ ((lowerChar c).toNat = 0x17F → c.toNat = 0x17F) := by
  have hlower : lowerChar c = Char.ofNat (shiftCase lowerTable c.toNat) := if_neg (by omega)
  rcases shiftCase_lowerTable c.toNat with h | ⟨row, hrow, hfirst, hlast, _, h⟩
  · rw [hlower, h, Char.ofNat_toNat]
    omega
  · rcases rowStaysOutside_of_mem row hrow with hrow | ⟨hone, hcode⟩ | ⟨hlo, hvalid, hi, hs⟩
    · omega
    · have hcode : c.toNat = 0x130 ∨ c.toNat = 0x212A := by omega
      have hsmall : (lowerChar c).toNat < 128 := by
        rw [← Char.ofNat_toNat c]
        rcases hcode with h | h
        · rw [h]
          decide
        · rw [h]
          decide
      exact ⟨fun _ => hcode, fun h => by omega, fun h => by omega⟩
    · have hv : ((c.toNat : Int) + row.2.2.2).toNat.isValidChar := by
        unfold Nat.isValidChar
        omega
      rw [hlower, h, toNat_ofNat_of_isValidChar hv]
      omega

/-- The code points outside the ASCII range that count as a letter of it. -/
def foreignCodes : List Nat := [0x130, 0x131, 0x17F, 0x212A]

theorem mem_foreignCodes {c : Char} (hc : 128 ≤ c.toNat) (hkey : (letterKey c).toNat < 128) :
    c.toNat ∈ foreignCodes := by
  simp only [foreignCodes, List.mem_cons, List.not_mem_nil, or_false]
  obtain ⟨hascii, hi, hs⟩ := lowerChar_outside hc
  unfold letterKey at hkey
  dsimp only at hkey
  split at hkey
  · have := hascii (by assumption)
    omega
  · split at hkey
    · rename_i n hn
      -- of the classes of lower-case characters two are those of ASCII letters
      have hclass : ∀ pair ∈ letterClasses, (Char.ofNat pair.2).toNat < 128 → pair.1 = 0x131 ∨ pair.1 = 0x17F := by
        decide
      obtain ⟨l₁, l₂, hl, _⟩ := List.lookup_eq_some_iff.1 hn
      have := hclass ((lowerChar c).toNat, n) (by rw [hl]; simp) hkey
      omega
    · omega

/-! ## Signs and letters of the ASCII range -/

/-- A property of characters that count as ASCII characters holds when it holds of those and of the foreign letters. -/
theorem forall_of_letterKey_ascii {P : Char → Prop} (hP : ∀ n ∈ List.range 128 ++ foreignCodes, P (Char.ofNat n))
    {c : Char} (hkey : (letterKey c).toNat < 128) : P c := by
  have hmem : c.toNat ∈ List.range 128 ++ foreignCodes := by
    by_cases hc : c.toNat < 128
    · exact List.mem_append_left _ (List.mem_range.2 hc)
    · exact List.mem_append_right _ (mem_foreignCodes (by omega) hkey)
  have := hP c.toNat hmem
  rwa [Char.ofNat_toNat] at this

/-- A sign of the ASCII range counts as no other character. -/
theorem sameLetter_sign_iff {x c : Char} (hc : c.toNat < 128) (hsign : c.isAlpha = false) :
    sameLetter x c = true ↔ x = c := by
  have hself : ∀ n ∈ List.range 128, (Char.ofNat n).isAlpha = false → letterKey (Char.ofNat n) = Char.ofNat n := by
    decide
  have hkeyc : letterKey c = c := by
    have := hself c.toNat (List.mem_range.2 hc)
    rw [Char.ofNat_toNat] at this
    exact this hsign
  rw [sameLetter, beq_iff_eq, hkeyc]
  constructor
  · intro h
    have hx : letterKey x = x ∨ (letterKey x).isAlpha = true :=
      @forall_of_letterKey_ascii (fun y => letterKey y = y ∨ (letterKey y).isAlpha = true) (by decide)
        x (by rw [h]; exact hc)
    rcases hx with hx | hx
    · rw [← hx, h]
    · rw [h, hsign] at hx
      cases hx
  · rintro rfl
    exact hkeyc

/-- What counts as a letter of the ASCII range is a word character. -/
theorem isWord_of_sameLetter {x c : Char} (h : sameLetter x c = true) (hc : (letterKey c).toNat < 128)
    (hletter : (letterKey c).isAlpha = true) : isWord x = true := by
  rw [sameLetter, beq_iff_eq] at h
  have hall : (letterKey x).isAlpha = true → isWord x = true :=
    @forall_of_letterKey_ascii (fun y => (letterKey y).isAlpha = true → isWord y = true) (by decide)
      x (by rw [h]; exact hc)
  exact hall (by rw [h]; exact hletter)

end SnippetLanguage.Text

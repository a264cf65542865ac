/-!
# Blank characters

The blank characters are the spaces, the line and paragraph separators and the separators among the controls: 29 code
points. A text is blank when it has no other character.

* `isEmpty_stripChars`: nothing is left of a text by stripping exactly when the text is blank.
-/

namespace SnippetLanguage.Text

/-- Whether a character is blank. -/
def isBlank (c : Char) : Bool :=
  let n := c.toNat
  if n < 128 then n == 32 || (9 ≤ n && n ≤ 13) || (28 ≤ n && n ≤ 31)
  else
    n == 0x85 || n == 0xA0 || n == 0x1680 || (0x2000 ≤ n && n ≤ 0x200A) || n == 0x2028 || n == 0x2029 ||
      n == 0x202F || n == 0x205F || n == 0x3000

/-- A list of characters without its blank ends. -/
def stripChars (cs : List Char) : List Char :=
  ((cs.dropWhile isBlank).reverse.dropWhile isBlank).reverse

/-- A text without its blank ends. -/
def strip (s : String) : String := String.ofList (stripChars s.toList)

/-- Whether a text has blank characters only. -/
def allBlank (s : String) : Bool := s.toList.all isBlank

theorem dropWhile_isBlank_eq_nil_iff (cs : List Char) : cs.dropWhile isBlank = [] ↔ ∀ c ∈ cs, isBlank c = true := by
  induction cs with
  | nil => simp
  | cons c cs ih => cases h : isBlank c <;> simp [List.dropWhile, h, ih]

theorem stripChars_eq_nil_iff (cs : List Char) : stripChars cs = [] ↔ ∀ c ∈ cs, isBlank c = true := by
  simp only [stripChars, List.reverse_eq_nil_iff, dropWhile_isBlank_eq_nil_iff, List.mem_reverse]
  constructor
  · intro h c hc
    rw [← List.takeWhile_append_dropWhile (p := isBlank) (l := cs), List.mem_append] at hc
    exact hc.elim (List.all_eq_true.1 List.all_takeWhile c) (h c)
  · intro h c hc
    exact h c ((List.dropWhile_sublist isBlank).subset hc)

theorem isEmpty_stripChars (cs : List Char) : (stripChars cs).isEmpty = cs.all isBlank := by
  rw [Bool.eq_iff_iff, List.isEmpty_iff, stripChars_eq_nil_iff, List.all_eq_true]

theorem mem_of_mem_stripChars {c : Char} {cs : List Char} (h : c ∈ stripChars cs) : c ∈ cs := by
  rw [stripChars, List.mem_reverse] at h
  have hback := (List.dropWhile_sublist _).subset h
  exact (List.dropWhile_sublist _).subset (List.mem_reverse.1 hback)

end SnippetLanguage.Text

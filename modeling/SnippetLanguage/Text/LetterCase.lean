import SnippetLanguage.Text.LetterCase.Tables

/-!
# Letter case

Lower and upper case of a text, and when two characters are the same letter.

* `lowercase` and `uppercase` are the full mappings: one character may become several (`İ`, `ß`), and a capital sigma
  becomes the final form at the end of a word, looking past case-ignorable characters on both sides.
* `sameLetter` compares single characters by `letterKey`; it is an equivalence because it compares values of one
  function (`sameLetter_refl`, `sameLetter_comm`, `sameLetter_trans`).
-/

namespace SnippetLanguage.Text

/-! ## Single characters -/

/-- The image of a code point under a mapping given by runs. -/
def shiftCase (table : CodeTable CaseShift) (n : Nat) : Nat :=
  match table.find? n with
  | some run => if (n - run.first) % run.value.step = 0 then (n + run.value.offset).toNat else n
  | none => n

/-- The lower case of a character, when it is one character; of `İ` it is `i`. -/
def lowerChar (c : Char) : Char :=
  if c.toNat < 128 then
    if 65 ≤ c.toNat ∧ c.toNat ≤ 90 then Char.ofNat (c.toNat + 32) else c
  else Char.ofNat (shiftCase lowerTable c.toNat)

/-- The character that stands for all characters of a letter: its lower case or, where several lower-case characters
count as one letter, the chosen one of them. -/
def letterKey (c : Char) : Char :=
  let l := lowerChar c
  if l.toNat < 128 then l
  else
    match letterClasses.lookup l.toNat with
    | some n => Char.ofNat n
    | none => l

/-- Whether two characters are the same letter, or the same character. -/
def sameLetter (a b : Char) : Bool := letterKey a == letterKey b

theorem sameLetter_refl (a : Char) : sameLetter a a = true := by
  simp [sameLetter]

theorem sameLetter_comm (a b : Char) : sameLetter a b = sameLetter b a := by
  simp only [sameLetter]
  exact BEq.comm

theorem sameLetter_trans {a b c : Char} (hab : sameLetter a b = true) (hbc : sameLetter b c = true) :
    sameLetter a c = true := by
  simp only [sameLetter, beq_iff_eq] at *
  rw [hab, hbc]

/-! ## Texts -/

/-- Whether the character is a cased letter that is not case-ignorable. -/
def isCased (c : Char) : Bool := casedTable.contains c.toNat

/-- Whether the search for a neighbouring letter passes over the character. -/
def isIgnorable (c : Char) : Bool := ignorableTable.contains c.toNat

/-- Whether the first character that is not case-ignorable is cased. -/
def casedNext (cs : List Char) : Bool :=
  match cs.dropWhile isIgnorable with
  | [] => false
  | c :: _ => isCased c

/-- The lower case of one character between the characters before it, the nearest first, and those after it. -/
def lowerAt (before : List Char) (c : Char) (after : List Char) : List Char :=
  if c == 'Σ' then
    if casedNext before && !casedNext after then ['ς'] else ['σ']
  else if c == 'İ' then ['i', '\u0307']
  else [lowerChar c]

/-- The lower case of the characters that follow `before`, put behind the reversed `done`. -/
def lowerFrom (done before : List Char) : List Char → List Char
  | [] => done.reverse
  | c :: after => lowerFrom ((lowerAt before c after).reverse ++ done) (c :: before) after

/-- The lower case of a list of characters. -/
def lowerChars (cs : List Char) : List Char := lowerFrom [] [] cs

/-- The lower case of a text. -/
def lowercase (s : String) : String := String.ofList (lowerChars s.toList)

/-- The upper case of one character. -/
def upperChars (c : Char) : List Char :=
  match upperExpansions.lookup c.toNat with
  | some ns => ns.map Char.ofNat
  | none => [Char.ofNat (shiftCase upperTable c.toNat)]

/-- The upper case of a text. -/
def uppercase (s : String) : String := String.ofList (s.toList.flatMap upperChars)

end SnippetLanguage.Text

import SnippetLanguage.Pattern.CharClass

/-!
# Patterns

A pattern describes slices of a text by their characters and by what stands next to them. There is no order among the
alternatives or the counts of a repetition: a pattern is only ever asked whether some slice fits.

`Place` is a position in a text, with the characters before it (the nearest first) and after it.
-/

namespace SnippetLanguage

/-- A position in a text: the characters before it, the nearest first, and those after it. -/
structure Place where
  before : List Char
  after : List Char
  deriving Repr, DecidableEq

namespace Place

/-- The text around the place. -/
def text (u : Place) : List Char := u.before.reverse ++ u.after

/-- The place at the start of a text. -/
def start (text : List Char) : Place := ⟨[], text⟩

/-- Whether the place is next to a word character on exactly one side. -/
def atWordEdge (before after : List Char) : Bool :=
  before.head?.any Text.isWord != after.head?.any Text.isWord

/-- Whether a line starts after the characters `before`. -/
def atLineStart (before : List Char) : Bool :=
  match before with
  | [] => true
  | c :: _ => c == '\n'

end Place

/-- A pattern over the slices of a text. -/
inductive Pattern where
  /-- the empty slice -/
  | empty
  /-- one character of a class -/
  | one (cls : CharClass)
  /-- a run of given characters -/
  | literal (l : Literal)
  /-- a slice of the one followed by a slice of the other -/
  | seq (p q : Pattern)
  /-- a slice of the one or of the other -/
  | alt (p q : Pattern)
  /-- any number of slices, one after the other -/
  | star (p : Pattern)
  /-- the empty slice, where no slice of the pattern starts -/
  | notAhead (p : Pattern)
  /-- the empty slice between a word character and something else -/
  | wordEdge
  /-- the empty slice at the start of the text -/
  | textStart
  /-- the empty slice at the start of a line -/
  | lineStart

namespace Pattern

/-! ## Derived forms -/

/-- A run of characters in any letter case. -/
def text (s : String) : Pattern := literal ⟨s.toList, true, Nat.pow 2 s.toList.length, rfl⟩

/-- A run of characters as it stands. -/
def exactText (s : String) : Pattern := literal ⟨s.toList, false, Nat.pow 2 s.toList.length, rfl⟩

/-- Patterns one after the other. -/
def inOrder : List Pattern → Pattern
  | [] => empty
  | [p] => p
  | p :: ps => seq p (inOrder ps)

/-- One slice or more. -/
def plus (p : Pattern) : Pattern := seq p (star p)

/-- One slice or none. -/
def opt (p : Pattern) : Pattern := alt p empty

/-- Any number of blank characters. -/
def blanks : Pattern := star (one .blank)

/-- One blank character or more. -/
def gap : Pattern := plus (one .blank)

/-- One word character or more. -/
def ident : Pattern := plus (one .word)

/-- A stretch of a line on which `head` does not start again. -/
def lineUntil (head : Pattern) : Pattern := star (seq (notAhead head) (one .inLine))

end Pattern

end SnippetLanguage

import SnippetLanguage.Alias
import SnippetLanguage.Pattern.Sweep

/-!
# Fenced code with a language tag

A fence is a line that starts, after spaces and tabs, with three backticks. If tag characters follow at once, they name
the language of the block. The first tagged fence of a text decides.

* `fence?` finds the place of the first tagged fence; `tagAt` reads its tag.
-/

namespace SnippetLanguage.Fence

/-- Spaces and tabs, which may indent a fence. -/
def indent : CharClass := (CharClass.char ' ').union (.char '\t')

/-- The characters of a language tag: word characters and those of `c++`, `c#` and `asp.net`. -/
def tagChar : CharClass :=
  (((CharClass.word.union (.char '+')).union (.char '#')).union (.char '.')).union (.char '-')

/-- The three backticks. -/
def marks : List Char := ['\x60', '\x60', '\x60']

/-- The start of a tagged fence: a line start, an indentation, the backticks and the first character of a tag. -/
def head : Pattern :=
  .inOrder [.lineStart, .star (.one indent), .exactText (String.ofList marks), .one tagChar]

/-- The place of the first tagged fence. -/
def fence? (text : String) : Option Place := head.find? text.toList

/-- The tag of the fence that starts the given characters. -/
def tagAt (line : List Char) : List Char :=
  ((line.dropWhile indent.holds).drop marks.length).takeWhile tagChar.holds

/-- The language that the first tagged fence of a text declares. -/
def language? (text : String) : Option String :=
  (fence? text).map fun u => canonicalName (String.ofList (tagAt u.after))

end SnippetLanguage.Fence

import SnippetLanguage.Text.CodePoint
import SnippetLanguage.Text.Printable

/-!
# Quoted texts

A text between quotes, as log lines and descriptions show it: single quotes, or double ones where the text has single
quotes and no double one. The quote and the backslash get a backslash, unprintable characters an escape, as do halves of
surrogate pairs.
-/

namespace SnippetLanguage.Text

/-- The quote that surrounds a text. -/
def quoteMark (cs : List Char) : Char :=
  if cs.contains '\'' && !cs.contains '"' then '"' else '\''

/-- The lower-case hexadecimal digits of a number, filled up with zeros. -/
def hexDigits (width n : Nat) : List Char :=
  let ds := Nat.toDigits 16 n
  List.replicate (width - ds.length) '0' ++ ds

/-- How one character is written between quotes. -/
def escapeChar (mark c : Char) : List Char :=
  if c == mark || c == '\\' then ['\\', c]
  else if c == '\n' then ['\\', 'n']
  else if c == '\r' then ['\\', 'r']
  else if c == '\t' then ['\\', 't']
  else if isPrintable c then [c]
  else if c.toNat < 0x100 then '\\' :: 'x' :: hexDigits 2 c.toNat
  else if c.toNat < 0x10000 then '\\' :: 'u' :: hexDigits 4 c.toNat
  else '\\' :: 'U' :: hexDigits 8 c.toNat

/-- A text between quotes. -/
def quoted (s : String) : String :=
  let mark := quoteMark s.toList
  String.ofList (mark :: s.toList.flatMap (escapeChar mark) ++ [mark])

/-- How one code point is written between quotes. -/
def escapePoint (mark : Char) : CodePoint → List Char
  | .char c => escapeChar mark c
  | .half h => '\\' :: 'u' :: hexDigits 4 h.unit

/-- A wide text between quotes. -/
def quotedWide (w : WideText) : String :=
  let mark := quoteMark w.shown.toList
  String.ofList (mark :: w.points.flatMap (escapePoint mark) ++ [mark])

end SnippetLanguage.Text

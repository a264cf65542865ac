import SnippetLanguage.Fence
import SnippetLanguage.Label
import SnippetLanguage.Scoring

/-!
# Detection

The language of a text: the one that its first tagged fence declares or, without such a fence, the one that the rules
of a table find. The method tells how the language was found; an answer of the rules counts as a fallback when its name
is one of the two placeholders.

* `detect_language_eq`: which language the result has.
-/

namespace SnippetLanguage

/-- How the language of a text was found. -/
inductive DetectionMethod where
  /-- a fence in the text declares it -/
  | override
  /-- it was known before -/
  | declared
  /-- a rule won -/
  | scorer
  /-- no rule won -/
  | fallback
  deriving Repr, DecidableEq

/-- The word for a method. -/
def DetectionMethod.name : DetectionMethod → String
  | override => "override"
  | declared => "declared"
  | scorer => "scorer"
  | fallback => "fallback"

/-- The language found for a text, the label to show and how it was found. -/
structure Detection where
  language : String
  displayLabel : String
  method : DetectionMethod
  deriving Repr, DecidableEq

/-- Whether an identifier is one of the two that stand for no language. -/
def isPlaceholder (language : String) : Bool := language == textPlaceholder || language == codePlaceholder

/-- The result for a language, with its label in a style. -/
def Detection.of (language : String) (style : LabelStyle) (method : DetectionMethod) : Detection :=
  ⟨language, labelFor language style, method⟩

namespace Detection

variable {language : String} {style : LabelStyle} {method : DetectionMethod}

@[simp] theorem language_of : (of language style method).language = language := rfl

@[simp] theorem displayLabel_of : (of language style method).displayLabel = labelFor language style := rfl

@[simp] theorem method_of : (of language style method).method = method := rfl

end Detection

/-- The language of a text by its fences and the rules of a table. -/
def Table.detect (t : Table) (text : String) (style : LabelStyle) : Detection :=
  match Fence.language? text with
  | some language => .of language style .override
  | none =>
    let language := t.classify text
    .of language style (if isPlaceholder language then .fallback else .scorer)

theorem Table.detect_language_eq (t : Table) (text : String) (style : LabelStyle) :
    (t.detect text style).language = (Fence.language? text).getD (t.classify text) := by
  unfold Table.detect
  cases Fence.language? text <;> rfl

end SnippetLanguage

import SnippetLanguage.Schema.Fields

/-!
# Detection requests

What a client sends to have a text detected: the text, the language it has already and the label style it wants. Both
of the latter may be left out or null; the language is limited in length, and the style is taken in lower case.
-/

namespace SnippetLanguage

open Schema

/-- A request to detect the language of a text. -/
structure DetectRequest where
  content : WideText
  declaredLanguage : Option WideText
  labelStyle : Option WideText
  deriving Repr, DecidableEq

namespace DetectRequest

/-- How many characters a declared language may have. -/
def maxDeclaredLength : Nat := 50

/-- The fields of a request. -/
def fields : List Field := [
  { name := "content", required := true },
  { name := "declared_language", required := false, maxLength := some maxDeclaredLength },
  { name := "label_style", required := false }]

/-- The request that the texts of the fields make. -/
def ofValues? : List (Option WideText) → Option DetectRequest
  | [some content, declared, style] => some ⟨content, declared, style.map WideText.lowercase⟩
  | _ => none

/-- The request that a value makes, or everything that is wrong with it. -/
def ofJson : Json → Except (List Schema.Error) DetectRequest
  | .object members =>
    match readFields members fields with
    | .ok values =>
      match ofValues? values with
      | some r => .ok r
      | none => .error []
    | .error errors => .error errors
  | v => .error [⟨[], .notObject "DetectRequest", v⟩]

end DetectRequest

end SnippetLanguage

import SnippetLanguage.Pattern.Sweep

/-!
# Language rules

A rule says how one language is recognised: by signals that speak for it and signals that speak against it. A signal is
a pattern that has to be somewhere in the text, or whatever another matcher decides about the text as a whole. The
priority tells how much one point for this language weighs against a point for another.
-/

namespace SnippetLanguage

/-- What a rule looks for in a text. -/
inductive Signal where
  /-- a slice that the pattern derives -/
  | pattern (p : Pattern)
  /-- anything that another matcher accepts -/
  | matcher (accepts : List Char → Bool)

/-- Whether a text shows the signal. -/
def Signal.isIn : Signal → List Char → Bool
  | pattern p, text => p.isIn text
  | matcher accepts, text => accepts text

instance : Coe Pattern Signal := ⟨.pattern⟩

/-- How one language is recognised. -/
structure Rule where
  /-- the identifier of the language -/
  name : String
  /-- each of these signals found in a text is a point for the language -/
  signatures : List Signal
  /-- each of these signals found in a text costs two points -/
  exclusions : List Signal := []
  /-- what a positive number of points is multiplied by -/
  priority : Int := 1

end SnippetLanguage

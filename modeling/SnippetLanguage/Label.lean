/-!
# Labels

The text shown next to a snippet, in one of two styles: the name of the language, or a picture, a blank and the name.
An identifier without a label is shown as it is, in the second style after a picture of a tag.
-/

namespace SnippetLanguage

/-- The two ways to show a language. -/
inductive LabelStyle where
  | plain
  | emoji
  deriving Repr, DecidableEq

namespace LabelStyle

/-- The name of a style. -/
def name : LabelStyle → String
  | plain => "plain"
  | emoji => "emoji"

/-- The style of a name, compared as it stands. -/
def ofName? (s : String) : Option LabelStyle :=
  if s == "plain" then some plain else if s == "emoji" then some emoji else none

/-- The style of a name; a name that is no style means the plain one. -/
def ofName (s : String) : LabelStyle := (ofName? s).getD plain

/-- The names of the styles, in the order of their code points. -/
def names : List String := ["emoji", "plain"]

theorem ofName?_eq_some_iff {s : String} {style : LabelStyle} : ofName? s = some style ↔ s = style.name := by
  unfold ofName?
  cases style <;> by_cases hp : s = "plain" <;> by_cases he : s = "emoji" <;> simp_all [name]

end LabelStyle

/-- The names shown for the known identifiers. -/
def plainLabels : List (String × String) := [
  ("javascript", "JavaScript"), ("typescript", "TypeScript"), ("react", "React"), ("python", "Python"),
  ("java", "Java"), ("cpp", "C++"), ("c", "C"), ("csharp", "C#"), ("php", "PHP"), ("ruby", "Ruby"), ("go", "Go"),
  ("rust", "Rust"), ("swift", "Swift"), ("kotlin", "Kotlin"), ("scala", "Scala"), ("fortran", "Fortran"),
  ("html", "HTML"), ("css", "CSS"), ("scss", "SCSS"), ("less", "LESS"), ("sql", "SQL"), ("json", "JSON"),
  ("xml", "XML"), ("yaml", "YAML"), ("bash", "Bash"), ("shell", "Shell"), ("powershell", "PowerShell"),
  ("dockerfile", "Dockerfile"), ("markdown", "Markdown"), ("plaintext", "Text"), ("text", "Text"), ("code", "Code")]

/-- The labels with a picture for the known identifiers. -/
def pictureLabels : List (String × String) := [
  ("javascript", "🟨 JavaScript"), ("typescript", "🔷 TypeScript"), ("react", "⚛️ React"), ("python", "🐍 Python"),
  ("java", "☕ Java"), ("cpp", "🔵 C++"), ("c", "🔵 C"), ("csharp", "🟦 C#"), ("php", "🐘 PHP"), ("ruby", "💎 Ruby"),
  ("go", "🐹 Go"), ("rust", "🦀 Rust"), ("swift", "🍎 Swift"), ("kotlin", "🅺 Kotlin"), ("scala", "🎼 Scala"),
  ("fortran", "🧮 Fortran"), ("html", "🌐 HTML"), ("css", "🎨 CSS"), ("scss", "🎨 SCSS"), ("less", "🎨 LESS"),
  ("sql", "🗄️ SQL"), ("json", "📋 JSON"), ("xml", "📄 XML"), ("yaml", "⚙️ YAML"), ("bash", "🐚 Bash"),
  ("shell", "🐚 Shell"), ("powershell", "🔷 PowerShell"), ("dockerfile", "🐳 Dockerfile"), ("markdown", "📝 Markdown"),
  ("plaintext", "📄 Text"), ("text", "📄 Text"), ("code", "💻 Code")]

/-- The picture of a tag, for identifiers without a label. -/
def unknownPicture : String := "🏷️"

/-- What is shown for a language. -/
def labelFor (language : String) : LabelStyle → String
  | .plain => (plainLabels.lookup language).getD language
  | .emoji => (pictureLabels.lookup language).getD (unknownPicture ++ " " ++ language)

end SnippetLanguage

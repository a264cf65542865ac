import SnippetLanguage.Text.Blank
import SnippetLanguage.Text.LetterCase

/-!
# Language tags and their aliases

People write a language in many ways: `py`, `Python3`, `c++`. A tag is normalised by dropping its blank ends, writing
it in lower case and looking it up among the aliases; a tag that is not an alias stands for itself.

* `canonicalName_of_lookup`: what a known alias becomes.
-/

namespace SnippetLanguage

/-- The known aliases and the identifiers they stand for. -/
def knownAliases : List (String × String) := [
  ("js", "javascript"), ("ts", "typescript"), ("py", "python"), ("python3", "python"), ("rb", "ruby"), ("php", "php"),
  ("cs", "csharp"), ("c#", "csharp"), ("cpp", "cpp"), ("c++", "cpp"), ("c", "c"), ("go", "go"), ("golang", "go"),
  ("rs", "rust"), ("java", "java"), ("kt", "kotlin"), ("swift", "swift"), ("html", "html"), ("css", "css"),
  ("scss", "scss"), ("sql", "sql"), ("sh", "shell"), ("zsh", "shell"), ("bash", "bash"), ("ps", "powershell"),
  ("ps1", "powershell"), ("md", "markdown"), ("json", "json"), ("yaml", "yaml"), ("yml", "yaml"), ("xml", "xml"),
  ("jsx", "react"), ("fortran", "fortran"), ("f90", "fortran"), ("f", "fortran")]

/-- The identifier that a tag stands for once its case and blank ends are out of the way. -/
def resolveAlias (key : String) : String := (knownAliases.lookup key).getD key

/-- The identifier of the language that a tag names. -/
def canonicalName (tag : String) : String := resolveAlias (Text.lowercase (Text.strip tag))

/-- The aliases of an identifier other than itself, in the order of their code points. -/
def otherNames (language : String) : List String :=
  ((knownAliases.filter fun a => a.2 == language && a.1 != language).map Prod.fst).mergeSort

theorem canonicalName_of_lookup {tag language : String}
    (h : knownAliases.lookup (Text.lowercase (Text.strip tag)) = some language) :
    canonicalName tag = language := by
  simp [canonicalName, resolveAlias, h]

end SnippetLanguage

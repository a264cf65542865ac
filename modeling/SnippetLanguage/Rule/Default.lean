import SnippetLanguage.Rule.Default.Scripting
import SnippetLanguage.Rule.Default.Systems
import SnippetLanguage.Rule.Default.Web
import SnippetLanguage.Rule.Table

/-!
# The default table

Seventeen languages, from the most distinctive to the least: where two have the same score, the one listed first wins.
-/

namespace SnippetLanguage

/-- The rules of the default table. -/
def Rule.defaults : List Rule := [
  .fortran, .rust, .go, .java, .kotlin, .swift, .python, .cpp, .c, .sql, .html, .css, .typescript, .react, .javascript,
  .json, .shell]

/-- The default table. -/
def Table.default : Table := .ofValid Rule.defaults ⟨by decide, by decide, by decide⟩

end SnippetLanguage

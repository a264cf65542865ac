import SnippetLanguage.Http.Standard.Compression
import SnippetLanguage.Http.Standard.Origins
import SnippetLanguage.Http.Standard.Routing
import SnippetLanguage.Http.Standard.Submission

/-!
# The framework that the program runs in

The framework that the program runs in. How deeply arrays and objects may be nested depends on how deeply calls may be
nested where it runs, so that the two depths are left open.
-/

namespace SnippetLanguage.Http

/-- The framework that the program runs in. -/
def Framework.standard (readingDepth writingDepth : Nat) : Framework where
  urlPath head := Target.shown head.path
  route := Standard.route writingDepth
  takesJson := Standard.takesJson
  readingDepth := readingDepth
  bind := Standard.bind readingDepth writingDepth
  report := Standard.report
  encode := Standard.encode writingDepth
  writingDepth := writingDepth
  handler? name := (Standard.handlers writingDepth).lookup name
  preflight? policy head := (Standard.preflightOf? head).map (·.answer policy)
  share := Standard.share
  compress := Standard.compress

end SnippetLanguage.Http

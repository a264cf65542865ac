import SnippetLanguage.Log
import SnippetLanguage.Settings

/-!
# The language service

Detection for callers: it checks the label style and the length of the text, keeps a language that the caller has
declared, and records each detection. It also tells which languages a table can detect.

* `detect_log_of_error`: a detection that fails records nothing.
* `detect_log_of_ok`: one that succeeds records its language, its method and the length of the text.
-/

namespace SnippetLanguage.Service

/-! ## Detection -/

/-- The label style that applies: the one asked for or, if none is, the configured one. -/
def styleInForce (settings : Settings) (style : Option String) : String :=
  match style with
  | some s => if s.isEmpty then settings.labelStyle else s
  | none => settings.labelStyle

/-- The failure of an unknown label style. -/
def unknownStyle (style : WideText) : Failure :=
  .ofField ("Unknown label style '" ++ style ++ "'. Use one of: ['emoji', 'plain']") (some "label_style") []

/-- The failure of a text that is too long, with the limit as it is written. -/
def contentTooLong (written : String) (limit : Int) (length : Nat) : Failure :=
  .ofField ("Content exceeds the maximum of " ++ written ++ " characters" : String) (some "content")
    [("max_length", .int limit), ("length", .int length)]

/-- What is raised for a text that is too long. A limit with more digits than the interpreter writes cannot be told. -/
def tooLong (digits : Option Nat) (limit : Int) (length : Nat) : Raised :=
  match Text.decimal? digits limit with
  | some written => (contentTooLong written limit length).raised
  | none => .valueError (Text.unwrittenMessage digits)

/-- The result for a request whose style is known and whose text is not too long. -/
def resultOf (t : Table) (content : String) (declared : Option String) (style : LabelStyle) : Detection :=
  match declared with
  | some language =>
    if Text.allBlank language then t.detect content style
    else .of (canonicalName language) style .declared
  | none => t.detect content style

/-- The language of a text, or what is raised. `digits` is how many digits the interpreter writes of an integer. -/
def detection (settings : Settings) (t : Table) (content : String) (declared style : Option String)
    (digits : Option Nat := some Text.usualDigits) : Except Raised Detection :=
  let style := styleInForce settings style
  match LabelStyle.ofName? style with
  | none => .error (unknownStyle style).raised
  | some known =>
    if settings.maxContentLength < content.length then
      .error (tooLong digits settings.maxContentLength content.length)
    else .ok (resultOf t content declared known)

/-- The language of a text, or what is raised, and what is recorded of it. -/
def detect (settings : Settings) (t : Table) (content : String) (declared style : Option String)
    (digits : Option Nat := some Text.usualDigits) : Except Raised Detection × List Log.Event :=
  match detection settings t content declared style digits with
  | .ok d => (.ok d, [.detected d.language d.method content.length])
  | .error e => (.error e, [])

theorem detect_log_of_error {settings : Settings} {t : Table} {content : String} {declared style : Option String}
    {digits : Option Nat} {e : Raised} (h : (detect settings t content declared style digits).1 = .error e) :
    (detect settings t content declared style digits).2 = [] := by
  unfold detect at h ⊢
  split <;> simp_all

theorem detect_log_of_ok {settings : Settings} {t : Table} {content : String} {declared style : Option String}
    {digits : Option Nat} {d : Detection} (h : (detect settings t content declared style digits).1 = .ok d) :
    (detect settings t content declared style digits).2 = [.detected d.language d.method content.length] := by
  unfold detect at h ⊢
  split <;> simp_all

/-! ## The languages of a table -/

/-- What is told about a language that can be detected. -/
structure LanguageEntry where
  name : String
  displayLabel : String
  priority : Int
  signatureCount : Nat
  exclusionCount : Nat
  aliases : List String
  deriving Repr, DecidableEq

/-- What is told about the language of a rule. -/
def entryOf (settings : Settings) (r : Rule) : LanguageEntry where
  name := r.name
  displayLabel := labelFor r.name (LabelStyle.ofName settings.labelStyle)
  priority := r.priority
  signatureCount := r.signatures.length
  exclusionCount := r.exclusions.length
  aliases := otherNames r.name

/-- The languages of a table, in its order. -/
def languages (settings : Settings) (t : Table) : List LanguageEntry := t.rules.map (entryOf settings)

/-- The languages that can be detected, and how many there are. -/
structure Listing where
  languages : List LanguageEntry
  totalCount : Nat
  deriving Repr, DecidableEq

/-- The list of the languages of a table. -/
def listing (settings : Settings) (t : Table) : Listing where
  languages := languages settings t
  totalCount := (languages settings t).length

/-- The language of a tag, if the table has a rule for it. -/
def findLanguage (settings : Settings) (t : Table) (tag : String) : Except Failure LanguageEntry :=
  match t.get? (canonicalName tag) with
  | some r => .ok (entryOf settings r)
  | none => .error (.ofResource "language" (some tag) [])

end SnippetLanguage.Service

import SnippetLanguage.Http.Standard.Writing
import SnippetLanguage.Text.Blank
import SnippetLanguage.Text.LetterCase
import SnippetLanguage.Text.Split

/-!
# Submitted bodies

The content type of a request decides whether its body is read as JSON. What is wrong with a body is reported error by error,
with the value that was given.
-/

namespace SnippetLanguage.Http.Standard

open Schema

/-- Whether a content type is that of JSON; parameters do not count. -/
def isJsonType (contentType : String) : Bool :=
  let kind := Text.lowerChars (Text.stripChars (contentType.toList.takeWhile (· != ';')))
  match Text.splitAtChar '/' kind with
  | [main, sub] =>
    main == "application".toList && (sub == "json".toList || "+json".toList.isSuffixOf sub)
  | _ => false

/-- Whether the body of a request is read as JSON. -/
def takesJson (head : Head) : Bool := isJsonType ((head.header? "content-type").getD "")

/-! ## Reports -/

/-- What the names of internal members start with. -/
def internalMark : List CodePoint := "_sa".toList.map .char

mutual

/-- A value as a report shows it: internal members are left out. -/
def shown : Json → Json
  | .array items => .array (shownItems items)
  | .object members => .object (shownMembers members)
  | v => v

/-- The items of an array as a report shows them. -/
def shownItems : List Json → List Json
  | [] => []
  | v :: vs => shown v :: shownItems vs

/-- The members of an object as a report shows them. -/
def shownMembers : List (WideText × Json) → List (WideText × Json)
  | [] => []
  | m :: ms => if internalMark.isPrefixOf m.1.points then shownMembers ms else (m.1, shown m.2) :: shownMembers ms

end

/-- The report on an error. -/
def reportOn (e : Schema.Error) : Json :=
  let context : List (WideText × Json) :=
    match e.fault.context with
    | some context => [("ctx", context)]
    | none => []
  .object (("type", .text e.fault.kind) :: ("loc", .array (e.path.map Step.toJson)) :: ("msg", .text e.fault.message) ::
    ("input", shown e.input) :: context)

/-- The report on errors. -/
def report (errors : List Schema.Error) : Json := .array (errors.map reportOn)

/-! ## Bodies -/

/-- What is raised where the report would have to show bytes that are no text. What it says of the bytes is left out. -/
def undecodable : Raised where
  classes := [.other "UnicodeDecodeError", .other "UnicodeError", .other "ValueError"]
  text := "'utf-8' codec can't decode bytes"

/-- Refuses a body with all that is wrong with it. -/
def refuse (depth : Nat) (errors : List Schema.Error) : Outcome := answerDetail depth 422 (report errors)

/-- Refuses a body that is not read as JSON. -/
def refuseUnread (depth : Nat) (body : List UInt8) : Outcome :=
  match Text.wideUtf8? (body.map UInt8.toNat) with
  | some points => refuse depth [⟨[.name "body"], .noFields, .text ⟨points⟩⟩]
  | none => .raised undecodable

/-- The texts that the body of a request gives to fields, or what becomes of a request with another body. -/
def bind (readingDepth writingDepth : Nat) (fields : List Field) (request : Request) :
    Except Outcome (List (Option WideText)) :=
  if request.body.isEmpty then .error (refuse writingDepth [⟨[.name "body"], .missing, .null⟩])
  else if takesJson request.toHead then
    match Json.read readingDepth request.body with
    | .ok v => (readBody fields v).mapError (refuse writingDepth)
    | .error (.malformed fault position) =>
      .error (refuse writingDepth [⟨[.name "body", .position position], .notJson fault, .object []⟩])
    | .error _ => .error (answerDetail writingDepth 400 (.text "There was an error parsing the body"))
  else .error (refuseUnread writingDepth request.body)

end SnippetLanguage.Http.Standard

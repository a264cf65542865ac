import SnippetLanguage.Http.Framework
import SnippetLanguage.Text.Quoted

/-!
# Values that cannot be written

A value is written in two steps, each of which may fail: first as a text, which cannot hold numbers that are not finite,
integers with too many digits and too many nested arrays and objects; then as bytes, which cannot hold halves of surrogate
pairs. What is raised names the first obstacle.
-/

namespace SnippetLanguage.Http.Standard

/-- The exception that a number is not finite. -/
def outOfRange : Raised := .valueError "Out of range float values are not JSON compliant"

/-- The exception that arrays and objects are nested too deeply. -/
def tooDeep : Raised where
  classes := [.other "RecursionError", .other "RuntimeError"]
  text := "maximum recursion depth exceeded while encoding a JSON object"

mutual

/-- What is raised while a value is written as a text, if no more than `depth` arrays and objects may be nested. -/
def textFault? (depth : Nat) : Json → Option Raised
  | .int n =>
    if Text.isWritten (some Text.usualDigits) n then none
    else some (.valueError (Text.tooManyDigits Text.usualDigits))
  | .notFinite _ => some outOfRange
  | .array items =>
    match depth with
    | 0 => some tooDeep
    | depth + 1 => itemsFault? depth items
  | .object members =>
    match depth with
    | 0 => some tooDeep
    | depth + 1 => membersFault? depth members
  | _ => none

/-- What is raised while the items of an array are written as texts. -/
def itemsFault? (depth : Nat) : List Json → Option Raised
  | [] => none
  | v :: vs => (textFault? depth v).or (itemsFault? depth vs)

/-- What is raised while the members of an object are written as texts. -/
def membersFault? (depth : Nat) : List (WideText × Json) → Option Raised
  | [] => none
  | m :: ms => (textFault? depth m.2).or (membersFault? depth ms)

end

/-- What is said of the halves of surrogate pairs that a text holds first, from a place on. -/
def halvesMessage (position : Nat) : List CodePoint → String
  | [.half h] => "'utf-8' codec can't encode character '\\u" ++ String.ofList (Text.hexDigits 4 h.unit) ++
      "' in position " ++ toString position ++ ": surrogates not allowed"
  | halves => "'utf-8' codec can't encode characters in position " ++ toString position ++ "-" ++
      toString (position + halves.length - 1) ++ ": surrogates not allowed"

/-- What is raised while a text is written as bytes. -/
def bytesFault? (w : WideText) : Option Raised :=
  if w.hasHalf then
    let before := w.points.takeWhile fun p => !p.isHalf
    let halves := (w.points.drop before.length).takeWhile CodePoint.isHalf
    some {
      classes := [.other "UnicodeEncodeError", .other "UnicodeError", .other "ValueError"]
      text := halvesMessage before.length halves }
  else none

/-- What is raised while a value is written. -/
def encode (depth : Nat) (v : Json) : Option Raised := (textFault? depth v).or (bytesFault? v.written)

/-- Answers with a value, if this can be written. -/
def answerJson (depth status : Nat) (v : Json) : Outcome :=
  match encode depth v with
  | none => .answered (.json status v)
  | some e => .raised e

/-- Answers with a reason only. -/
def answerDetail (depth status : Nat) (detail : Json) : Outcome := answerJson depth status (.object [("detail", detail)])

/-- The status that an exception tells. -/
def statusOf (e : Raised) : Nat :=
  match e.details.lookup ("status_code" : WideText) with
  | some (.int n) => n.toNat
  | _ => 500

/-- Whether responses of a status have no body. -/
def hasNoBody (status : Nat) : Bool := status < 200 || status == 204 || status == 304

/-- Handles an exception that tells its status and a detail. -/
def answerException (depth : Nat) (e : Raised) : Outcome :=
  if hasNoBody (statusOf e) then .answered { status := statusOf e, body := .nothing }
  else answerDetail depth (statusOf e) ((e.details.lookup ("detail" : WideText)).getD .null)

/-- Handles an exception that tells what is wrong with a body. -/
def answerErrors (depth : Nat) (e : Raised) : Outcome :=
  answerDetail depth 422 ((e.details.lookup ("errors" : WideText)).getD (.array []))

/-- How exceptions of the framework's own classes are handled. -/
def handlers (depth : Nat) : List (String × (Raised → Outcome)) :=
  [("HTTPException", answerException depth), ("RequestValidationError", answerErrors depth)]

end SnippetLanguage.Http.Standard

import SnippetLanguage.Decimal.Double
import SnippetLanguage.Json.Basic
import SnippetLanguage.Json.Encoding

/-!
# Reading JSON

`read` turns the bytes of a text into a value or says what is wrong and at which code point. The reader keeps the arrays
and objects that are still open on a stack, so that the depth of a value costs no more than its length; a value that is
nested more deeply than the reader can go at the time, and an integer with too many digits, are refused without a position.
A number with a fraction or an exponent is the double nearest to it.

Of several members of one name the last one counts.
-/

namespace SnippetLanguage.Json

/-- What is wrong at a place of a JSON text. -/
inductive SyntaxFault where
  | expectedValue
  | expectedKey
  | expectedColon
  | expectedComma
  | trailingText
  | unterminatedText
  | controlCharacter
  | unknownEscape
  | unicodeEscape
  deriving Repr, DecidableEq

/-- The wording of a fault. -/
def SyntaxFault.message : SyntaxFault → String
  | expectedValue => "Expecting value"
  | expectedKey => "Expecting property name enclosed in double quotes"
  | expectedColon => "Expecting ':' delimiter"
  | expectedComma => "Expecting ',' delimiter"
  | trailingText => "Extra data"
  | unterminatedText => "Unterminated string starting at"
  | controlCharacter => "Invalid control character at"
  | unknownEscape => "Invalid \\escape"
  | unicodeEscape => "Invalid \\uXXXX escape"

/-- Why a text could not be read. -/
inductive ReadError where
  /-- the text is not JSON, as the character at the position shows -/
  | malformed (fault : SyntaxFault) (position : Nat)
  /-- the text goes beyond the limits of the reader -/
  | beyondLimits
  /-- the bytes are no text -/
  | undecodable
  deriving Repr, DecidableEq

/-- Whether a code point may stand between the parts of a JSON text. -/
def isSpace (p : CodePoint) : Bool :=
  match p with
  | .char c => c == ' ' || c == '\t' || c == '\n' || c == '\r'
  | .half _ => false

/-- The rest of a text with the position of its first code point. -/
structure Rest where
  position : Nat
  points : List CodePoint

namespace Rest

/-- The rest after the first `n` code points. -/
def skip (r : Rest) (n : Nat) : Rest := ⟨r.position + n, r.points.drop n⟩

/-- The rest after the blanks that come first. -/
def skipSpaces (r : Rest) : Rest := r.skip (r.points.takeWhile isSpace).length

/-- The error that the rest starts with a fault. -/
def fail {α : Type} (r : Rest) (fault : SyntaxFault) : Except ReadError α := .error (.malformed fault r.position)

end Rest

/-! ## Texts -/

/-- The value of a hexadecimal digit. -/
def hexDigit? (c : Char) : Option Nat :=
  if '0' ≤ c ∧ c ≤ '9' then some (c.toNat - '0'.toNat)
  else if 'a' ≤ c ∧ c ≤ 'f' then some (c.toNat - 'a'.toNat + 10)
  else if 'A' ≤ c ∧ c ≤ 'F' then some (c.toNat - 'A'.toNat + 10)
  else none

/-- The value of four hexadecimal digits. -/
def hexUnit? (a b c d : CodePoint) : Option Nat := do
  let a ← hexDigit? (← a.char?)
  let b ← hexDigit? (← b.char?)
  let c ← hexDigit? (← c.char?)
  let d ← hexDigit? (← d.char?)
  return ((a * 16 + b) * 16 + c) * 16 + d

/-- The character that a backslash and a letter stand for. -/
def escaped? : Char → Option Char
  | '"' => some '"'
  | '\\' => some '\\'
  | '/' => some '/'
  | 'b' => some '\x08'
  | 'f' => some '\x0c'
  | 'n' => some '\n'
  | 'r' => some '\r'
  | 't' => some '\t'
  | _ => none

/-- Reads what follows a backslash at `position` in a text that began at `start`: the code point meant, and how many
code points were taken after the backslash. -/
def readEscape (start position : Nat) : List CodePoint → Except ReadError (CodePoint × Nat)
  | [] => .error (.malformed .unterminatedText start)
  | .char 'u' :: a :: b :: c :: d :: next :: rest =>
    match hexUnit? a b c d with
    | none => .error (.malformed .unicodeEscape (position + 1))
    | some unit =>
      match Text.isHighUnit unit, next, rest with
      | true, .char '\\', .char 'u' :: e :: f :: g :: h :: _ :: _ =>
        match hexUnit? e f g h with
        | none => .error (.malformed .unicodeEscape (position + 7))
        | some low =>
          if Text.isLowUnit low then .ok (.char (Text.joinUnits unit low), 11) else .ok (.ofNat unit, 5)
      | _, _, _ => .ok (.ofNat unit, 5)
  | .char c :: _ =>
    if c == 'u' then .error (.malformed .unicodeEscape (position + 1))
    else
      match escaped? c with
      | some c => .ok (.char c, 1)
      | none => .error (.malformed .unknownEscape position)
  | .half _ :: _ => .error (.malformed .unknownEscape position)

/-- Whether a code point must be escaped in a text. -/
def isControl (p : CodePoint) : Bool := p.char?.any fun c => c.toNat < 0x20

/-- Reads a text whose opening quote stands at `start`. The next `taken` code points belong to an escape that was read
before, and `done` holds the code points of the text so far, the last first. -/
def readText (start : Nat) :
    (position taken : Nat) → List CodePoint → (done : List CodePoint) → Except ReadError (WideText × Rest)
  | _, _, [], _ => .error (.malformed .unterminatedText start)
  | position, taken + 1, _ :: rest, done => readText start (position + 1) taken rest done
  | position, 0, p :: rest, done =>
    if p == .char '"' then .ok (⟨done.reverse⟩, ⟨position + 1, rest⟩)
    else if p == .char '\\' then
      match readEscape start position rest with
      | .ok (p, taken) => readText start (position + 1) taken rest (p :: done)
      | .error e => .error e
    else if isControl p then .error (.malformed .controlCharacter position)
    else readText start (position + 1) 0 rest (p :: done)

/-! ## Numbers -/

/-- The value of decimal digits. -/
def digitsValue (ds : List Char) : Nat := ds.foldl (fun n c => n * 10 + (c.toNat - '0'.toNat)) 0

/-- A fraction: the digits after a point, if there are any, and how many characters it takes. -/
def fraction (cs : List Char) : List Char × Nat :=
  match cs with
  | '.' :: rest =>
    let ds := rest.takeWhile Char.isDigit
    if ds.isEmpty then ([], 0) else (ds, ds.length + 1)
  | _ => ([], 0)

/-- An exponent, if there is one, and how many characters it takes. -/
def exponent (cs : List Char) : Int × Nat :=
  match cs with
  | e :: rest =>
    if e == 'e' || e == 'E' then
      let (sign, signed, digits) : Int × Nat × List Char :=
        match rest with
        | '-' :: ds => (-1, 1, ds)
        | '+' :: ds => (1, 1, ds)
        | ds => (1, 0, ds)
      let ds := digits.takeWhile Char.isDigit
      if ds.isEmpty then (0, 0) else (sign * digitsValue ds, ds.length + signed + 1)
    else (0, 0)
  | [] => (0, 0)

/-- Whether a character may occur in a number. -/
def isNumberChar (c : Char) : Bool := c.isDigit || c == '-' || c == '+' || c == '.' || c == 'e' || c == 'E'

/-- The characters that come first and may occur in a number. -/
def numberChars : List CodePoint → List Char
  | .char c :: ps => if isNumberChar c then c :: numberChars ps else []
  | _ => []

/-- Reads a number. -/
def readNumber (r : Rest) : Except ReadError (Json × Rest) :=
  let (negative, body) : Bool × List Char :=
    match numberChars r.points with
    | '-' :: cs => (true, cs)
    | cs => (false, cs)
  let whole :=
    match body with
    | '0' :: _ => ['0']
    | cs => cs.takeWhile Char.isDigit
  if whole.isEmpty then r.fail .expectedValue
  else
    let (places, placesLength) := fraction (body.drop whole.length)
    let (power, powerLength) := exponent (body.drop (whole.length + placesLength))
    let rest := r.skip ((if negative then 1 else 0) + whole.length + placesLength + powerLength)
    if placesLength + powerLength = 0 then
      if Text.usualDigits < whole.length then .error .beyondLimits
      else .ok (.int (if negative then -digitsValue whole else digitsValue whole), rest)
    else
      match Decimal.toDouble? ⟨negative, digitsValue (whole ++ places), power - places.length⟩ with
      | some x => .ok (.decimal x, rest)
      | none => .ok (.notFinite (if negative then "-Infinity" else "Infinity"), rest)

/-! ## Values -/

/-- The words that are values. -/
def words : List (List Char × Json) := [
  ("null".toList, .null), ("true".toList, .bool true), ("false".toList, .bool false), ("NaN".toList, .notFinite "NaN"),
  ("Infinity".toList, .notFinite "Infinity"), ("-Infinity".toList, .notFinite "-Infinity")]

/-- An array or object that is still open, with what it holds so far, in an array the last first. An object also has
the key of the value to come. -/
inductive Frame where
  | items (done : List Json)
  | members (done : List (WideText × Json)) (key : WideText)

/-- What the reader does next: it reads a value, or it goes on after one. -/
inductive Phase where
  | value
  | after (v : Json)

/-- Reads a key and the colon after it. -/
def readKey (r : Rest) : Except ReadError (WideText × Rest) :=
  match r.points with
  | .char '"' :: ps => do
    let (key, r) ← readText r.position (r.position + 1) 0 ps []
    let r := r.skipSpaces
    match r.points with
    | .char ':' :: _ => .ok (key, (r.skip 1).skipSpaces)
    | _ => r.fail .expectedColon
  | _ => r.fail .expectedKey

/-- Reads a value that is neither array nor object. -/
def readScalar (r : Rest) : Except ReadError (Json × Rest) :=
  match r.points with
  | .char '"' :: ps => do
    let (s, r) ← readText r.position (r.position + 1) 0 ps []
    .ok (.text s, r)
  | ps =>
    match words.find? fun w => (w.1.map CodePoint.char).isPrefixOf ps with
    | some w => .ok (w.2, r.skip w.1.length)
    | none => readNumber r

/-- Goes on reading, with the open arrays and objects on a stack, of which there may be `depth`. Every step but the last
takes a code point or turns from a value to what comes after it, so that twice the length of the text is fuel enough. -/
def readOn (depth : Nat) : (fuel : Nat) → List Frame → Phase → Rest → Except ReadError Json
  | 0, _, _, r => r.fail .expectedValue
  | fuel + 1, stack, .value, r =>
    match r.points with
    | .char '[' :: _ =>
      let r := (r.skip 1).skipSpaces
      if depth ≤ stack.length then .error .beyondLimits
      else
        match r.points with
        | .char ']' :: _ => readOn depth fuel stack (.after (.array [])) (r.skip 1)
        | _ => readOn depth fuel (.items [] :: stack) .value r
    | .char '\x7b' :: _ =>
      let r := (r.skip 1).skipSpaces
      if depth ≤ stack.length then .error .beyondLimits
      else
        match r.points with
        | .char '\x7d' :: _ => readOn depth fuel stack (.after (.object [])) (r.skip 1)
        | _ =>
          match readKey r with
          | .ok (key, r) => readOn depth fuel (.members [] key :: stack) .value r
          | .error e => .error e
    | _ =>
      match readScalar r with
      | .ok (v, r) => readOn depth fuel stack (.after v) r
      | .error e => .error e
  | fuel + 1, stack, .after v, r =>
    let r := r.skipSpaces
    match stack with
    | [] => if r.points.isEmpty then .ok v else r.fail .trailingText
    | .items done :: stack =>
      match r.points with
      | .char ']' :: _ => readOn depth fuel stack (.after (.array (v :: done).reverse)) (r.skip 1)
      | .char ',' :: _ => readOn depth fuel (.items (v :: done) :: stack) .value (r.skip 1).skipSpaces
      | _ => r.fail .expectedComma
    | .members done key :: stack =>
      let members := setMember done key v
      match r.points with
      | .char '\x7d' :: _ => readOn depth fuel stack (.after (.object members)) (r.skip 1)
      | .char ',' :: _ =>
        match readKey (r.skip 1).skipSpaces with
        | .ok (key, r) => readOn depth fuel (.members members key :: stack) .value r
        | .error e => .error e
      | _ => r.fail .expectedComma

/-- The value that a body holds, in whatever encoding it is sent, if no more than `depth` arrays and objects are nested in
it. -/
def read (depth : Nat) (body : List UInt8) : Except ReadError Json :=
  match decode? body with
  | none => .error .undecodable
  | some points => readOn depth (2 * points.length + 2) [] .value (Rest.mk 0 points).skipSpaces

end SnippetLanguage.Json

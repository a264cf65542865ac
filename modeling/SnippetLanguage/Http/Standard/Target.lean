import SnippetLanguage.Http.Message
import SnippetLanguage.Json.Reader
import SnippetLanguage.Text.Utf8

/-!
# Request targets

The target of a request is a path, in which bytes may be written as a percent sign and two hexadecimal digits, and
perhaps a query after a question mark.

* `decode` yields the characters of a path, `quote` writes an address so that it can stand in a header.
* `shown` is the path of an address that is made of a path.
-/

namespace SnippetLanguage.Http.Target

/-- The path of a target as it was sent. -/
def rawPath (target : String) : List Char := target.toList.takeWhile (· != '?')

/-- The query of a target, without the question mark; none if it is empty or missing. -/
def query (target : String) : String := String.ofList ((target.toList.dropWhile (· != '?')).drop 1)

/-- The byte that the two characters after a percent sign stand for. -/
def escapedByte? : List Char → Option Nat
  | a :: b :: _ => do
    let m ← Json.hexDigit? a
    let n ← Json.hexDigit? b
    return m * 16 + n
  | _ => none

/-- The characters of a path. What is ASCII counts as bytes, with escapes resolved, and is put into `bytes`, the last
first; other characters stand for themselves and end a run of bytes. The next `taken` characters belong to an escape
that was resolved before. -/
def decodeFrom : (bytes : List Nat) → (taken : Nat) → List Char → List Char
  | bytes, _, [] => Text.decodeUtf8 bytes.reverse
  | bytes, taken + 1, _ :: rest => decodeFrom bytes taken rest
  | bytes, 0, c :: rest =>
    if c == '%' then
      match escapedByte? rest with
      | some n => decodeFrom (n :: bytes) 2 rest
      | none => decodeFrom (c.toNat :: bytes) 0 rest
    else if c.toNat < 128 then decodeFrom (c.toNat :: bytes) 0 rest
    else Text.decodeUtf8 bytes.reverse ++ c :: decodeFrom [] 0 rest

/-- The characters of a path. -/
def decode (path : List Char) : List Char := decodeFrom [] 0 path

/-- Whether a character stands for itself in an address. -/
def isPlain (c : Char) : Bool := c.isAlphanum || "_.-~:/%#?=@[]!$&'()*+,;".toList.contains c

/-- An upper-case hexadecimal digit. -/
def hexDigit (n : Nat) : Char := (Nat.digitChar n).toUpper

/-- An address in which all other characters are written byte by byte. -/
def quote (address : List Char) : List Char :=
  address.flatMap fun c =>
    if isPlain c then [c] else (Text.utf8Bytes c).flatMap fun b => ['%', hexDigit (b / 16), hexDigit (b % 16)]

/-- The path with the characters escaped that would end it or that a client might take for a slash. -/
def escape (path : List Char) : List Char :=
  path.flatMap fun c =>
    if c == '?' then ['%', '3', 'F'] else if c == '#' then ['%', '2', '3'] else if c == '\\' then ['%', '5', 'C'] else [c]

/-- A path with a slash at its start, unless it is empty. -/
def rooted (path : List Char) : List Char :=
  match path with
  | [] => []
  | c :: _ => if c == '/' then path else '/' :: path

/-- The path of an address that is made of a path: from the root and on one line. -/
def shown (path : List Char) : List Char :=
  (rooted (escape path)).filter fun c => !(c == '\t' || c == '\n' || c == '\r')

/-- The head of a request with a target as it was sent. -/
def head (method target : String) (headers : List (String × String)) (client : Option String) : Head where
  method := method
  path := decode (rawPath target)
  query := query target
  headers := headers
  client := client

end SnippetLanguage.Http.Target

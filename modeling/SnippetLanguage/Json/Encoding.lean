import SnippetLanguage.Text.Utf8

/-!
# Encodings of JSON

A byte order mark tells how a JSON text is written. Without one the text starts with an ASCII character, so that the zeros
among its first bytes tell whether it is written with one, two or four bytes for a character, and in which order.

* `decode?` yields the code points of a body, if its bytes are right.
-/

namespace SnippetLanguage.Json

/-- How the characters of a JSON text are written as bytes. -/
inductive Encoding where
  | utf8
  | utf16 (bigEndian : Bool)
  | utf32 (bigEndian : Bool)
  deriving Repr, DecidableEq

/-- The encoding that the first bytes of a text without a mark tell. -/
def Encoding.ofBytes : List Nat → Encoding
  | a :: b :: c :: d :: _ =>
    if a = 0 then if b = 0 then .utf32 true else .utf16 true
    else if b = 0 then if c = 0 ∧ d = 0 then .utf32 false else .utf16 false
    else .utf8
  | [a, b] => if a = 0 then .utf16 true else if b = 0 then .utf16 false else .utf8
  | _ => .utf8

/-- The encoding of a text, and its bytes without the mark. -/
def Encoding.ofText : List Nat → Encoding × List Nat
  | 0 :: 0 :: 0xFE :: 0xFF :: bytes => (.utf32 true, bytes)
  | 0xFF :: 0xFE :: 0 :: 0 :: bytes => (.utf32 false, bytes)
  | 0xFE :: 0xFF :: bytes => (.utf16 true, bytes)
  | 0xFF :: 0xFE :: bytes => (.utf16 false, bytes)
  | 0xEF :: 0xBB :: 0xBF :: bytes => (.utf8, bytes)
  | bytes => (.ofBytes bytes, bytes)

/-- The number that bytes stand for, the most significant first. -/
def ofBytes (bytes : List Nat) : Nat := bytes.foldl (fun n b => n * 256 + b) 0

/-- The numbers of two bytes each; none if a byte is left over. -/
def units16? (bigEndian : Bool) : List Nat → Option (List Nat)
  | [] => some []
  | [_] => none
  | a :: b :: rest => (units16? bigEndian rest).map ((if bigEndian then ofBytes [a, b] else ofBytes [b, a]) :: ·)

/-- The numbers of four bytes each; none if bytes are left over. -/
def units32? (bigEndian : Bool) : List Nat → Option (List Nat)
  | [] => some []
  | a :: b :: c :: d :: rest =>
    (units32? bigEndian rest).map ((if bigEndian then ofBytes [a, b, c, d] else ofBytes [d, c, b, a]) :: ·)
  | _ => none

/-- The code points of code units of sixteen bits. -/
def readUnits : List Nat → List CodePoint
  | [] => []
  | [unit] => [.ofNat unit]
  | high :: low :: rest =>
    if Text.isHighUnit high && Text.isLowUnit low then .char (Text.joinUnits high low) :: readUnits rest
    else .ofNat high :: readUnits (low :: rest)

/-- The code points of bytes in an encoding, if the bytes are right. -/
def Encoding.decode? (bytes : List Nat) : Encoding → Option (List CodePoint)
  | utf8 => Text.wideUtf8? bytes
  | utf16 bigEndian => (units16? bigEndian bytes).map readUnits
  | utf32 bigEndian =>
    match units32? bigEndian bytes with
    | some units => if units.all (· < 0x110000) then some (units.map .ofNat) else none
    | none => none

/-- The code points of a text that was sent as bytes. -/
def decode? (body : List UInt8) : Option (List CodePoint) :=
  let (encoding, bytes) := Encoding.ofText (body.map UInt8.toNat)
  encoding.decode? bytes

end SnippetLanguage.Json

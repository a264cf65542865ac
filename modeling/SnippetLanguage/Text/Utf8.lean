import SnippetLanguage.Text.CodePoint

/-!
# Bytes of a text

The UTF-8 bytes of characters, and the characters of bytes. Where a path is read (`decodeUtf8`), bytes that are no UTF-8
are replaced: each longest start of a character that does not go on becomes one replacement character. Where a body is
read (`wideUtf8?`), such bytes are an error, but three bytes may stand for half of a surrogate pair.
-/

namespace SnippetLanguage.Text

/-- The bytes of a character. -/
def utf8Bytes (c : Char) : List Nat :=
  let n := c.toNat
  if n < 0x80 then [n]
  else if n < 0x800 then [0xC0 + n / 64, 0x80 + n % 64]
  else if n < 0x10000 then [0xE0 + n / 4096, 0x80 + n / 64 % 64, 0x80 + n % 64]
  else [0xF0 + n / 262144, 0x80 + n / 4096 % 64, 0x80 + n / 64 % 64, 0x80 + n % 64]

/-- A character that has been started: its bits so far, how many bytes are still to come and the bounds of the next. -/
structure PartialChar where
  bits : Nat
  missing : Nat
  least : Nat
  greatest : Nat

/-- What the first byte of a character starts, unless it is a character by itself or starts none. `lastAfterED` is the
greatest byte that may follow the one with which halves of surrogate pairs start. -/
def startChar? (lastAfterED b : Nat) : Option PartialChar :=
  if 0xC2 ≤ b ∧ b ≤ 0xDF then some ⟨b - 0xC0, 1, 0x80, 0xBF⟩
  else if b = 0xE0 then some ⟨0, 2, 0xA0, 0xBF⟩
  else if b = 0xED then some ⟨0xD, 2, 0x80, lastAfterED⟩
  else if 0xE1 ≤ b ∧ b ≤ 0xEF then some ⟨b - 0xE0, 2, 0x80, 0xBF⟩
  else if b = 0xF0 then some ⟨0, 3, 0x90, 0xBF⟩
  else if b = 0xF4 then some ⟨4, 3, 0x80, 0x8F⟩
  else if 0xF1 ≤ b ∧ b ≤ 0xF3 then some ⟨b - 0xF0, 3, 0x80, 0xBF⟩
  else none

/-- The replacement of bytes that are no character. -/
def replacement : Char := '\ufffd'

/-- What a byte that starts a character yields, and what is left open by it. -/
def firstByte (b : Nat) : List Char × Option PartialChar :=
  if b < 0x80 then ([Char.ofNat b], none)
  else
    match startChar? 0x9F b with
    | some p => ([], some p)
    | none => ([replacement], none)

/-- The characters of bytes that go on from a character that may have been started. -/
def decodeFrom : Option PartialChar → List Nat → List Char
  | none, [] => []
  | some _, [] => [replacement]
  | none, b :: bs => (firstByte b).1 ++ decodeFrom (firstByte b).2 bs
  | some p, b :: bs =>
    if p.least ≤ b ∧ b ≤ p.greatest then
      let bits := p.bits * 64 + (b - 0x80)
      if p.missing = 1 then Char.ofNat bits :: decodeFrom none bs
      else decodeFrom (some ⟨bits, p.missing - 1, 0x80, 0xBF⟩) bs
    else replacement :: (firstByte b).1 ++ decodeFrom (firstByte b).2 bs

/-- The characters of bytes. -/
def decodeUtf8 (bs : List Nat) : List Char := decodeFrom none bs

/-- The code points of bytes that go on from a code point that may have been started, behind the reversed `done`; none
if the bytes are wrong. -/
def wideFrom? (done : List CodePoint) : Option PartialChar → List Nat → Option (List CodePoint)
  | none, [] => some done.reverse
  | some _, [] => none
  | none, b :: bs =>
    if b < 0x80 then wideFrom? (.char (Char.ofNat b) :: done) none bs
    else
      match startChar? 0xBF b with
      | some p => wideFrom? done (some p) bs
      | none => none
  | some p, b :: bs =>
    if p.least ≤ b ∧ b ≤ p.greatest then
      let bits := p.bits * 64 + (b - 0x80)
      if p.missing = 1 then wideFrom? (.ofNat bits :: done) none bs
      else wideFrom? done (some ⟨bits, p.missing - 1, 0x80, 0xBF⟩) bs
    else none

/-- The code points of bytes, if they are right. -/
def wideUtf8? (bs : List Nat) : Option (List CodePoint) := wideFrom? [] none bs

/-- The bytes of a text. -/
def encodeUtf8 (s : String) : List UInt8 := s.toList.flatMap fun c => (utf8Bytes c).map UInt8.ofNat

end SnippetLanguage.Text

import SnippetLanguage.Schema.Fault
import SnippetLanguage.Text.Blank

/-!
# Integers in given values

An integer may be given as a number, as a truth value or as a text. The plain form of an integer in a text is a minus
sign or none and digits without leading zeros. Other forms are brought into the plain form first (`plainForm?`): blank
ends, a plus sign, leading zeros, a fraction of zeros only and single underscores are dropped.

* `readBounded_bounds`: what is read between two bounds lies between them.
-/

namespace SnippetLanguage.Schema

/-! ## The plain form -/

/-- How many characters the plain form of an integer may have. -/
def maxIntegerLength : Nat := 4300

/-- Reads an integer in its plain form. -/
def readPlain (cs : List Char) : Except Fault Int :=
  let (negative, body) : Bool × List Char :=
    match cs with
    | '-' :: ds => (true, ds)
    | ds => (false, ds)
  let digits := body.takeWhile Char.isDigit
  match body with
  | ['0'] => .ok 0
  | '0' :: _ => .error .integerUnreadable
  | _ =>
    if maxIntegerLength < digits.length + negative.toNat then .error .integerTooLong
    else if digits.isEmpty || digits.length != body.length then .error .integerUnreadable
    else .ok (if negative then -Json.digitsValue digits else Json.digitsValue digits)

/-! ## Other forms -/

/-- Whether a blank may surround an integer; the four information separators may not. -/
def isIntegerSpace (c : Char) : Bool := Text.isBlank c && !(28 ≤ c.toNat && c.toNat ≤ 31)

/-- Whether the part of an integer that counts may start with the character. -/
def startsInteger (c : Char) : Bool := ('1' ≤ c && c ≤ '9') || c == '-'

/-- Drops a plus sign, which no minus sign may follow. -/
def dropPlus? : List Char → Option (List Char)
  | '+' :: '-' :: _ => none
  | '+' :: cs => some cs
  | cs => some cs

/-- Drops leading zeros and underscores after the zero or underscore `last`, which stays if nothing or a point comes
next. -/
def dropZerosAfter? (last : Char) : List Char → Option (List Char)
  | [] => some [last]
  | c :: cs =>
    if c == '0' || c == '_' then dropZerosAfter? c cs
    else if startsInteger c then some (c :: cs)
    else if c == '.' then some (last :: c :: cs)
    else none

/-- Drops leading zeros, also behind a minus sign. -/
def dropZeros? : List Char → Option (List Char)
  | [] => none
  | '-' :: '0' :: cs => (dropZerosAfter? '0' cs).map ('-' :: ·)
  | c :: cs => if c == '0' then dropZerosAfter? c cs else if startsInteger c then some (c :: cs) else none

/-- Drops a fraction, which is a point and zeros. -/
def dropFraction? (cs : List Char) : Option (List Char) :=
  match cs.dropWhile (· != '.') with
  | [] => some cs
  | _ :: zeros => if !zeros.isEmpty && zeros.all (· == '0') then some (cs.takeWhile (· != '.')) else none

/-- Whether two underscores stand side by side. -/
def hasDoubleUnderscore : List Char → Bool
  | a :: b :: cs => (a == '_' && b == '_') || hasDoubleUnderscore (b :: cs)
  | _ => false

/-- Drops underscores, if each of them stands alone and none at an end. -/
def dropUnderscores (cs : List Char) : List Char :=
  if cs.head? == some '_' || cs.getLast? == some '_' || hasDoubleUnderscore cs then cs else cs.filter (· != '_')

/-- The plain form of an integer. -/
def plainForm? (cs : List Char) : Option (List Char) := do
  let cs := ((cs.dropWhile isIntegerSpace).reverse.dropWhile isIntegerSpace).reverse
  let cs ← dropFraction? (← dropZeros? (← dropPlus? cs))
  return dropUnderscores cs

/-- Reads the integer that a text stands for. -/
def readIntegerText (s : String) : Except Fault Int :=
  match readPlain s.toList with
  | .error .integerUnreadable =>
    match plainForm? s.toList with
    | some cs => readPlain cs
    | none => .error .integerUnreadable
  | r => r

/-! ## Integers -/

/-- The bound of the decimal numbers that can be integers: two to the power 63, itself not included. -/
def decimalBound : Nat := Nat.pow 2 63

/-- Reads an integer. -/
def readInteger : Json → Except Fault Int
  | .int n => .ok n
  | .bool b => .ok (if b then 1 else 0)
  | .decimal x =>
    match x.integer? with
    | none => .error .integerFractional
    | some n => if n.natAbs < decimalBound then .ok n else .error .integerTooLong
  | .notFinite _ => .error .notFinite
  | .text s =>
    match s.text? with
    | some s => readIntegerText s
    | none => .error .integerUnreadable
  | _ => .error .notInteger

/-- Reads an integer between two bounds, both allowed. -/
def readBounded (least greatest : Int) (v : Json) : Except Fault Int := do
  let n ← readInteger v
  if n < least then .error (.below least)
  else if greatest < n then .error (.above greatest)
  else .ok n

theorem readBounded_bounds {least greatest n : Int} {v : Json} (h : readBounded least greatest v = .ok n) :
    least ≤ n ∧ n ≤ greatest := by
  simp only [readBounded, bind, Except.bind] at h
  split at h
  · cases h
  · split at h
    · cases h
    · split at h
      · cases h
      · cases h
        omega

/-- Reads a text. -/
def readText : Json → Except Fault String
  | .text s =>
    match s.text? with
    | some s => .ok s
    | none => .error .notCharacters
  | _ => .error .notText

end SnippetLanguage.Schema

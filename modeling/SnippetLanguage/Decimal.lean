/-!
# Decimal numbers

A decimal number is a sign, a mantissa and a power of ten. It is written as digits around a point while it is neither
very small nor very large, and otherwise as one digit, a fraction and an exponent of at least two digits.
-/

namespace SnippetLanguage

/-- A decimal number: `mantissa` times ten to the power `exponent`, with its sign. Zero has a sign, too. -/
structure Decimal where
  negative : Bool
  mantissa : Nat
  exponent : Int
  deriving Repr, DecidableEq

namespace Decimal

/-- The integer that a decimal number is, if it has no fraction. -/
def integer? (x : Decimal) : Option Int :=
  let signed : Int := if x.negative then -x.mantissa else x.mantissa
  if 0 ≤ x.exponent then some (signed * Nat.pow 10 x.exponent.toNat)
  else
    let d : Int := Nat.pow 10 x.exponent.natAbs
    if signed % d = 0 then some (signed / d) else none

/-- Drops zeros from the end of the digits of a mantissa and counts them. -/
def trimZeros : List Char → List Char × Nat
  | ds => ((ds.reverse.dropWhile (· == '0')).reverse, (ds.reverse.takeWhile (· == '0')).length)

/-- The digits of an exponent, two or more. -/
def exponentDigits (n : Nat) : List Char :=
  let ds := Nat.toDigits 10 n
  if ds.length < 2 then '0' :: ds else ds

/-- The text of the number with the given digits, of which the first `point` stand before the point. -/
def place (digits : List Char) (point : Int) : List Char :=
  if point ≤ -4 ∨ 16 < point then
    let exponent := point - 1
    let mark := if exponent < 0 then '-' else '+'
    match digits with
    | [] => ['0', '.', '0']
    | [d] => d :: 'e' :: mark :: exponentDigits exponent.natAbs
    | d :: ds => d :: '.' :: ds ++ 'e' :: mark :: exponentDigits exponent.natAbs
  else if point ≤ 0 then '0' :: '.' :: List.replicate point.natAbs '0' ++ digits
  else
    let n := point.toNat
    if digits.length ≤ n then digits ++ List.replicate (n - digits.length) '0' ++ ['.', '0']
    else digits.take n ++ '.' :: digits.drop n

/-- The text of a decimal number. -/
def text (x : Decimal) : String :=
  let digits :=
    if x.mantissa = 0 then ['0', '.', '0']
    else
      let (digits, zeros) := trimZeros (Nat.toDigits 10 x.mantissa)
      place digits (digits.length + x.exponent + zeros)
  String.ofList (if x.negative then '-' :: digits else digits)

end Decimal

end SnippetLanguage

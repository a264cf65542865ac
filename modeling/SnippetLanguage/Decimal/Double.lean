import SnippetLanguage.Decimal

/-!
# Doubles and their shortest decimals

A double is a whole number of at most 53 binary digits times a power of two. A decimal number stands for the double
nearest to it, and a double is shown by the decimal number with the fewest digits that stands for it; of several such
numbers by the one nearest to the double. All of it is computed with natural numbers, without rounding.

* `toDouble?` rounds a decimal number to the double it stands for and shows that double.
-/

namespace SnippetLanguage

/-- A double that is not negative: `mantissa` times two to the power `exponent`. -/
structure Double where
  mantissa : Nat
  exponent : Int
  deriving Repr, DecidableEq

/-- The quotient of two numbers, rounded to the nearest whole number; a half goes to the even neighbour. -/
def roundQuotient (n d : Nat) : Nat :=
  if d < 2 * (n % d) ∨ (2 * (n % d) = d ∧ n / d % 2 = 1) then n / d + 1 else n / d

namespace Double

/-- The least exponent of a double. -/
def minExponent : Int := -1074

/-- The greatest exponent of a double. -/
def maxExponent : Int := 971

/-- The number of mantissas: two to the power 53. -/
def mantissaBound : Nat := Nat.pow 2 53

/-- A quotient divided by a power of two, as numerator and denominator. -/
def scale (n d : Nat) (exponent : Int) : Nat × Nat :=
  (n * Nat.pow 2 (-exponent).toNat, d * Nat.pow 2 exponent.toNat)

/-- The double nearest to the quotient of two numbers that are not zero; none if it would be too large. -/
def nearest? (n d : Nat) : Option Double :=
  let guess : Int := n.log2 - d.log2 - 53
  let (n', d') := scale n d guess
  let exponent := max minExponent (if d' * mantissaBound ≤ n' then guess + 1 else guess)
  let (n', d') := scale n d exponent
  let mantissa := roundQuotient n' d'
  let x : Double := if mantissa = mantissaBound then ⟨mantissa / 2, exponent + 1⟩ else ⟨mantissa, exponent⟩
  if maxExponent < x.exponent then none else some x

/-- What a quarter of the last place of the double is in units of ten to the power `k`, as a quotient. -/
def quarter (x : Double) (k : Int) : Nat × Nat :=
  let (n, d) := scale 1 1 (2 - x.exponent)
  (n * Nat.pow 10 (-k).toNat, d * Nat.pow 10 k.toNat)

/-- Whether `digits` units of ten to the power `k` stand for the double: they lie between the middles to the next
doubles below and above. The middles themselves stand for the double if its mantissa is even. -/
def isShownBy (x : Double) (digits : Nat) (k : Int) : Bool :=
  let (n, d) := x.quarter k
  let low := if x.mantissa * 2 = mantissaBound ∧ minExponent < x.exponent then 1 else 2
  let least := (4 * x.mantissa - low) * n
  let greatest := (4 * x.mantissa + 2) * n
  if x.mantissa % 2 = 0 then least ≤ digits * d && digits * d ≤ greatest
  else least < digits * d && digits * d < greatest

/-- The number of units of ten to the power `k` that stands for the double and is nearest to it, if there is one. -/
def digits? (x : Double) (k : Int) : Option Nat :=
  let (n, d) := x.quarter k
  let lower := 4 * x.mantissa * n / d
  let nearer := roundQuotient (4 * x.mantissa * n) d
  let further := if nearer = lower then lower + 1 else lower
  if nearer ≠ 0 ∧ x.isShownBy nearer k then some nearer
  else if further ≠ 0 ∧ x.isShownBy further k then some further
  else none

/-- Looks for the decimal with the fewest digits: in units of ten to the power `k` first, then in smaller units. -/
def search (x : Double) : (fuel : Nat) → (k : Int) → Nat × Int
  | 0, k => (roundQuotient (4 * x.mantissa * (x.quarter k).1) (x.quarter k).2, k)
  | fuel + 1, k =>
    match x.digits? k with
    | some digits => (digits, k)
    | none => search x fuel (k - 1)

/-- The mantissa and the exponent of the decimal that shows a double other than zero. Seventeen digits are enough for
every double, and the first unit is at most three digits too large. -/
def shortest (x : Double) : Nat × Int :=
  search x 21 (Int.fdiv ((x.mantissa.log2 + x.exponent) * 30103) 100000 + 2)

end Double

/-- The decimal that shows the double which a decimal stands for; none if it is too large to stand for one. -/
def Decimal.toDouble? (x : Decimal) : Option Decimal :=
  let size : Int := x.mantissa.log2 * 30103 / 100000 + x.exponent
  if x.mantissa = 0 ∨ size < -330 then some ⟨x.negative, 0, 0⟩
  else if 310 < size then none
  else
    match Double.nearest? (x.mantissa * Nat.pow 10 x.exponent.toNat) (Nat.pow 10 (-x.exponent).toNat) with
    | none => none
    | some y =>
      if y.mantissa = 0 then some ⟨x.negative, 0, 0⟩
      else some ⟨x.negative, y.shortest.1, y.shortest.2⟩

end SnippetLanguage

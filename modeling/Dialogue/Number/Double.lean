import Dialogue.Number.Power
/-!
# Finite doubles, exactly

A double-precision number is kept as a sign, a significand and a power of two, so that every
question about it is one about natural numbers: nothing is computed in machine floats, and a
proof can evaluate whatever the program does.  Rounding takes a quotient of natural numbers to the
nearest double, a tie going to the even significand; a quotient that rounds beyond the largest
double has none.  Infinities and NaN are not values of this type.
-/

namespace Dialogue

/-- The significands and exponents that name a finite double once each: at most 53 bits, exactly 53
unless the exponent is the least one. -/
def Double.Canonical (significand : Nat) (exponent : Int) : Prop :=
  significand < twoTo 53 ∧ -1074 ≤ exponent ∧ exponent ≤ 971 ∧
    (twoTo 52 ≤ significand ∨ exponent = -1074)

instance (significand : Nat) (exponent : Int) :
    Decidable (Double.Canonical significand exponent) :=
  inferInstanceAs (Decidable (_ ∧ _))

/-- The finite double `± significand · 2 ^ exponent`. -/
structure Double where
  negative : Bool
  significand : Nat
  exponent : Int
  canonical : Double.Canonical significand exponent
deriving DecidableEq

namespace Double

/-- The two zeros. -/
def zero (negative : Bool) : Double :=
  ⟨negative, 0, -1074, by decide⟩

def isZero (x : Double) : Bool :=
  x.significand == 0

/-- The same magnitude with the other sign. -/
def neg (x : Double) : Double :=
  { x with negative := !x.negative }

/-- Numeric equality: the two zeros are equal, all other doubles only to themselves. -/
def equal (x y : Double) : Bool :=
  (x.isZero && y.isZero) ||
    (x.negative == y.negative && x.significand == y.significand && x.exponent == y.exponent)

instance : BEq Double := ⟨equal⟩

/-- A double equals itself, as none of them is a NaN. -/
theorem equal_self (x : Double) : x.equal x = true := by
  simp [equal]

/-- The double with these parts, if they name one; parts that are too large name none. -/
def ofParts? (negative : Bool) (significand : Nat) (exponent : Int) : Option Double :=
  if canonical : Canonical significand exponent then
    some ⟨negative, significand, exponent, canonical⟩
  else
    none

/-- The integer nearest to a quotient, a tie going to the even one. -/
def nearestEven (numerator denominator : Nat) : Nat :=
  let quotient := numerator / denominator
  let twice := 2 * (numerator % denominator)
  if twice < denominator then quotient
  else if denominator < twice then quotient + 1
  else if quotient % 2 == 0 then quotient
  else quotient + 1

/-- A quotient divided by a power of two, as numerator and denominator. -/
def unscale (numerator denominator : Nat) (exponent : Int) : Nat × Nat :=
  (numerator * twoTo (-exponent).toNat, denominator * twoTo exponent.toNat)

/-- The double nearest to a quotient of natural numbers, or none when it rounds beyond the largest
one.  The exponent is chosen so that the significand has 53 bits where the range allows it. -/
def ofRatio? (negative : Bool) (numerator denominator : Nat) : Option Double :=
  if numerator == 0 then some (zero negative)
  else
    let order : Int := (numerator.log2 : Int) - (denominator.log2 : Int)
    let low := max (order - 53) (-1074)
    let (n, d) := unscale numerator denominator low
    let exponent := if n / d < twoTo 53 then low else low + 1
    let (n, d) := unscale numerator denominator exponent
    let significand := nearestEven n d
    if significand == twoTo 53 then ofParts? negative (twoTo 52) (exponent + 1)
    else ofParts? negative significand exponent

/-- The magnitude as a quotient of natural numbers. -/
def ratio (x : Double) : Nat × Nat :=
  (x.significand * twoTo x.exponent.toNat, twoTo (-x.exponent).toNat)

/-- The rounded product, if it is finite. -/
def mul? (x y : Double) : Option Double :=
  let (a, b) := x.ratio
  let (c, d) := y.ratio
  ofRatio? (x.negative != y.negative) (a * c) (b * d)

/-- The rounded quotient, if it is finite; the divisor is not zero where this is used. -/
def div? (x y : Double) : Option Double :=
  let (a, b) := x.ratio
  let (c, d) := y.ratio
  ofRatio? (x.negative != y.negative) (a * d) (b * c)

/-- The magnitude with its fraction cut off. -/
def whole (x : Double) : Nat :=
  let (a, b) := x.ratio
  a / b

/-- The word nearest to a double after cutting off its fraction: what lies below the range becomes
its least word and what lies above it becomes its greatest. -/
def toWord (x : Double) : UInt64 :=
  if x.negative then 0 else UInt64.ofNat (min x.whole (UInt64.size - 1))

end Double

end Dialogue

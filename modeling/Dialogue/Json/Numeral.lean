import Dialogue.Json.Basic
import Dialogue.Number.Decimal
/-!
# Numerals of JSON text

A numeral is the spelling of a number: sign, whole digits, and possibly a fraction and an exponent.
An integer that fits one of the integer kinds is kept exactly.  Every other numeral is a double,
found in two steps, each of which rounds: the leading digits that fit a 64-bit word are taken as
the significand, and it is then multiplied or divided by a power of ten.  So a numeral of many
digits may end one place beside the nearest double.  A numeral that is too large for a double is
refused.
-/

namespace Dialogue

/-- A sign and the digits of a power of ten. -/
structure ExponentPart where
  negative : Bool
  digits : List Char
deriving DecidableEq, Repr

/-- The spelling of a number. -/
structure Numeral where
  negative : Bool
  whole : List Char
  fraction : Option (List Char)
  exponent : Option ExponentPart
deriving DecidableEq, Repr

namespace Numeral

/-- Add digits to a significand while it stays a 64-bit word; the digits left over come second. -/
def accumulate (significand : Nat) : List Char → Nat × List Char
  | [] => (significand, [])
  | c :: rest =>
      if 10 * significand + digitValue c < UInt64.size then
        accumulate (10 * significand + digitValue c) rest
      else (significand, c :: rest)

/-- Significand and power of ten of the digits before the exponent.  Whole digits that do not fit
only raise the power; fraction digits that do not fit are dropped. -/
def significand (numeral : Numeral) : Nat × Int :=
  let (whole, left) := accumulate 0 numeral.whole
  let digits := numeral.fraction.getD []
  let (value, dropped) := accumulate whole digits
  (value, left.length - (digits.length - dropped.length : Nat))

/-- Multiply or divide by a power of ten that is itself rounded to a double, in steps of at most
`10 ^ 308`.  Large divisors are reached in several steps; a few steps empty any significand. -/
def scale : Nat → Double → Int → Option Double
  | steps, x, exponent =>
      if exponent.natAbs ≤ 308 then
        (Double.ofRatio? false (tenTo exponent.natAbs) 1).bind fun power =>
          if 0 ≤ exponent then x.mul? power else x.div? power
      else if x.isZero then some x
      else if 0 ≤ exponent then none
      else
        match steps with
        | 0 => some (Double.zero false)
        | steps + 1 =>
            (Double.ofRatio? false (tenTo 308) 1).bind fun power =>
              (x.div? power).bind fun x => scale steps x (exponent + 308)

/-- The double of a numeral, if it is not too large.  An exponent of more than 31 bits is too large
unless it belongs to a zero or is negative, when the number is a zero. -/
def toDouble? (numeral : Numeral) : Option Double :=
  let (digits, power) := numeral.significand
  let magnitude :=
    match numeral.exponent with
    | none => (Double.ofRatio? false digits 1).bind (scale 4 · power)
    | some part =>
        let size := digitsValue 0 part.digits
        if size < twoTo 31 then
          (Double.ofRatio? false digits 1).bind
            (scale 4 · (if part.negative then power - size else power + size))
        else if digits != 0 && !part.negative then none
        else some (Double.zero false)
  magnitude.map fun x => if numeral.negative then x.neg else x

/-- The number that a numeral names, if it is not too large. -/
def number? (numeral : Numeral) : Option Number :=
  let integer :=
    match numeral.fraction, numeral.exponent with
    | none, none => Number.ofMagnitude? numeral.negative (digitsValue 0 numeral.whole)
    | _, _ => none
  match integer with
  | some number => some number
  | none => numeral.toDouble?.map .double

end Numeral

end Dialogue

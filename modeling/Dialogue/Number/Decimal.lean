import Dialogue.Number.Double
/-!
# Decimals for doubles

A positive decimal is a coefficient and a power of ten.  `Decimal.toDouble?` reads one correctly
rounded, and `Double.shortest` finds, among the decimals that read back as a given double, the one
with the fewest digits and, of those, the nearest.  All comparisons are exact, between products of
natural numbers.
-/

namespace Dialogue

/-- The number `coefficient · 10 ^ exponent`. -/
structure Decimal where
  coefficient : Nat
  exponent : Int
deriving DecidableEq, Repr

/-- The decimal digits of a number, most significant first. -/
def decimalDigits (n : Nat) : List Char :=
  Nat.toDigits 10 n

/-- The value of a decimal digit. -/
def digitValue (c : Char) : Nat :=
  c.toNat - '0'.toNat

/-- The number that these decimal digits spell, after `start`. -/
def digitsValue (start : Nat) (digits : List Char) : Nat :=
  digits.foldl (fun n c => 10 * n + digitValue c) start

namespace Decimal

/-- The power of ten of the first digit. -/
def order (d : Decimal) : Int :=
  d.exponent + (decimalDigits d.coefficient).length - 1

/-- The double nearest to a decimal, or none when it rounds beyond the largest double.  Decimals far
outside the range are settled by their order alone, whatever their exponent. -/
def toDouble? (negative : Bool) (d : Decimal) : Option Double :=
  if d.coefficient == 0 || d.order < -400 then some (Double.zero negative)
  else if 400 < d.order then none
  else
    Double.ofRatio? negative (d.coefficient * tenTo d.exponent.toNat) (tenTo (-d.exponent).toNat)

/-- Whether `coefficient · 10 ^ exponent ≤ bound · 2 ^ scale`. -/
def atMost (d : Decimal) (bound : Nat) (scale : Int) : Bool :=
  d.coefficient * tenTo d.exponent.toNat * twoTo (-scale).toNat ≤
    bound * twoTo scale.toNat * tenTo (-d.exponent).toNat

/-- Whether `bound · 2 ^ scale ≤ coefficient · 10 ^ exponent`. -/
def atLeast (d : Decimal) (bound : Nat) (scale : Int) : Bool :=
  bound * twoTo scale.toNat * tenTo (-d.exponent).toNat ≤
    d.coefficient * tenTo d.exponent.toNat * twoTo (-scale).toNat

/-- The same number without zeros at the end of the coefficient; `fuel` bounds their count. -/
def trimmed : Nat → Decimal → Decimal
  | 0, d => d
  | fuel + 1, d =>
      if d.coefficient % 10 == 0 && d.coefficient != 0 then
        trimmed fuel ⟨d.coefficient / 10, d.exponent + 1⟩
      else d

end Decimal

namespace Double

/-- Whether a decimal reads back as `x`: it lies between the midpoints to the two neighbours, and on
a midpoint only if the significand of `x` is even.  Below a power of two the neighbour is half as
far away. -/
def readsBack (x : Double) (d : Decimal) : Bool :=
  let four := 4 * x.significand
  let lower := if x.significand == twoTo 52 && x.exponent != -1074 then four - 1 else four - 2
  let upper := four + 2
  let scale := x.exponent - 2
  if x.significand % 2 == 0 then
    d.atLeast lower scale && d.atMost upper scale
  else
    !d.atMost lower scale && !d.atLeast upper scale

/-- The greatest power of ten that is at most `x`, searched upward from an estimate. -/
def decimalOrder (x : Double) : Nat → Int → Int
  | 0, estimate => estimate
  | fuel + 1, estimate =>
      if (Decimal.mk 1 (estimate + 1)).atMost x.significand x.exponent then
        decimalOrder x fuel (estimate + 1)
      else estimate

/-- The multiple of `10 ^ exponent` just below `x`, or at it. -/
def gridBelow (x : Double) (exponent : Int) : Nat :=
  let (a, b) := x.ratio
  a * tenTo (-exponent).toNat / (b * tenTo exponent.toNat)

/-- Of two neighbouring decimals of one grid, the one nearer to `x`, a tie going to the even one. -/
def nearer (x : Double) (below above : Decimal) : Decimal :=
  let middle := Decimal.mk (5 * (below.coefficient + above.coefficient)) (below.exponent - 1)
  if middle.atMost x.significand x.exponent then
    if middle.atLeast x.significand x.exponent && below.coefficient % 2 == 0 then below else above
  else below

/-- The decimal with `digits` digits that reads back as `x` and is nearest to it, if there is
one. -/
def withDigits? (x : Double) (order : Int) (digits : Nat) : Option Decimal :=
  let exponent := order - digits + 1
  let below := Decimal.mk (x.gridBelow exponent) exponent
  let above := Decimal.mk (x.gridBelow exponent + 1) exponent
  match x.readsBack below, x.readsBack above with
  | true, true => some (x.nearer below above)
  | true, false => some below
  | false, true => some above
  | false, false => none

/-- The shortest decimal that reads back as the magnitude of a nonzero `x`: the first digit count
that has one, seventeen being enough for every double. -/
def shortest (x : Double) : Decimal :=
  let binaryOrder := (x.significand.log2 : Int) + x.exponent
  let order := x.decimalOrder 4 (binaryOrder * 30103 / 100000 - 2)
  let found := (List.range 17).findSome? fun n => x.withDigits? order (n + 1)
  (found.getD ⟨x.gridBelow (order - 16), order - 16⟩).trimmed 20

/-- A magnitude without an exponent, always with a point. -/
def plainDigits (x : Double) : List Char :=
  if x.isZero then ['0', '.', '0']
  else
    let d := x.shortest
    let digits := decimalDigits d.coefficient
    if 0 ≤ d.exponent then
      digits ++ List.replicate d.exponent.toNat '0' ++ ['.', '0']
    else
      let places := (-d.exponent).toNat
      let padded := List.replicate (places + 1 - digits.length) '0' ++ digits
      padded.take (padded.length - places) ++ '.' :: padded.drop (padded.length - places)

/-- The number without an exponent, whatever its size. -/
def plain (x : Double) : String :=
  String.ofList (if x.negative then '-' :: x.plainDigits else x.plainDigits)

/-- A magnitude with one digit before the point and a signed exponent. -/
def scientificDigits (x : Double) : List Char :=
  let d := x.shortest
  let mantissa :=
    match decimalDigits d.coefficient with
    | first :: second :: rest => first :: '.' :: second :: rest
    | digits => digits
  let sign := if d.order < 0 then '-' else '+'
  mantissa ++ 'e' :: sign :: decimalDigits d.order.natAbs

/-- The text of a double in JSON: without an exponent from `10 ^ -5` up to `10 ^ 16`, with one
outside of that. -/
def chars (x : Double) : List Char :=
  let magnitude :=
    if x.isZero || (-5 ≤ x.shortest.order && x.shortest.order ≤ 15) then x.plainDigits
    else x.scientificDigits
  if x.negative then '-' :: magnitude else magnitude

end Double

end Dialogue

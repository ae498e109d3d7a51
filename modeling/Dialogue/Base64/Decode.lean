import Dialogue.Base64.Basic
/-!
# Decoding base64

Only the padded form without spare bits is accepted.  A refused text is diagnosed: the byte that
does not belong, a length that leaves a single symbol, padding that does not fill the last group, or
a last symbol with bits to spare.  Positions count bytes from the front.
-/

namespace Dialogue.Base64

/-- Why a text is not base64. -/
inductive DecodeError where
  | invalidSymbol (byte : UInt8) (position : Nat)
  | invalidLastSymbol (byte : UInt8) (position : Nat)
  | invalidLength (symbols : Nat)
  | invalidPadding
deriving DecidableEq, Repr

def DecodeError.message : DecodeError → String
  | .invalidSymbol byte position => s!"Invalid symbol {byte.toNat}, offset {position}."
  | .invalidLastSymbol byte position => s!"Invalid last symbol {byte.toNat}, offset {position}."
  | .invalidLength symbols => s!"Invalid input length: {symbols}"
  | .invalidPadding => "Invalid padding"

/-- The value of the symbol at a position. -/
def symbolAt (byte : UInt8) (position : Nat) : Except DecodeError Nat :=
  match value? byte with
  | some value => .ok value
  | none => .error (.invalidSymbol byte position)

/-- The symbol values of the last group and the number of its padding bytes.  Padding may begin at
the third place and nothing but padding may follow it. -/
def readLastGroup (start place : Nat) : List UInt8 → Except DecodeError (List Nat × Nat)
  | [] => .ok ([], 0)
  | byte :: rest =>
      if byte = pad then
        if 2 ≤ place ∧ rest.all (· = pad) then .ok ([], rest.length + 1)
        else .error (.invalidSymbol pad (start + place))
      else do
        let value ← symbolAt byte (start + place)
        let (values, padding) ← readLastGroup start (place + 1) rest
        return (value :: values, padding)

/-- The bytes of a last group with these symbol values. -/
def lastBytes (start padding : Nat) : List Nat → Except DecodeError (List UInt8)
  | [a, b] =>
      if padding ≠ 2 then .error .invalidPadding
      else if b % 16 ≠ 0 then .error (.invalidLastSymbol (symbol b) (start + 1))
      else .ok [UInt8.ofNat (a * 4 + b / 16)]
  | [a, b, c] =>
      if padding ≠ 1 then .error .invalidPadding
      else if c % 4 ≠ 0 then .error (.invalidLastSymbol (symbol c) (start + 2))
      else .ok [UInt8.ofNat (a * 4 + b / 16), UInt8.ofNat (b % 16 * 16 + c / 4)]
  | [a, b, c, d] =>
      .ok [UInt8.ofNat (a * 4 + b / 16), UInt8.ofNat (b % 16 * 16 + c / 4),
        UInt8.ofNat (c % 4 * 64 + d)]
  | values => .error (.invalidLength (start + values.length))

/-- Decode group by group; only the last group, of one to four bytes, may hold padding. -/
def decodeGroups (start : Nat) : List UInt8 → Except DecodeError (List UInt8)
  | [] => .ok []
  | a :: b :: c :: d :: next :: rest => do
      let a ← symbolAt a start
      let b ← symbolAt b (start + 1)
      let c ← symbolAt c (start + 2)
      let d ← symbolAt d (start + 3)
      let bytes ← decodeGroups (start + 4) (next :: rest)
      return UInt8.ofNat (a * 4 + b / 16) :: UInt8.ofNat (b % 16 * 16 + c / 4) ::
        UInt8.ofNat (c % 4 * 64 + d) :: bytes
  | group => do
      let (values, padding) ← readLastGroup start 0 group
      lastBytes start padding values

/-- The bytes that a padded text stands for.  A text with one byte too many is first asked whether
that byte belongs to base64 at all. -/
def decode (text : List UInt8) : Except DecodeError (List UInt8) :=
  match text.getLast? with
  | some last =>
      if text.length % 4 = 1 ∧ last ≠ pad ∧ (value? last).isNone then
        .error (.invalidSymbol last (text.length - 1))
      else decodeGroups 0 text
  | none => .ok []

end Dialogue.Base64

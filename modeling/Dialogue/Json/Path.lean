import Dialogue.Json.Basic
import Dialogue.Number.Decimal
/-!
# Paths into values

A path is a list of segments.  In an object a segment is a key; in an array it is a position,
spelled in decimal digits with an optional plus sign and any number of leading zeros; values of
other kinds have no members.
-/

namespace Dialogue.Json

/-- The digits of a position; they have to fit a 64-bit word. -/
def positionOfDigits? (digits : List Char) : Option Nat :=
  if digits.isEmpty || !digits.all Char.isDigit then none
  else
    let position := digitsValue 0 digits
    if position < UInt64.size then some position else none

/-- The position that a segment spells. -/
def position? (segment : String) : Option Nat :=
  match segment.toList with
  | '+' :: digits => positionOfDigits? digits
  | digits => positionOfDigits? digits

/-- The member that one segment leads to. -/
def step? : Json → String → Option Json
  | .obj members, segment => members.get? segment
  | .arr items, segment => (position? segment).bind (items[·]?)
  | _, _ => none

/-- The value at the end of a path; the empty path leads to the value itself. -/
def at? (root : Json) : List String → Option Json
  | [] => some root
  | segment :: rest => (root.step? segment).bind (·.at? rest)

@[simp] theorem at?_nil (root : Json) : root.at? [] = some root := rfl

theorem at?_cons (root : Json) (segment : String) (rest : List String) :
    root.at? (segment :: rest) = (root.step? segment).bind (·.at? rest) := rfl

/-- Following two paths in turn is following their concatenation. -/
theorem at?_append (root : Json) (first second : List String) :
    root.at? (first ++ second) = (root.at? first).bind (·.at? second) := by
  induction first generalizing root with
  | nil => simp
  | cons segment rest ih =>
    simp only [List.cons_append, at?_cons]
    cases root.step? segment with
    | none => rfl
    | some next => simpa using ih next

end Dialogue.Json

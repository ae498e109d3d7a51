/-!
# Powers of two and ten

The two bases in which numbers are scaled.  Both powers are natural numbers; a negative exponent is
written as a division at the place where it is used.
-/

namespace Dialogue

/-- Two to the `n`. -/
abbrev twoTo (n : Nat) : Nat :=
  Nat.pow 2 n

/-- Ten to the `n`. -/
abbrev tenTo (n : Nat) : Nat :=
  Nat.pow 10 n

end Dialogue

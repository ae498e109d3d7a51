/-!
# Sets of characters given by ranges

A property of characters that a standard defines by a list of code point ranges is kept here as
that list.  A range holds both of its ends, and the ranges of a list ascend and do not overlap, so
membership is one comparison with each range.
-/

namespace Dialogue.Text

/-- Ascending, disjoint ranges of code points, each given by its first and its last one. -/
abbrev CodeRanges := List (Nat × Nat)

/-- Whether a character lies in one of the ranges. -/
def CodeRanges.has (ranges : CodeRanges) (c : Char) : Bool :=
  ranges.any fun range => range.1 ≤ c.toNat && c.toNat ≤ range.2

theorem CodeRanges.has_iff {ranges : CodeRanges} {c : Char} :
    ranges.has c = true ↔ ∃ range ∈ ranges, range.1 ≤ c.toNat ∧ c.toNat ≤ range.2 := by
  simp [CodeRanges.has]

end Dialogue.Text

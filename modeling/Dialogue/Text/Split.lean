/-!
# Splitting text

The parts of a text between the occurrences of a separating character.  There is one part more than
there are separators, and so there is one at least.
-/

namespace Dialogue.Text

/-- Put a character in front of the first part. -/
def extendFirst (c : Char) : List (List Char) → List (List Char)
  | [] => [[c]]
  | part :: others => (c :: part) :: others

/-- The parts between the separators. -/
def split (separator : Char) : List Char → List (List Char)
  | [] => [[]]
  | c :: rest =>
      if c = separator then [] :: split separator rest else extendFirst c (split separator rest)

theorem split_ne_nil (separator : Char) (text : List Char) : split separator text ≠ [] := by
  cases text with
  | nil => simp [split]
  | cons c rest =>
    by_cases same : c = separator
    · simp [split, same]
    · simp only [split, same, if_false]
      cases split separator rest <;> simp [extendFirst]

end Dialogue.Text

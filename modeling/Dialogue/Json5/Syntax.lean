import Dialogue.Json.Numeral
/-!
# Syntax of JSON5 text

A text that follows the grammar becomes a tree of spellings.  Numbers and quoted texts are kept as
they are spelled, because what they mean, and whether they mean anything, depends on where the
content is read.
-/

namespace Dialogue.Json5

/-- One element of a quoted text or a key: a character that stands for itself, a letter behind a
backslash, or the number of an `\x` or of a `\u` escape. -/
inductive Piece where
  | char (value : Char)
  | escape (letter : Char)
  | byte (value : Nat)
  | unit (value : Nat)
deriving DecidableEq, Repr

/-- The sign before a number. -/
inductive Sign where
  | none
  | plus
  | minus
deriving DecidableEq, Repr

/-- A number after its sign. -/
inductive Magnitude where
  | infinity
  | nan
  | hex (digits : List Char)
  /-- Whole digits, the digits after a point if there is one, and an exponent. -/
  | decimal (whole : List Char) (fraction : Option (List Char)) (exponent : Option ExponentPart)
deriving DecidableEq, Repr

/-- The spelling of a number. -/
structure Spelling where
  sign : Sign
  magnitude : Magnitude
deriving DecidableEq, Repr

/-- The tree of a text.  Members are listed in the order of the text, repeated keys included. -/
inductive Tree where
  | null
  | bool (value : Bool)
  | num (value : Spelling)
  | str (pieces : List Piece)
  | arr (items : List Tree)
  | obj (members : List (List Piece × Tree))

end Dialogue.Json5

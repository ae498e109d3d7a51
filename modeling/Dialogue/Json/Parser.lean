import Dialogue.Json.Numeral
/-!
# Reading JSON text

The strict grammar: four kinds of blanks, no comments, no trailing commas, no leading zeros, no raw
control characters and no unpaired surrogates in quoted text, and nothing after the value.  Arrays
and objects nest up to a given depth, on which reading recurses; within one level the loop over
items has a bound of its own, for which the length of the text is enough.
-/

namespace Dialogue.Json

/-- A reader takes a value from the front of a text and leaves the rest. -/
abbrev Reader (α : Type) := List Char → Option (α × List Char)

/-- The blanks of JSON text. -/
def isBlank (c : Char) : Bool :=
  c = ' ' || c = '\t' || c = '\n' || c = '\r'

def skipBlanks (text : List Char) : List Char :=
  text.dropWhile isBlank

/-- The value of a hexadecimal digit of either case. -/
def hexValue? (c : Char) : Option Nat :=
  if '0' ≤ c ∧ c ≤ '9' then some (c.toNat - '0'.toNat)
  else if 'a' ≤ c ∧ c ≤ 'f' then some (c.toNat - 'a'.toNat + 10)
  else if 'A' ≤ c ∧ c ≤ 'F' then some (c.toNat - 'A'.toNat + 10)
  else none

/-- The number that four hexadecimal digits spell. -/
def hexUnit? (a b c d : Char) : Option Nat := do
  return (((← hexValue? a) * 16 + (← hexValue? b)) * 16 + (← hexValue? c)) * 16 + (← hexValue? d)

def isHighSurrogate (unit : Nat) : Bool :=
  0xD800 ≤ unit && unit ≤ 0xDBFF

def isLowSurrogate (unit : Nat) : Bool :=
  0xDC00 ≤ unit && unit ≤ 0xDFFF

/-- The character that a pair of surrogates names. -/
def surrogatePair (high low : Nat) : Char :=
  Char.ofNat (0x10000 + (high - 0xD800) * 0x400 + (low - 0xDC00))

/-- The character that a one-letter escape names. -/
def shortEscape? (c : Char) : Option Char :=
  if c = '"' then some '"'
  else if c = '\\' then some '\\'
  else if c = '/' then some '/'
  else if c = 'b' then some '\x08'
  else if c = 'f' then some '\x0c'
  else if c = 'n' then some '\n'
  else if c = 'r' then some '\r'
  else if c = 't' then some '\t'
  else none

/-- The characters up to the closing quote. -/
def readQuoted : Reader (List Char)
  | [] => none
  | '"' :: rest => some ([], rest)
  | '\\' :: 'u' :: a :: b :: c :: d :: rest =>
      match hexUnit? a b c d with
      | none => none
      | some unit =>
          if isHighSurrogate unit then
            match rest with
            | '\\' :: 'u' :: e :: f :: g :: h :: rest =>
                match hexUnit? e f g h with
                | none => none
                | some low =>
                    if isLowSurrogate low then
                      (readQuoted rest).map fun (text, rest) =>
                        (surrogatePair unit low :: text, rest)
                    else none
            | _ => none
          else if isLowSurrogate unit then none
          else (readQuoted rest).map fun (text, rest) => (Char.ofNat unit :: text, rest)
  | '\\' :: c :: rest =>
      match shortEscape? c with
      | none => none
      | some meant => (readQuoted rest).map fun (text, rest) => (meant :: text, rest)
  | c :: rest =>
      if c.toNat < 0x20 || c = '\\' then none
      else (readQuoted rest).map fun (text, rest) => (c :: text, rest)

/-- The digits at the front of a text. -/
def readDigits (text : List Char) : List Char × List Char :=
  (text.takeWhile Char.isDigit, text.dropWhile Char.isDigit)

/-- The fraction of a numeral, if a point follows; the point needs a digit after it. -/
def readFraction : Reader (Option (List Char))
  | '.' :: rest =>
      match readDigits rest with
      | ([], _) => none
      | (digits, rest) => some (some digits, rest)
  | text => some (none, text)

/-- The digits of an exponent, of which there is at least one. -/
def readExponentDigits (negative : Bool) : Reader (Option ExponentPart) := fun text =>
  match readDigits text with
  | ([], _) => none
  | (digits, rest) => some (some ⟨negative, digits⟩, rest)

/-- The exponent of a numeral, if an `e` of either case follows. -/
def readExponent : Reader (Option ExponentPart)
  | c :: rest =>
      if c = 'e' || c = 'E' then
        match rest with
        | '+' :: rest => readExponentDigits false rest
        | '-' :: rest => readExponentDigits true rest
        | rest => readExponentDigits false rest
      else some (none, c :: rest)
  | [] => some (none, [])

/-- A numeral after its sign: a zero begins no longer sequence of digits. -/
def readMagnitude (negative : Bool) : Reader Numeral := fun text =>
  match readDigits text with
  | ([], _) => none
  | ('0' :: _ :: _, _) => none
  | (whole, rest) =>
      (readFraction rest).bind fun (fraction, rest) =>
        (readExponent rest).map fun (exponent, rest) =>
          (⟨negative, whole, fraction, exponent⟩, rest)

def readNumeral : Reader Numeral
  | '-' :: rest => readMagnitude true rest
  | text => readMagnitude false text

def readNumber : Reader Json := fun text =>
  (readNumeral text).bind fun (numeral, rest) =>
    numeral.number?.map fun number => (.num number, rest)

/-- Items separated by commas up to a closing character, at least one and at most `bound` of
them. -/
def readSequence (item : Reader α) (close : Char) : Nat → Reader (List α)
  | 0, _ => none
  | bound + 1, text =>
      (item text).bind fun (first, rest) =>
        match skipBlanks rest with
        | [] => none
        | c :: rest =>
            if c = ',' then
              (readSequence item close bound rest).map fun (others, rest) => (first :: others, rest)
            else if c = close then some ([first], rest)
            else none

/-- What follows an opening bracket: the closing one, or items. -/
def readEnclosed (item : Reader α) (close : Char) (bound : Nat) : Reader (List α) := fun text =>
  match skipBlanks text with
  | [] => none
  | c :: rest =>
      if c = close then some ([], rest) else readSequence item close bound (c :: rest)

/-- A quoted key, a colon and a value. -/
def readMember (value : Reader Json) : Reader (String × Json) := fun text =>
  match skipBlanks text with
  | '"' :: rest =>
      (readQuoted rest).bind fun (key, rest) =>
        match skipBlanks rest with
        | ':' :: rest => (value rest).map fun (value, rest) => ((String.ofList key, value), rest)
        | _ => none
  | _ => none

/-- A value with at most `depth` levels of arrays and objects, of at most `bound` items each. -/
def readValue (bound depth : Nat) : Reader Json := fun text =>
  match skipBlanks text with
  | 'n' :: 'u' :: 'l' :: 'l' :: rest => some (.null, rest)
  | 't' :: 'r' :: 'u' :: 'e' :: rest => some (.bool true, rest)
  | 'f' :: 'a' :: 'l' :: 's' :: 'e' :: rest => some (.bool false, rest)
  | '"' :: rest => (readQuoted rest).map fun (text, rest) => (.str (String.ofList text), rest)
  | '[' :: rest =>
      match depth with
      | 0 => none
      | depth + 1 =>
          (readEnclosed (readValue bound depth) ']' bound rest).map fun (items, rest) =>
            (.arr items, rest)
  | '{' :: rest =>
      match depth with
      | 0 => none
      | depth + 1 =>
          (readEnclosed (readMember (readValue bound depth)) '}' bound rest).map
            fun (members, rest) => (.object members, rest)
  | text => readNumber text

/-- The value that a whole text spells, with at most `depth` levels of arrays and objects. -/
def ofCharsWithin? (depth : Nat) (text : List Char) : Option Json :=
  match readValue text.length depth text with
  | some (value, rest) => if (skipBlanks rest).isEmpty then some value else none
  | none => none

/-- The levels of arrays and objects that the text of a message, an option or a transcript may
have. -/
def maxDepth : Nat := 127

/-- The value that a whole text spells. -/
def ofText? (text : String) : Option Json :=
  ofCharsWithin? maxDepth text.toList

end Dialogue.Json

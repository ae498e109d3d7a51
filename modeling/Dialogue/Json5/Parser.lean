import Dialogue.Json.Parser
import Dialogue.Json5.Syntax
import Dialogue.Text.Letter
/-!
# Reading JSON5 text

The grammar adds to JSON: more blanks and two kinds of comments, one comma at the end of arrays and
objects, keys that are identifiers, texts in single quotes, more escapes, and more spellings of
numbers.  Reading recurses on the depth of nesting and, within one level, on the number of items;
the length of the text bounds both.
-/

namespace Dialogue.Json5

open Dialogue.Json (Reader hexValue? hexUnit? readDigits)

/-- Line feed, carriage return, line separator and paragraph separator. -/
def isLineEnd (c : Char) : Bool :=
  c = '\n' || c = '\r' || c = '\u2028' || c = '\u2029'

/-- The blanks between tokens: tabs, form feeds, the byte order mark, every space separator, and the
ends of lines. -/
def isBlank (c : Char) : Bool :=
  c = '\t' || c = '\x0b' || c = '\x0c' || c = ' ' || c = '\u00a0' || c = '\ufeff' || c = '\u1680' ||
    ('\u2000' ≤ c && c ≤ '\u200a') || c = '\u202f' || c = '\u205f' || c = '\u3000' || isLineEnd c

/-- Where skipping stands: between tokens, in a comment up to the end of the line, or in a comment
with an end of its own. -/
inductive Skipping where
  | blanks
  | lineComment
  | blockComment

/-- The text from the next token on.  A comment that is not closed is an error. -/
def skipFrom : Skipping → List Char → Option (List Char)
  | .blanks, [] => some []
  | .blanks, '/' :: '*' :: rest => skipFrom .blockComment rest
  | .blanks, '/' :: '/' :: rest => skipFrom .lineComment rest
  | .blanks, c :: rest => if isBlank c then skipFrom .blanks rest else some (c :: rest)
  | .lineComment, [] => some []
  | .lineComment, c :: rest =>
      if isLineEnd c then skipFrom .blanks rest else skipFrom .lineComment rest
  | .blockComment, [] => none
  | .blockComment, '*' :: '/' :: rest => skipFrom .blanks rest
  | .blockComment, _ :: rest => skipFrom .blockComment rest

/-- Skip blanks and comments. -/
def skip (text : List Char) : Option (List Char) :=
  skipFrom .blanks text

/-- Whether a character alone makes an escape: digits other than zero do not, nor do the letters
that begin longer escapes. -/
def isShortEscape (c : Char) : Bool :=
  c = '0' || !(c.isDigit || c = 'x' || c = 'u')

/-- Put a piece in front of what was read after it. -/
def cons (piece : Piece) (read : Option (List Piece × List Char)) :
    Option (List Piece × List Char) :=
  read.map fun (pieces, rest) => (piece :: pieces, rest)

/-- The pieces up to the closing quote.  A backslash before the end of a line continues the text on
the next one; otherwise a line may not end inside the quotes. -/
def readQuoted (quote : Char) : Reader (List Piece)
  | [] => none
  | '\\' :: '\r' :: '\n' :: rest => readQuoted quote rest
  | '\\' :: 'x' :: a :: b :: rest =>
      match hexValue? a, hexValue? b with
      | some a, some b => cons (.byte (16 * a + b)) (readQuoted quote rest)
      | _, _ => none
  | '\\' :: 'u' :: a :: b :: c :: d :: rest =>
      match hexUnit? a b c d with
      | some unit => cons (.unit unit) (readQuoted quote rest)
      | none => none
  | '\\' :: c :: rest =>
      if isLineEnd c then readQuoted quote rest
      else if isShortEscape c then cons (.escape c) (readQuoted quote rest)
      else none
  | c :: rest =>
      if c = quote then some ([], rest)
      else if c = '\\' || isLineEnd c then none
      else cons (.char c) (readQuoted quote rest)

/-- Whether an identifier may begin with this character. -/
def beginsName (c : Char) : Bool :=
  c = '$' || c = '_' || Text.isLetter c

/-- Whether an identifier may go on with this character. -/
def continuesName (c : Char) : Bool :=
  beginsName c || Text.isJoining c || c = '\u200c' || c = '\u200d'

/-- The rest of an identifier: characters that may continue it, and `\u` escapes of any kind. -/
def readNameRest : List Char → List Piece × List Char
  | '\\' :: 'u' :: a :: b :: c :: d :: rest =>
      match hexUnit? a b c d with
      | some unit =>
          let (pieces, rest) := readNameRest rest
          (.unit unit :: pieces, rest)
      | none => ([], '\\' :: 'u' :: a :: b :: c :: d :: rest)
  | c :: rest =>
      if continuesName c then
        let (pieces, rest) := readNameRest rest
        (.char c :: pieces, rest)
      else ([], c :: rest)
  | [] => ([], [])

/-- A key: a quoted text or an identifier. -/
def readKey : Reader (List Piece)
  | '"' :: rest => readQuoted '"' rest
  | '\x27' :: rest => readQuoted '\x27' rest
  | '\\' :: rest =>
      match readNameRest ('\\' :: rest) with
      | ([], _) => none
      | name => some name
  | c :: rest => if beginsName c then some (readNameRest (c :: rest)) else none
  | [] => none

/-- The exponent of a number, if an `e` of either case follows. -/
def readExponent (text : List Char) : Option (Option ExponentPart × List Char) :=
  Json.readExponent text

/-- Whole digits, point and fraction: whole digits without a needless zero in front, a point with or
without digits after it, or a point with digits alone. -/
def readDecimal : Reader Magnitude := fun text =>
  match readDigits text with
  | ([], '.' :: rest) =>
      match readDigits rest with
      | ([], _) => none
      | (fraction, rest) =>
          (readExponent rest).map fun (exponent, rest) =>
            (.decimal [] (some fraction) exponent, rest)
  | ([], _) => none
  | ('0' :: _ :: _, _) => none
  | (whole, '.' :: rest) =>
      let (fraction, rest) := readDigits rest
      (readExponent rest).map fun (exponent, rest) =>
        (.decimal whole (some fraction) exponent, rest)
  | (whole, rest) =>
      (readExponent rest).map fun (exponent, rest) => (.decimal whole none exponent, rest)

/-- The hexadecimal digits after `0x`. -/
def readHex (text : List Char) : Option (Magnitude × List Char) :=
  match text.takeWhile (hexValue? · |>.isSome) with
  | [] => none
  | digits => some (.hex digits, text.dropWhile (hexValue? · |>.isSome))

def readMagnitude : Reader Magnitude
  | '0' :: 'x' :: rest => readHex rest
  | '0' :: 'X' :: rest => readHex rest
  | 'I' :: 'n' :: 'f' :: 'i' :: 'n' :: 'i' :: 't' :: 'y' :: rest => some (.infinity, rest)
  | 'N' :: 'a' :: 'N' :: rest => some (.nan, rest)
  | text => readDecimal text

/-- A number: its sign stands directly before it. -/
def readNumber : Reader Tree
  | '+' :: rest => (readMagnitude rest).map fun (read, rest) => (.num ⟨.plus, read⟩, rest)
  | '-' :: rest => (readMagnitude rest).map fun (read, rest) => (.num ⟨.minus, read⟩, rest)
  | text => (readMagnitude text).map fun (read, rest) => (.num ⟨.none, read⟩, rest)

/-- Items up to a closing character, with a comma between two of them and perhaps one after the
last; at most `bound - 1` of them. -/
def readItems (item : Reader α) (close : Char) : Nat → Reader (List α)
  | 0, _ => none
  | bound + 1, text =>
      match skip text with
      | none => none
      | some text =>
          if text.head? = some close then some ([], text.drop 1)
          else
            (item text).bind fun (first, rest) =>
              match skip rest with
              | some (',' :: rest) =>
                  (readItems item close bound rest).map fun (others, rest) =>
                    (first :: others, rest)
              | some (c :: rest) => if c = close then some ([first], rest) else none
              | _ => none

/-- A key, a colon and a value. -/
def readMember (value : Reader Tree) : Reader (List Piece × Tree) := fun text =>
  (readKey text).bind fun (key, rest) =>
    match skip rest with
    | some (':' :: rest) => (value rest).map fun (value, rest) => ((key, value), rest)
    | _ => none

/-- A value with at most `depth` levels of arrays and objects, each with items within `bound`. -/
def readValue (bound depth : Nat) : Reader Tree := fun text =>
  match skip text with
  | none => none
  | some text =>
      match text with
      | 'n' :: 'u' :: 'l' :: 'l' :: rest => some (.null, rest)
      | 't' :: 'r' :: 'u' :: 'e' :: rest => some (.bool true, rest)
      | 'f' :: 'a' :: 'l' :: 's' :: 'e' :: rest => some (.bool false, rest)
      | '"' :: rest => (readQuoted '"' rest).map fun (pieces, rest) => (.str pieces, rest)
      | '\x27' :: rest => (readQuoted '\x27' rest).map fun (pieces, rest) => (.str pieces, rest)
      | '[' :: rest =>
          match depth with
          | 0 => none
          | depth + 1 =>
              (readItems (readValue bound depth) ']' bound rest).map fun (items, rest) =>
                (.arr items, rest)
      | '{' :: rest =>
          match depth with
          | 0 => none
          | depth + 1 =>
              (readItems (readMember (readValue bound depth)) '}' bound rest).map
                fun (members, rest) => (.obj members, rest)
      | text => readNumber text

/-- The tree of a whole text, if it follows the grammar. -/
def parse? (text : List Char) : Option Tree :=
  match readValue (text.length + 1) text.length text with
  | some (tree, rest) => if skip rest = some [] then some tree else none
  | none => none

end Dialogue.Json5

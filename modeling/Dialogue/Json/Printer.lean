import Dialogue.Json.Basic
import Dialogue.Number.Decimal
/-!
# JSON text

The two forms in which values are written.  Compact text has no blanks.  Pretty text puts every
item and member on a line of its own, indented by two blanks per level, with a blank after the
colon.  Members are written in the order in which the object lists them.  Text is built as a list
of characters, on which the laws of reading and writing are stated.
-/

namespace Dialogue.Json

/-- A hexadecimal digit in lower case. -/
def hexDigit (n : Nat) : Char :=
  Nat.digitChar n

/-- A character inside a quoted text: quotes, backslashes and control characters are escaped, all
others stand for themselves. -/
def escaped (c : Char) : List Char :=
  if c = '"' then ['\\', '"']
  else if c = '\\' then ['\\', '\\']
  else if c = '\n' then ['\\', 'n']
  else if c = '\r' then ['\\', 'r']
  else if c = '\t' then ['\\', 't']
  else if c = '\x08' then ['\\', 'b']
  else if c = '\x0c' then ['\\', 'f']
  else if c.toNat < 0x20 then
    ['\\', 'u', '0', '0', hexDigit (c.toNat / 16), hexDigit (c.toNat % 16)]
  else [c]

/-- A text between quotes. -/
def quotedChars (text : List Char) : List Char :=
  '"' :: (text.flatMap escaped ++ ['"'])

/-- The text of a number. -/
def numberChars : Number → List Char
  | .unsigned value => decimalDigits value.toNat
  | .negative below => '-' :: decimalDigits (below.val + 1)
  | .double value => value.chars

mutual

/-- Compact text. -/
def chars : Json → List Char
  | .null => ['n', 'u', 'l', 'l']
  | .bool true => ['t', 'r', 'u', 'e']
  | .bool false => ['f', 'a', 'l', 's', 'e']
  | .num value => numberChars value
  | .str value => quotedChars value.toList
  | .arr [] => ['[', ']']
  | .arr (first :: rest) => '[' :: (chars first ++ moreItems rest)
  | .obj ⟨[]⟩ => ['{', '}']
  | .obj ⟨(key, value) :: rest⟩ =>
      '{' :: (quotedChars key.toList ++ ':' :: chars value ++ moreMembers rest)

/-- The items after the first one, with the closing bracket. -/
def moreItems : List Json → List Char
  | [] => [']']
  | value :: rest => ',' :: (chars value ++ moreItems rest)

/-- The members after the first one, with the closing brace. -/
def moreMembers : List (String × Json) → List Char
  | [] => ['}']
  | (key, value) :: rest =>
      ',' :: (quotedChars key.toList ++ ':' :: chars value ++ moreMembers rest)

end

/-- The compact text of a value. -/
def compact (value : Json) : String :=
  String.ofList value.chars

/-- A line break and the blanks before the content of the next line. -/
def newLine (level : Nat) : List Char :=
  '\n' :: List.replicate (2 * level) ' '

mutual

/-- Pretty text inside `level` enclosing arrays and objects. -/
def prettyChars (level : Nat) : Json → List Char
  | .arr [] => ['[', ']']
  | .arr (first :: rest) =>
      '[' :: (newLine (level + 1) ++ prettyChars (level + 1) first ++ prettyItems level rest)
  | .obj ⟨[]⟩ => ['{', '}']
  | .obj ⟨(key, value) :: rest⟩ =>
      '{' :: (newLine (level + 1) ++ quotedChars key.toList ++ ':' :: ' ' ::
        prettyChars (level + 1) value ++ prettyMembers level rest)
  | .null => ['n', 'u', 'l', 'l']
  | .bool true => ['t', 'r', 'u', 'e']
  | .bool false => ['f', 'a', 'l', 's', 'e']
  | .num value => numberChars value
  | .str value => quotedChars value.toList

def prettyItems (level : Nat) : List Json → List Char
  | [] => newLine level ++ [']']
  | value :: rest =>
      ',' :: (newLine (level + 1) ++ prettyChars (level + 1) value ++ prettyItems level rest)

def prettyMembers (level : Nat) : List (String × Json) → List Char
  | [] => newLine level ++ ['}']
  | (key, value) :: rest =>
      ',' :: (newLine (level + 1) ++ quotedChars key.toList ++ ':' :: ' ' ::
        prettyChars (level + 1) value ++ prettyMembers level rest)

end

/-- The pretty text of a value. -/
def pretty (value : Json) : String :=
  String.ofList (prettyChars 0 value)

end Dialogue.Json

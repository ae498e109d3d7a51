import Dialogue.Text.Hidden
/-!
# Quoted text in messages

A text that a message cites stands between quotes, with escapes for quotes, backslashes and
characters that have no shape of their own.  A list of texts stands between square brackets.
-/

namespace Dialogue.Text

/-- A character of a cited text. -/
def citedChar (c : Char) : List Char :=
  if c = '"' then ['\\', '"']
  else if c = '\\' then ['\\', '\\']
  else if c = '\n' then ['\\', 'n']
  else if c = '\r' then ['\\', 'r']
  else if c = '\t' then ['\\', 't']
  else if c = '\x00' then ['\\', '0']
  else if isHidden c then '\\' :: 'u' :: '{' :: (Nat.toDigits 16 c.toNat ++ ['}'])
  else [c]

/-- A text between quotes. -/
def cited (text : String) : String :=
  String.ofList ('"' :: (text.toList.flatMap citedChar ++ ['"']))

/-- Texts between quotes, inside square brackets. -/
def citedList (texts : List String) : String :=
  "[" ++ ", ".intercalate (texts.map cited) ++ "]"

end Dialogue.Text

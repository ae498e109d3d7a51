import Dialogue.Json.Parser
/-!
# Options of the command line

An option is given as `key=value`.  The value is JSON if it is one whole JSON text, and otherwise
the text itself, so that most texts need no quotes.
-/

namespace Dialogue.Cli

/-- Why a text is not an option. -/
inductive OptionDefect where
  | noSeparator
  | emptyKey
deriving DecidableEq, Repr

def OptionDefect.message (raw : String) : OptionDefect → String
  | .noSeparator => s!"expected key=value, got '{raw}'"
  | .emptyKey => s!"empty option key in '{raw}'"

/-- The value that a text gives to an option. -/
def optionValue (text : List Char) : Json :=
  match Json.ofCharsWithin? Json.maxDepth text with
  | some value => value
  | none => .str (String.ofList text)

/-- Read an option; the key ends at the first equals sign. -/
def parseOption (raw : String) : Except OptionDefect (String × Json) :=
  match raw.toList.takeWhile (· != '='), raw.toList.dropWhile (· != '=') with
  | _, [] => .error .noSeparator
  | [], _ => .error .emptyKey
  | key, _ :: value => .ok (String.ofList key, optionValue value)

end Dialogue.Cli

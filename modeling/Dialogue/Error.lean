import Dialogue.Base64.Decode
import Dialogue.Json.Printer
import Dialogue.Json5.Misfit
/-!
# Fatal errors

A fatal error is a defect in a script, in its options or in the shape of a message; it ends a run at
once.  Each constructor is a cause, and `ScriptError.message` is the only place where its wording is
fixed.
-/

namespace Dialogue

/-- Why a file could not be read or written. -/
inductive FileFault where
  | missing
  | notADirectory
  | isADirectory
  | nameTooLong
  | notText
deriving DecidableEq, Repr

def FileFault.message : FileFault → String
  | .missing => "No such file or directory (os error 2)"
  | .notADirectory => "Not a directory (os error 20)"
  | .isADirectory => "Is a directory (os error 21)"
  | .nameTooLong => "File name too long (os error 36)"
  | .notText => "stream did not contain valid UTF-8"

/-- Why a value is not what a message or a captured output has to be. -/
inductive MessageDefect where
  | notAnObject
  | badId (id : Json)
  | neitherIdNorMethod
  | notText (output : Json)
  | notBase64 (reason : Base64.DecodeError)

def MessageDefect.message : MessageDefect → String
  | .notAnObject => "expected a JSON object"
  | .badId id => s!"non-integer id: {id.compact}"
  | .neitherIdNorMethod => "message has neither id nor method"
  | .notText output => s!"expected base64 string, got {output.compact}"
  | .notBase64 reason => s!"invalid base64 data: {reason.message}"

/-- The cause of a fatal error. -/
inductive ScriptError where
  /-- A configuration text with a syntax error. -/
  | configSyntax
  /-- A configuration text whose content does not fit. -/
  | configContent (misfit : Json5.Misfit)
  | missingKey (key : String)
  | missingPath (path : List String) (context : String)
  | nestedConditional (inner outer : String)
  | unbalancedEndIf
  | unterminatedConditional (key : String)
  /-- An option that has to be an object and is not. -/
  | invalidOption (key : String) (given : Json)
  | invalidMessage (defect : MessageDefect)
  | file (fault : FileFault)
  /-- A text that is not JSON. -/
  | jsonSyntax

/-- The wording of a fatal error.  Syntax errors are named without their details. -/
def ScriptError.message : ScriptError → String
  | .configSyntax => "Config error"
  | .configContent misfit => s!"Config error: {misfit.message}"
  | .missingKey key => s!"Missing state key: {key}"
  | .missingPath path context => s!"Missing path {Text.citedList path} in {context}"
  | .nestedConditional inner outer =>
      s!"Nested conditional on option '{inner}' inside block for '{outer}'"
  | .unbalancedEndIf => "end_if without a matching if_option"
  | .unterminatedConditional key => s!"Unterminated conditional block for option '{key}'"
  | .invalidOption key given => s!"Invalid option '{key}': expected an object, got {given.compact}"
  | .invalidMessage defect => s!"Invalid message: {defect.message}"
  | .file fault => s!"IO error: {fault.message}"
  | .jsonSyntax => "JSON error"

end Dialogue

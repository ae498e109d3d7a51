import Dialogue.Protocol.Capture
import Dialogue.Protocol.Session
/-!
# The built-in scripts

All scripts that can be asked for by name, in the order in which they are listed.
-/

namespace Dialogue.Protocol

/-- The built-in scripts. -/
def catalog : List Script :=
  [spawnSession, navigate, printToPdf, captureScreenshot, resetSession, closeSession]

/-- The names of the built-in scripts. -/
def names : List String :=
  catalog.map Script.name

/-- The built-in script with this name. -/
def byName? (name : String) : Option Script :=
  catalog.find? (·.name == name)

end Dialogue.Protocol

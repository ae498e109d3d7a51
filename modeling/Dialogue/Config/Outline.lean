import Dialogue.Config.Basic
import Dialogue.Json.Printer
import Dialogue.Text.Split
/-!
# Configuration as a value

The sections and fields of a configuration by name.  The outline lists them in the order in which
they are declared, and that is how a configuration is saved and shown; look-up by path uses the
value with its members in key order.  Absent sections, and an absent level, are left out.
-/

namespace Dialogue.Config

def loggingOutline (logging : LoggingConfig) : Json :=
  .obj ⟨("format", .str logging.format) ::
    ((logging.level.map fun level => ("level", Json.str level)).toList ++
      [("filters", .arr (logging.filters.map .str)), ("output", .str logging.output)])⟩

def policyOutline (policies : PolicyConfig) : Json :=
  .obj ⟨[("unhandled_runtime_exceptions", .str policies.exceptions.name),
    ("console_api_calls", .str policies.consoleCalls.name)]⟩

def driverOutline (driver : DriverConfig) : Json :=
  .obj ⟨[("timeout_ms", .word driver.timeout), ("max_sessions", .word driver.maxSessions)]⟩

/-- The configuration in declaration order. -/
def outline (config : Config) : Json :=
  .obj ⟨(config.logging.map fun logging => ("logging", loggingOutline logging)).toList ++
    (config.policies.map fun policies => ("policies", policyOutline policies)).toList ++
    (config.driver.map fun driver => ("driver", driverOutline driver)).toList⟩

/-- The configuration as a value whose members are in key order. -/
def toJson (config : Config) : Json :=
  config.outline.arranged

/-- The text in which a configuration is saved. -/
def saved (config : Config) : String :=
  config.outline.pretty

/-- The value at a path whose segments are separated by dots.  Only objects are entered. -/
def at? (config : Config) (path : String) : Option Json :=
  ((Text.split '.' path.toList).map String.ofList).foldlM Json.field? config.toJson

end Dialogue.Config

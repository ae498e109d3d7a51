import Dialogue.Json5.Content
import Dialogue.Policy
/-!
# Configuration

What can be configured: logging, the policies for runtime events, and the limits of the driver.  A
section may be absent, and an absent section means the defaults.
-/

namespace Dialogue

/-- Where and how much is logged. -/
structure LoggingConfig where
  format : String := "plain"
  level : Option String := none
  /-- Levels of single targets, one directive each. -/
  filters : List String := []
  output : String := "stderr"
deriving DecidableEq, Repr

/-- The policies of runs whose options name none. -/
structure PolicyConfig where
  exceptions : Policy := Policy.exceptionDefault
  consoleCalls : Policy := Policy.consoleDefault
deriving DecidableEq, Repr

/-- The limits of the driver. -/
structure DriverConfig where
  /-- How long one await step may wait, in milliseconds. -/
  timeout : UInt64 := 30000
  /-- How many sessions may be attached at a time. -/
  maxSessions : UInt64 := 5
deriving DecidableEq, Repr

/-- The configuration, with its optional sections. -/
structure Config where
  logging : Option LoggingConfig := none
  policies : Option PolicyConfig := none
  driver : Option DriverConfig := none
deriving DecidableEq, Repr

/-- Set the policies that options do not name. -/
def PolicyConfig.applyDefaults (policies : PolicyConfig) (options : Table Json) : Table Json :=
  (options.insertIfAbsent Policy.exceptionKey (.str policies.exceptions.name)).insertIfAbsent
    Policy.consoleKey (.str policies.consoleCalls.name)

namespace Config

/-- The policies that apply. -/
def effectivePolicies (config : Config) : PolicyConfig :=
  config.policies.getD {}

/-- The limits that apply. -/
def effectiveDriver (config : Config) : DriverConfig :=
  config.driver.getD {}

/-- The logging that applies. -/
def effectiveLogging (config : Config) : LoggingConfig :=
  config.logging.getD {}

/-- How long one await step may wait, in milliseconds. -/
def timeout (config : Config) : Nat :=
  config.effectiveDriver.timeout.toNat

/-- How many sessions may be attached at a time. -/
def maxSessions (config : Config) : Nat :=
  config.effectiveDriver.maxSessions.toNat

/-- Values that are allowed but will not have the effect they ask for. -/
def warnings (config : Config) : List String :=
  match config.logging with
  | none => []
  | some logging =>
      (if ["plain", "json"].contains logging.format then []
        else [s!"Unknown log format '{logging.format}', falling back to plain"]) ++
      (if ["stderr", "stdout"].contains logging.output then []
        else [s!"Unknown log output '{logging.output}', falling back to stderr"])

/-- Values with which nothing can run. -/
def errors (config : Config) : List String :=
  match config.driver with
  | none => []
  | some driver =>
      (if driver.timeout = 0 then ["Driver timeout_ms cannot be 0"] else []) ++
      (if driver.maxSessions = 0 then ["Driver max_sessions cannot be 0"] else [])

end Config

end Dialogue

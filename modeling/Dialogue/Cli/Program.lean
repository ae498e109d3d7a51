import Dialogue.Cli.Directory
import Dialogue.Cli.Help
import Dialogue.Cli.LogFilter
import Dialogue.Config.Outline
import Dialogue.Protocol.Catalog
import Dialogue.Run.Execution
/-!
# The command line program

The program as a function from its arguments, a directory and an environment to what it prints and
leaves behind.  It compiles built-in scripts, replays them against a transcript, and shows its
configuration.
-/

namespace Dialogue.Cli

/-- Why the program fails. -/
inductive Defect where
  | script (error : ScriptError)
  | run (error : RunError)
  | unknownProtocol (name : String)
  | invalidConfig (path : String) (errors : List String)
  | invalidLogFilter (directive : String)
  /-- A directive with a part that would begin or end inside a character: the program breaks off. -/
  | brokenLogFilter (directive : String)
  | keyNotSet (key : String)
  | reading (path : String) (fault : FileFault)
  | writing (path : String) (fault : FileFault)

/-- A message with the message of its cause below it. -/
def withCause (message cause : String) : String :=
  message ++ "\n\nCaused by:\n    " ++ cause

/-- The message of an unknown protocol. -/
def unknownProtocolMessage (name : String) : String :=
  s!"Unknown protocol '{name}'. Available: " ++ ", ".intercalate Protocol.names

/-- What is printed about a failure. -/
def Defect.report : Defect → String
  | .script (.file fault) => withCause (ScriptError.message (.file fault)) fault.message
  | .script error => error.message
  | .run error => error.message
  | .unknownProtocol name => unknownProtocolMessage name
  | .invalidConfig path errors => s!"Invalid config {path}: " ++ "; ".intercalate errors
  | .invalidLogFilter directive => s!"invalid log filter '{directive}'"
  | .brokenLogFilter directive => s!"log filter '{directive}' is cut inside a character"
  | .keyNotSet key => s!"Config key '{key}' is not set"
  | .reading path fault => withCause s!"reading {path}" fault.message
  | .writing path fault => withCause s!"writing {path}" fault.message

/-- The exit code after a failure; breaking off has a code of its own. -/
def Defect.exitCode : Defect → Nat
  | .brokenLogFilter _ => 101
  | _ => 1

/-- The instance of a built-in script with the policies of a configuration where the options name
none. -/
def buildInstance (config : Config) (name : String) (options : List (String × Json))
    (session : Option String) : Except Defect Instance :=
  match Protocol.byName? name with
  | none => .error (.unknownProtocol name)
  | some script =>
      .ok (Instance.forOptionalSession script session
        (config.effectivePolicies.applyDefaults (Table.ofList options)))

/-- The bytes of an output in a file: a text that is base64 is decoded, another text is written as
it is, and all else is written as pretty JSON. -/
def outputBytes (output : Json) : List UInt8 :=
  match output with
  | .str text =>
      match Protocol.capturedBytes output with
      | .ok bytes => bytes
      | .error _ => Text.utf8 text
  | other => Text.utf8 other.pretty

/-- A text with blanks in front of it up to a width. -/
def padFront (width : Nat) (text : String) : String :=
  String.ofList (List.replicate (width - text.length) ' ') ++ text

/-- The numbered steps of an instance. -/
def stepLines (steps : List Step) : List String :=
  steps.zipIdx.map fun (step, index) =>
    s!"{padFront 3 (toString (index + 1))}. {padBack 6 step.action.kind} {step.name}\n"

/-- The default place of the configuration. -/
def defaultConfigPath (environment : Environment) : String :=
  let home := match environment "HOME" with
    | some home => if home = "" then "." else home
    | none => "."
  (if home.toList.getLast? = some '/' then home else home ++ "/") ++ ".cdp_script/config.json"

/-- What the program prints, why it fails if it does, the directory it leaves, and the file it
wrote. -/
structure Outcome where
  stdout : String := ""
  failure : Option Defect := none
  directory : Directory
  written : Option (String × List UInt8) := none
  warnings : List String := []

/-- The outcome of a step of the program that may fail. -/
def Outcome.orFail (outcome : Outcome) (result : Except Defect α) (next : α → Outcome) : Outcome :=
  match result with
  | .ok value => next value
  | .error failure => { outcome with failure := some failure }

/-- Print an output, or write it to a file. -/
def deliver (outcome : Outcome) (output : Json) (out : Option String) : Outcome :=
  match out with
  | none => { outcome with stdout := outcome.stdout ++ output.pretty ++ "\n" }
  | some path =>
      match outcome.directory.write path (outputBytes output) with
      | .ok directory =>
          { outcome with directory, written := some (path, outputBytes output) }
      | .error fault => { outcome with failure := some (.writing path fault) }

/-- The lines that show the sent frames. -/
def frameLines (frames : List Json) : String :=
  String.join (frames.map fun frame => s!"> {frame.compact}\n")

/-- Replay a script against a transcript.  The sent frames are printed before the result. -/
def replay (outcome : Outcome) (config : Config) (protocol messages : String)
    (options : List (String × Json)) (session out : Option String) : Outcome :=
  outcome.orFail (buildInstance config protocol options session) fun subject =>
  outcome.orFail ((outcome.directory.readText messages).mapError (.reading messages)) fun text =>
  outcome.orFail ((Transcript.frames text).mapError .script) fun frames =>
    let report := subject.run { timeout := config.timeout } CallId.first
      (frames.map Arrival.ofJson)
    let outcome :=
      { outcome with
        stdout := frameLines report.sent
        warnings := outcome.warnings ++ report.warnings.map Warning.message }
    outcome.orFail (report.result.mapError .run) fun output => deliver outcome output out

/-- Do what an invocation asks for under a configuration that is valid. -/
def perform (outcome : Outcome) (config : Config) (configPath : String) : Command → Outcome
  | .compile protocol options =>
      outcome.orFail (buildInstance config protocol options none) fun subject =>
        { outcome with
          stdout := s!"{protocol} ({subject.steps.length} steps)\n" ++
            String.join (stepLines subject.steps) }
  | .replay protocol messages options session out =>
      replay outcome config protocol messages options session out
  | .protocols =>
      { outcome with stdout := String.join (Protocol.names.map (· ++ "\n")) }
  | .showConfig => { outcome with stdout := s!"Config: {configPath}\n{config.saved}\n" }
  | .getConfig key =>
      match config.at? key with
      | some value => { outcome with stdout := value.pretty ++ "\n" }
      | none => { outcome with failure := some (.keyNotSet key) }

/-- The file that an invocation takes its configuration from. -/
def Invocation.configPath (invocation : Invocation) (environment : Environment) : String :=
  invocation.config.getD (defaultConfigPath environment)

/-- The files that an invocation may read. -/
def Invocation.inputPaths (invocation : Invocation) (environment : Environment) : List String :=
  invocation.configPath environment ::
    match invocation.command with
    | .replay _ messages _ _ _ => [messages]
    | _ => []

/-- The file that an invocation may write. -/
def Invocation.outputPath (invocation : Invocation) : Option String :=
  match invocation.command with
  | .replay _ _ _ _ out => out
  | _ => none

/-- Check a filter, which has to be a directive. -/
def checkFilter (directive : String) : Except Defect Unit :=
  match checkDirective directive with
  | .ok () => .ok ()
  | .error .malformed => .error (.invalidLogFilter directive)
  | .error .splitCharacter => .error (.brokenLogFilter directive)

/-- Check one of the directives that make up a level; those of another form are passed over. -/
def checkLevel (directive : String) : Except Defect Unit :=
  match checkFilter directive with
  | .error (.brokenLogFilter directive) => .error (.brokenLogFilter directive)
  | _ => .ok ()

/-- Check the level, which is a list of directives with commas between them, and the filters.  A
verbose invocation has a level of its own. -/
def checkLogging (logging : LoggingConfig) (verbose : Bool) : Except Defect Unit := do
  let level := if verbose then "" else logging.level.getD ""
  let parts := (Text.split ',' level.toList).filter (!·.isEmpty)
  parts.forM fun part => checkLevel (String.ofList part)
  logging.filters.forM checkFilter

/-- Load and check the configuration, then do what is asked for. -/
def Invocation.run (invocation : Invocation) (directory : Directory) (environment : Environment) :
    Outcome :=
  let outcome : Outcome := { directory }
  let path := invocation.configPath environment
  outcome.orFail ((Config.load environment (directory.content path)).mapError .script) fun config =>
  outcome.orFail (checkLogging config.effectiveLogging invocation.verbose) fun () =>
    let outcome := { outcome with warnings := config.warnings }
    if config.errors.isEmpty then perform outcome config path invocation.command
    else { outcome with failure := some (.invalidConfig path config.errors) }

/-- The exit code of an invocation. -/
def Outcome.exitCode (outcome : Outcome) : Nat :=
  match outcome.failure with
  | some failure => failure.exitCode
  | none => 0

/-- Run the program, with its exit code. -/
def program (arguments : List String) (directory : Directory) (environment : Environment) :
    Nat × Outcome :=
  match parseArguments arguments with
  | .error halt => (halt.exitCode, { stdout := halt.text, directory })
  | .ok invocation =>
      let outcome := invocation.run directory environment
      (outcome.exitCode, outcome)

/-- What is printed on the error channel about a failure. -/
def Outcome.errorText (outcome : Outcome) : Option String :=
  outcome.failure.map fun failure => "Error: " ++ failure.report

end Dialogue.Cli

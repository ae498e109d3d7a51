import Dialogue.Config.Basic
import Dialogue.Error
import Dialogue.Json5.Parser
import Dialogue.Text.Utf8
/-!
# Loading a configuration

A configuration file is JSON5 text in which references `${name}` to environment variables are
replaced first, in one pass from left to right.  A name is not empty and holds no closing brace; an
unset variable is empty; what was put in is not looked at again.  After that the syntax of the whole
text is checked before any of its content is read.
-/

namespace Dialogue

/-- The values of environment variables. -/
abbrev Environment := String → Option String

/-- The name and the text after it, if a reference stands after its opening brace. -/
def reference? (text : List Char) : Option (List Char × List Char) :=
  match text.takeWhile (· != '}'), text.dropWhile (· != '}') with
  | first :: name, _ :: rest => some (first :: name, rest)
  | _, _ => none

theorem length_reference? {text name rest : List Char}
    (found : reference? text = some (name, rest)) : rest.length < text.length := by
  unfold reference? at found
  split at found
  · next first tail c after _ dropped =>
    simp only [Option.some.injEq, Prod.mk.injEq] at found
    have shorter := (List.dropWhile_suffix (l := text) (· != '}')).length_le
    rw [dropped, List.length_cons] at shorter
    rw [← found.2]
    omega
  · simp at found

/-- A part of a text with references. -/
inductive Segment where
  | plain (c : Char)
  | variable (name : List Char)
deriving DecidableEq, Repr

/-- The parts of a text.  An opening mark that no reference follows is plain text, and looking goes
on right after its dollar sign. -/
def segments : List Char → List Segment
  | [] => []
  | '$' :: '{' :: text =>
      match _found : reference? text with
      | some (name, rest) => .variable name :: segments rest
      | none => .plain '$' :: segments ('{' :: text)
  | c :: rest => .plain c :: segments rest
termination_by text => text.length
decreasing_by
  · have := length_reference? _found
    simp only [List.length_cons]
    omega
  · simp
  · simp

/-- The text that stands for a part. -/
def Segment.expand (environment : Environment) : Segment → List Char
  | .plain c => [c]
  | .variable name => ((environment (String.ofList name)).getD "").toList

/-- Replace the references in a text. -/
def substitute (environment : Environment) (text : List Char) : List Char :=
  (segments text).flatMap (·.expand environment)

/-- The names of the variables that a text refers to. -/
def variableNames (text : List Char) : List String :=
  (segments text).filterMap fun segment =>
    match segment with
    | .plain _ => none
    | .variable name => some (String.ofList name)

namespace Config

/-- Logging: the level may be null, and it cannot be left out of a sequence. -/
def loggingRecord : Json5.Record LoggingConfig where
  name := "LoggingConfig"
  start := {}
  fields :=
    [⟨"format", fun tree value => do return { value with format := ← tree.readText }, true⟩,
      ⟨"level", fun tree value => do
        return { value with level := ← tree.readOptional (·.readText) }, false⟩,
      ⟨"filters", fun tree value => do
        return { value with filters := ← tree.readList (·.readText) }, true⟩,
      ⟨"output", fun tree value => do return { value with output := ← tree.readText }, true⟩]

def readPolicy : Json5.Tree → Except Json5.Misfit Policy :=
  Json5.Tree.readVariant Policy.names Policy.ofName?

def policyRecord : Json5.Record PolicyConfig where
  name := "PolicyConfig"
  start := {}
  fields :=
    [⟨"unhandled_runtime_exceptions",
        fun tree value => do return { value with exceptions := ← readPolicy tree }, true⟩,
      ⟨"console_api_calls",
        fun tree value => do return { value with consoleCalls := ← readPolicy tree }, true⟩]

def driverRecord : Json5.Record DriverConfig where
  name := "DriverConfig"
  start := {}
  fields :=
    [⟨"timeout_ms", fun tree value => do return { value with timeout := ← tree.readWord }, true⟩,
      ⟨"max_sessions", fun tree value => do return { value with maxSessions := ← tree.readWord },
        true⟩]

/-- The sections; each may be null, and none can be left out of a sequence. -/
def sections : Json5.Record Config where
  name := "Config"
  start := {}
  fields :=
    [⟨"logging", fun tree value => do
        return { value with logging := ← tree.readOptional loggingRecord.read }, false⟩,
      ⟨"policies", fun tree value => do
        return { value with policies := ← tree.readOptional policyRecord.read }, false⟩,
      ⟨"driver", fun tree value => do
        return { value with driver := ← tree.readOptional driverRecord.read }, false⟩]

/-- Read a configuration from the text of a file. -/
def ofText (environment : Environment) (text : String) : Except ScriptError Config :=
  match Json5.parse? (substitute environment text.toList) with
  | none => .error .configSyntax
  | some tree =>
      match sections.read tree with
      | .ok config => .ok config
      | .error misfit => .error (.configContent misfit)

/-- What is found where a file should be. -/
inductive FileContent where
  | missing
  | directory
  | bytes (content : List UInt8)

/-- Load a configuration from a file; a missing one means the defaults. -/
def load (environment : Environment) : FileContent → Except ScriptError Config
  | .missing => .ok {}
  | .directory => .error (.file .isADirectory)
  | .bytes content =>
      match Text.ofUtf8? content with
      | some text => ofText environment text
      | none => .error (.file .notText)

end Config

end Dialogue

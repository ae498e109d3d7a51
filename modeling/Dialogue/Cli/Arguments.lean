import Dialogue.Cli.Option
/-!
# Arguments of the command line

The arguments form levels: the flags of the program, then a command with flags and operands of its
own, which may lead to another command.  They are read from left to right, and the first thing that
is wrong, or that asks for help or for the version, decides.  A flag has a long name and perhaps a
letter; its value stands in the same argument or in the next one, where it may not look like a flag.
A value in an argument of its own is taken up when the next flag or operand of its level comes, or
when all arguments are read.  A flag that is not repeatable may come once on each level, and of
several levels the innermost counts.
-/

namespace Dialogue.Cli

/-- What a flag is for. -/
inductive FlagKind where
  /-- It is there or not. -/
  | mark
  /-- It has a value, which help texts call by this name. -/
  | value (name : String)
  | help
  | version

/-- A flag of some level. -/
structure Flag where
  long : String
  letter : Option Char := none
  kind : FlagKind := .mark
  repeats : Bool := false
  required : Bool := false
  accepts : String → Bool := fun _ => true
  about : String

/-- What one level accepts: flags, operands with their descriptions, and the commands that end the
level. -/
structure Level where
  about : String
  flags : List Flag
  operands : List (String × String) := []
  commands : List String := []

/-- Why reading the arguments does not lead to an invocation. -/
inductive Halt where
  /-- They do not say what to do. -/
  | misuse
  | version
  /-- They ask for help on the level of some commands. -/
  | help (path : List String)
deriving DecidableEq, Repr

/-! ### The levels -/

def configFlag : Flag :=
  { long := "config", letter := some 'c', kind := .value "CONFIG", about := "Config file path" }

def verboseFlag : Flag :=
  { long := "verbose", letter := some 'v', about := "Enable verbose logging" }

def helpFlag : Flag :=
  { long := "help", letter := some 'h', kind := .help, about := "Print help" }

def versionFlag : Flag :=
  { long := "version", letter := some 'V', kind := .version, about := "Print version" }

def optionFlag : Flag :=
  { long := "option", letter := some 'o', kind := .value "OPTIONS", repeats := true
    accepts := fun raw => (parseOption raw).toOption.isSome
    about := "Protocol option as key=value (value parsed as JSON, else string)" }

def messagesFlag : Flag :=
  { long := "messages", kind := .value "MESSAGES", required := true, accepts := (· != "")
    about := "JSON Lines file of incoming messages, one per line" }

def sessionFlag : Flag :=
  { long := "session-id", kind := .value "SESSION_ID"
    about := "Scope the run to an attached session" }

def outFlag : Flag :=
  { long := "out", kind := .value "OUT", accepts := (· != "")
    about := "Write the output to this file (base64 data is decoded)" }

/-- The name of a built-in script. -/
def protocolOperand : String × String :=
  ("<PROTOCOL>", "Built-in protocol name")

/-- The flags of a level that adds none of its own. -/
def commonFlags : List Flag :=
  [configFlag, verboseFlag, helpFlag]

def helpLevel : Level :=
  { about := "Print this message or the help of the given subcommand(s)"
    flags := []
    operands := [("[COMMAND]...", "Print help for the subcommand(s)")] }

/-- The level that some commands lead to.  Flags are in the order of the help texts. -/
def levelAt? : List String → Option Level
  | [] => some
      { about := "Compile and replay scripted DevTools protocol exchanges"
        flags := commonFlags ++ [versionFlag]
        commands := ["compile", "replay", "protocols", "config", "help"] }
  | ["compile"] => some
      { about := "Print the steps a protocol compiles to for the given options"
        flags := [configFlag, optionFlag, verboseFlag, helpFlag]
        operands := [protocolOperand] }
  | ["replay"] => some
      { about := "Run a protocol against recorded browser messages"
        flags :=
          [configFlag, messagesFlag, optionFlag, verboseFlag, sessionFlag, outFlag, helpFlag]
        operands := [protocolOperand] }
  | ["protocols"] => some { about := "List built-in protocols", flags := commonFlags }
  | ["config"] => some
      { about := "Configuration management"
        flags := commonFlags
        commands := ["show", "get", "help"] }
  | ["config", "show"] => some { about := "Show current configuration", flags := commonFlags }
  | ["config", "get"] => some
      { about := "Get a specific config value"
        flags := commonFlags
        operands := [("<KEY>", "")] }
  | ["help"] => some helpLevel
  | ["config", "help"] => some helpLevel
  | _ => none

/-- The most levels that follow one another. -/
def levelDepth : Nat := 3

/-! ### Reading -/

/-- What the arguments of one level say: flags and their values in order, a flag with a value that
is not taken up yet, operands, and the command that follows with the arguments after it. -/
structure Parsed where
  flags : List (String × String) := []
  held : Option (Flag × String) := none
  operands : List String := []
  command : Option (String × List String) := none

namespace Parsed

/-- The values of a flag. -/
def values (parsed : Parsed) (flag : String) : List String :=
  (parsed.flags.filter (·.1 == flag)).map Prod.snd

/-- Take up a flag with a value. -/
def give (parsed : Parsed) (flag : Flag) (value : String) : Except Halt Parsed :=
  if (flag.repeats || (parsed.values flag.long).isEmpty) && flag.accepts value then
    .ok { parsed with flags := parsed.flags ++ [(flag.long, value)] }
  else .error .misuse

/-- Take up a flag without a value, on the level of some commands. -/
def mark (parsed : Parsed) (path : List String) (flag : Flag) : Except Halt Parsed :=
  match flag.kind with
  | .help => .error (.help path)
  | .version => .error .version
  | _ => parsed.give flag ""

/-- Take up the flag that is held. -/
def settle (parsed : Parsed) : Except Halt Parsed :=
  match parsed.held with
  | some (flag, value) => { parsed with held := none }.give flag value
  | none => .ok parsed

/-- Take up an operand, if the level has one more. -/
def takeOperand (level : Level) (parsed : Parsed) (operand : String) : Except Halt Parsed := do
  let parsed ← parsed.settle
  if parsed.operands.length < level.operands.length then
    return { parsed with operands := parsed.operands ++ [operand] }
  else .error .misuse

/-- Check that nothing is missing at the end of a level. -/
def complete (level : Level) (parsed : Parsed) : Except Halt Parsed := do
  let parsed ← parsed.settle
  let given := level.flags.all fun flag =>
    !flag.required || !(parsed.values flag.long).isEmpty
  if given && parsed.operands.length == level.operands.length &&
      (level.commands.isEmpty || parsed.command.isSome) then return parsed
  else .error .misuse

end Parsed

/-- Read letters behind one hyphen.  The first letter that takes a value takes the rest of the
argument, after an equals sign if there is one, or else the next argument; in the latter case its
flag is returned. -/
def readLetters (path : List String) (flags : List Flag) (parsed : Parsed) :
    List Char → Except Halt (Parsed × Option Flag)
  | [] => .ok (parsed, none)
  | c :: rest =>
      match flags.find? (·.letter == some c) with
      | none => .error .misuse
      | some flag =>
          match flag.kind, rest with
          | .value _, [] => .ok (parsed, some flag)
          | .value _, '=' :: value => do
              return (← parsed.give flag (String.ofList value), none)
          | .value _, value => do return (← parsed.give flag (String.ofList value), none)
          | _, rest => do readLetters path flags (← parsed.mark path flag) rest

/-- Read a long flag behind two hyphens, in the same way. -/
def readLong (path : List String) (flags : List Flag) (parsed : Parsed) (text : List Char) :
    Except Halt (Parsed × Option Flag) :=
  let name := String.ofList (text.takeWhile (· != '='))
  match flags.find? (·.long == name) with
  | none => .error .misuse
  | some flag =>
      match flag.kind, text.dropWhile (· != '=') with
      | .value _, [] => .ok (parsed, some flag)
      | .value _, _ :: value => do return (← parsed.give flag (String.ofList value), none)
      | _, [] => do return (← parsed.mark path flag, none)
      | _, _ => .error .misuse

/-- Whether an argument looks like a flag: a lone hyphen does not. -/
def looksLikeFlag (argument : String) : Bool :=
  match argument.toList with
  | '-' :: _ :: _ => true
  | _ => false

/-- Read the flags of one argument that looks like one. -/
def readFlags (path : List String) (flags : List Flag) (parsed : Parsed) (argument : String) :
    Except Halt (Parsed × Option Flag) := do
  let parsed ← parsed.settle
  match argument.toList with
  | '-' :: '-' :: name => readLong path flags parsed name
  | '-' :: letters => readLetters path flags parsed letters
  | _ => .error .misuse

/-- The help that is asked for by a command of its own: on the level that the arguments after it
lead to. -/
def helpOn (path : List String) : Halt :=
  if (levelAt? path).isSome then .help path else .misuse

/-- Read the arguments of one level.  After two hyphens only operands follow. -/
def readLevel (path : List String) (level : Level) (parsed : Parsed) :
    List String → Except Halt Parsed
  | [] => .ok parsed
  | argument :: rest =>
      if argument = "--" then rest.foldlM (Parsed.takeOperand level) parsed
      else if looksLikeFlag argument then
        match readFlags path level.flags parsed argument, rest with
        | .error halt, _ => .error halt
        | .ok (parsed, none), rest => readLevel path level parsed rest
        | .ok (_, some _), [] => .error .misuse
        | .ok (parsed, some flag), value :: rest =>
            if looksLikeFlag value then .error .misuse
            else readLevel path level { parsed with held := some (flag, value) } rest
      else if level.commands.isEmpty then
        match parsed.takeOperand level argument with
        | .error halt => .error halt
        | .ok parsed => readLevel path level parsed rest
      else if argument = "help" then .error (helpOn (path ++ rest))
      else if level.commands.contains argument then
        .ok { parsed with command := some (argument, rest) }
      else .error .misuse

/-- Read the level of some commands and those that follow it, at most `depth` of them; also the
commands of the last one.  A level is complete only when those inside it are. -/
def readLevels : (depth : Nat) → (path arguments : List String) →
    Except Halt (List String × List Parsed)
  | 0, _, _ => .error .misuse
  | depth + 1, path, arguments =>
      match levelAt? path with
      | none => .error .misuse
      | some level => do
          let parsed ← readLevel path level {} arguments
          let (last, inner) ← match parsed.command with
            | none => pure (path, [])
            | some (name, rest) => readLevels depth (path ++ [name]) rest
          return (last, (← parsed.complete level) :: inner)

/-! ### Invocations -/

/-- What the program is asked to do. -/
inductive Command where
  | compile (protocol : String) (options : List (String × Json))
  | replay (protocol : String) (messages : String) (options : List (String × Json))
      (session : Option String) (out : Option String)
  | protocols
  | showConfig
  | getConfig (key : String)

/-- A command, with the configuration file if one is named. -/
structure Invocation where
  config : Option String
  verbose : Bool
  command : Command

/-- The options of a level, which are well formed. -/
def Parsed.options (parsed : Parsed) : List (String × Json) :=
  (parsed.values "option").filterMap fun raw => (parseOption raw).toOption

/-- The command that the innermost level stands for. -/
def commandOf (path : List String) (parsed : Parsed) : Option Command :=
  match path, parsed.operands with
  | ["compile"], [protocol] => some (.compile protocol parsed.options)
  | ["replay"], [protocol] => do
      let messages ← (parsed.values "messages").head?
      return .replay protocol messages parsed.options (parsed.values "session-id").head?
        (parsed.values "out").head?
  | ["protocols"], [] => some .protocols
  | ["config", "show"], [] => some .showConfig
  | ["config", "get"], [key] => some (.getConfig key)
  | _, _ => none

/-- Read all arguments of the program. -/
def parseArguments (arguments : List String) : Except Halt Invocation := do
  let (path, levels) ← readLevels levelDepth [] arguments
  match levels.getLast?.bind (commandOf path) with
  | none => .error .misuse
  | some command =>
      let found := levels.flatMap Parsed.flags
      return {
        config := ((found.filter (·.1 == "config")).map Prod.snd).getLast?
        verbose := found.any (·.1 == "verbose")
        command }

end Dialogue.Cli

import Dialogue.Cli.Arguments
/-!
# Help texts

The texts that answer a request for help or for the version.  A help text has a description, a line
on the usage, and the lists of commands, operands and flags with aligned descriptions; a list with
nothing in it is left out.
-/

namespace Dialogue.Cli

def programName : String := "cdp-script"

def versionNumber : String := "0.1.0"

/-- A text with blanks after it up to a width. -/
def padBack (width : Nat) (text : String) : String :=
  text ++ String.ofList (List.replicate (width - text.length) ' ')

/-- Rows of two columns, the second of which starts two blanks after the widest entry. -/
def rows (entries : List (String × String)) : List String :=
  let width := (entries.map (·.1.length)).foldl max 0
  entries.map fun (entry, about) => "  " ++ padBack width entry ++ "  " ++ about

/-- A list under its heading, or nothing if it is empty. -/
def listing (heading : String) (entries : List (String × String)) : List String :=
  if entries.isEmpty then [] else ["\n".intercalate (heading :: rows entries)]

/-- A flag with its value, by its long name. -/
def Flag.longForm (flag : Flag) : String :=
  match flag.kind with
  | .value name => s!"--{flag.long} <{name}>"
  | _ => s!"--{flag.long}"

/-- A flag with its letter, or blanks in its place. -/
def Flag.entry (flag : Flag) : String :=
  match flag.letter with
  | some letter => s!"-{letter}, {flag.longForm}"
  | none => s!"    {flag.longForm}"

/-- How the level of some commands is used. -/
def usageLine (path : List String) (level : Level) : String :=
  let required := (level.flags.filter (·.required)).map Flag.longForm
  "Usage: " ++ " ".intercalate
    (programName :: path ++ (if level.flags.isEmpty then [] else ["[OPTIONS]"]) ++ required ++
      level.operands.map Prod.fst ++ (if level.commands.isEmpty then [] else ["<COMMAND>"]))

/-- The commands of a level with their descriptions. -/
def commandEntries (path : List String) (level : Level) : List (String × String) :=
  level.commands.map fun name => (name, ((levelAt? (path ++ [name])).map Level.about).getD "")

/-- The help on the level of some commands. -/
def helpText (path : List String) (level : Level) : String :=
  "\n\n".intercalate
    ([level.about, usageLine path level] ++ listing "Commands:" (commandEntries path level) ++
      listing "Arguments:" level.operands ++
      listing "Options:" (level.flags.map fun flag => (flag.entry, flag.about))) ++ "\n"

/-- What is printed when the arguments do not lead to an invocation. -/
def Halt.text : Halt → String
  | .misuse => ""
  | .version => s!"{programName} {versionNumber}\n"
  | .help path =>
      match levelAt? path with
      | some level => helpText path level
      | none => ""

/-- A request for help or for the version succeeds. -/
def Halt.exitCode : Halt → Nat
  | .misuse => 2
  | .version | .help _ => 0

end Dialogue.Cli

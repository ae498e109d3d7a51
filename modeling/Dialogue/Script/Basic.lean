import Dialogue.Step
/-!
# Scripts

A script is a named sequence of elements: steps, blocks that apply only under an option, and whole
scripts spliced in.  Blocks are marked by an opening and a closing element and may not nest.
`Script.build` checks that while it reads the elements from left to right and reports the first
violation.
-/

namespace Dialogue

/-- The options that a script is compiled against, by key. -/
abbrev Options := Table Json

/-- One element of a script. -/
inductive Element where
  | call (name : String) (spec : CallSpec)
  | await (name : String) (handler : AwaitHandler)
  | output (name : String) (spec : OutputSpec)
  /-- Open a block that applies when the option is present and, if values are given, equals one of
  them. -/
  | ifOption (key : String) (allowed : Option (List Json))
  | endIf
  /-- The elements of another script, at this place. -/
  | splice (name : String) (body : List Element)

namespace Element

/-- Return one value of the final state. -/
def outputOne (key : String) : Element :=
  .output key (.single key)

/-- Return several values of the final state; the keys name the step. -/
def outputMany (keys : List String) : Element :=
  .output (",".intercalate keys) (.many keys)

def awaitResponse (name : String) (handler : AwaitResponse) : Element :=
  .await name (.response handler)

def awaitNotification (name : String) (handler : AwaitNotification) : Element :=
  .await name (.notification handler)

end Element

/-- A named sequence of elements. -/
structure Script where
  name : String
  elements : List Element

/-- A script as an element of another one. -/
def Script.spliced (script : Script) : Element :=
  .splice script.name script.elements

/-- What is known of a sequence of elements that has been read up to some place: the key of the open
block, and the first violation. -/
structure BlockCheck where
  openKey : Option String
  violation : Option ScriptError

namespace BlockCheck

def start : BlockCheck := ⟨none, none⟩

/-- Note a violation unless there is an earlier one. -/
def note (check : BlockCheck) (error : ScriptError) : BlockCheck :=
  { check with violation := check.violation.or (some error) }

/-- Read one more element.  A block that opens inside another one leaves the outer one open. -/
def read (check : BlockCheck) : Element → BlockCheck
  | .ifOption key _ =>
      match check.openKey with
      | some outer => check.note (.nestedConditional key outer)
      | none => { check with openKey := some key }
  | .endIf =>
      match check.openKey with
      | some _ => { check with openKey := none }
      | none => check.note .unbalancedEndIf
  | _ => check

/-- The verdict at the end of the sequence: the first violation, or a block that was never
closed. -/
def verdict (check : BlockCheck) : Except ScriptError Unit :=
  match check.violation, check.openKey with
  | some error, _ => .error error
  | none, some key => .error (.unterminatedConditional key)
  | none, none => .ok ()

end BlockCheck

/-- The script with these elements, if its blocks are closed and do not nest. -/
def Script.build (name : String) (elements : List Element) : Except ScriptError Script := do
  (elements.foldl BlockCheck.read .start).verdict
  return ⟨name, elements⟩

end Dialogue

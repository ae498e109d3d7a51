import Dialogue.Failure
import Dialogue.State
/-!
# Reactions to a message

What a pending await step does with one message, and the warnings that are given on the way.
-/

namespace Dialogue

/-- What becomes of a message that is offered to a pending step. -/
inductive Reaction where
  /-- The message is not for this step and is forgotten. -/
  | dropped
  /-- The message is used up, and the step stays pending in this state. -/
  | kept (state : State)
  /-- The step is satisfied and leaves this state. -/
  | satisfied (state : State)
  /-- The run ends. -/
  | failed (failure : Failure)

/-- Something that is reported without ending a run. -/
inductive Warning where
  | unhandledException (description : String)
  | consoleCalled (type : String) (args : Json)
  /-- A frame that is neither a response nor a notification. -/
  | skippedFrame (reason : ScriptError)

def Warning.message : Warning → String
  | .unhandledException description => s!"Unhandled exception in JS runtime: {description}"
  | .consoleCalled type args => s!"console.{type}() called: {args.compact}"
  | .skippedFrame reason => s!"Skipping unclassifiable frame: {reason.message}"

end Dialogue

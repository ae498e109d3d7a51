import Dialogue.Message
import Dialogue.Policy
import Dialogue.Reaction
/-!
# Interception

Exceptions and console calls of the run's own session can arrive at any time.  They are claimed
before the pending step sees them: the step stays pending in an unchanged state, or the run ends,
as the policy of the event says.  No other message is claimed.
-/

namespace Dialogue

def exceptionMethod : String := "Runtime.exceptionThrown"

def consoleMethod : String := "Runtime.consoleAPICalled"

/-- A runtime event with its parameters. -/
inductive RuntimeEvent where
  | exception (params : Json)
  | console (params : Json)

namespace RuntimeEvent

/-- The event that a message is for a run in this state, if it is one: the session of the
notification has to be the run's. -/
def of? (state : State) : Message → Option RuntimeEvent
  | .response .. => none
  | .notification method params session =>
      if session ≠ state.sessionId? then none
      else if method = exceptionMethod then some (.exception params)
      else if method = consoleMethod then some (.console params)
      else none

/-- The description of a thrown exception.  The member of the exception object comes first and, when
it is present, decides; else the text of the details does.  What is no text describes nothing. -/
def description (params : Json) : String :=
  let details := params.field? "exceptionDetails"
  let described := details.bind (·.at? ["exception", "description"])
  let chosen := described.or (details.bind (·.field? "text"))
  (chosen.bind Json.asString?).getD "unknown exception"

/-- The console function that was called; a plain log unless the parameters name another. -/
def consoleType (params : Json) : String :=
  ((params.field? "type").bind Json.asString?).getD "log"

/-- The arguments of a console call. -/
def consoleArgs (params : Json) : Json :=
  (params.field? "args").getD (.arr [])

/-- The policy that a state has for an event. -/
def policy (state : State) : RuntimeEvent → Policy
  | .exception _ => Policy.ofState state Policy.exceptionKey Policy.exceptionDefault
  | .console _ => Policy.ofState state Policy.consoleKey Policy.consoleDefault

/-- The failure that a raised event ends a run with. -/
def failure : RuntimeEvent → Failure
  | .exception params => .exceptionThrown (description params)
  | .console params => .consoleCalled (consoleType params) (consoleArgs params)

/-- The warning that a logged event gives. -/
def warning : RuntimeEvent → Warning
  | .exception params => .unhandledException (description params)
  | .console params => .consoleCalled (consoleType params) (consoleArgs params)

end RuntimeEvent

/-- What interception does with a message; messages that are not claimed are dropped here. -/
def intercept (state : State) (message : Message) : Reaction :=
  match RuntimeEvent.of? state message with
  | none => .dropped
  | some event =>
      match event.policy state with
      | .raise => .failed event.failure
      | .ignore | .log => .kept state

/-- The warnings that a message gives while a step is pending. -/
def interceptionWarnings (state : State) (message : Message) : List Warning :=
  match RuntimeEvent.of? state message with
  | none => []
  | some event => if event.policy state = .log then [event.warning] else []

end Dialogue

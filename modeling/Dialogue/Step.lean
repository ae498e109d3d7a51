import Dialogue.Interception
import Dialogue.KeySpec
/-!
# Steps

A step does one thing in a run.  A call step resolves its parameters and issues a call under a fresh
id; an await step reacts to messages until it is satisfied; an output step projects the state into
the result.  An await step consults interception before its own handler.
-/

namespace Dialogue

/-- A declared call. -/
structure CallSpec where
  method : String
  params : ParamSource := .keys []
  defaults : Table Json := .empty

/-- Resolve a call in a state and record its id as the one to await.  The call is scoped to the
session of the state. -/
def CallSpec.issue (spec : CallSpec) (state : State) (id : CallId) :
    Except ScriptError (State × Call) := do
  let params ← resolveParams state spec.params spec.defaults
  return (state.insert lastCallIdKey (.word id), ⟨spec.method, params, state.sessionId?⟩)

/-- A check of the response to a call. -/
abbrev ResponseCheck := State → Message → Except Failure Unit

/-- The check of a response that is given none: an error member fails it. -/
def rejectErrors : ResponseCheck := fun _ message =>
  match message.error? with
  | some error => .error (.response error)
  | none => .ok ()

/-- Waiting for the response to the last call. -/
structure AwaitResponse where
  check : ResponseCheck := rejectErrors
  extract : List KeySpec := []

/-- Waiting for a notification of the run's session. -/
structure AwaitNotification where
  method : String
  matchOn : List KeySpec := []
  extract : List KeySpec := []

/-- Only the response with the id of the last call counts.  A response that passes the check leaves
its fields in the state; a missing result is an empty one. -/
def AwaitResponse.react (handler : AwaitResponse) (state : State) (message : Message) :
    Except ScriptError Reaction :=
  match state.lastCallId? with
  | none => .ok .dropped
  | some id =>
      if message.isResponseTo id then
        match handler.check state message with
        | .error failure => .ok (.failed failure)
        | .ok () => do
            let result := message.result?.getD (.obj .empty)
            let next ← extractFields state result "result" handler.extract
            return .satisfied next
      else .ok .dropped

/-- Only a notification with this method and the run's session counts, and only if its parameters
agree with the state. -/
def AwaitNotification.react (handler : AwaitNotification) (state : State) (message : Message) :
    Except ScriptError Reaction :=
  match message with
  | .response .. => .ok .dropped
  | .notification method params session =>
      if method = handler.method ∧ session = state.sessionId? then do
        if ← fieldsMatch state params handler.matchOn then
          let next ← extractFields state params handler.method handler.extract
          return .satisfied next
        else return .dropped
      else .ok .dropped

/-- The two ways of waiting. -/
inductive AwaitHandler where
  | response (handler : AwaitResponse)
  | notification (handler : AwaitNotification)

namespace AwaitHandler

/-- What the handler itself does with a message. -/
def react (handler : AwaitHandler) (state : State) (message : Message) :
    Except ScriptError Reaction :=
  match handler with
  | .response handler => handler.react state message
  | .notification handler => handler.react state message

/-- What a pending await step does with a message: interception comes first, and the handler sees
only what it does not claim. -/
def offer (handler : AwaitHandler) (state : State) (message : Message) :
    Except ScriptError Reaction :=
  match intercept state message with
  | .dropped => handler.react state message
  | claimed => .ok claimed

end AwaitHandler

/-- What is returned of the final state: one value, or an object of several. -/
inductive OutputSpec where
  | single (key : String)
  | many (keys : List String)
deriving DecidableEq, Repr

/-- The values of some keys, all of which have to be there. -/
def collectOutputs (state : State) (found : Table Json) :
    List String → Except ScriptError (Table Json)
  | [] => .ok found
  | key :: rest => do
      let value ← state.fetch key
      collectOutputs state (found.insert key value) rest

def OutputSpec.project (spec : OutputSpec) (state : State) : Except ScriptError Json :=
  match spec with
  | .single key => state.fetch key
  | .many keys => do
      let members ← collectOutputs state .empty keys
      return .obj members

/-- What a step does. -/
inductive Action where
  | call (spec : CallSpec)
  | await (handler : AwaitHandler)
  | output (spec : OutputSpec)

/-- One step of a run. -/
structure Step where
  name : String
  action : Action

/-- The kind of a step in listings. -/
def Action.kind : Action → String
  | .call _ => "call"
  | .await _ => "await"
  | .output _ => "output"

end Dialogue

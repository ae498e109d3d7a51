import Dialogue.Error
import Dialogue.Json.Path
/-!
# State of a run

The values that the steps of a run read and write, by key.  Two keys are reserved: the target
session that the run is scoped to, and the id of the call that was issued last.  A key of another
type than its reader expects reads as absent.
-/

namespace Dialogue

/-- The id that ties a response to its call; ids wrap around after the greatest one. -/
abbrev CallId := UInt64

/-- The key of the session that a run is scoped to. -/
def sessionIdKey : String := "sessionId"

/-- The key of the id of the last issued call. -/
def lastCallIdKey : String := "lastCallId"

/-- The values of a run, by key. -/
structure State where
  values : Table Json

namespace State

def empty : State := ⟨Table.empty⟩

def get? (state : State) (key : String) : Option Json :=
  state.values.get? key

def contains (state : State) (key : String) : Bool :=
  state.values.contains key

/-- The value of a key that has to be there. -/
def fetch (state : State) (key : String) : Except ScriptError Json :=
  match state.get? key with
  | some value => .ok value
  | none => .error (.missingKey key)

/-- The value at a path whose first segment is a key.  The empty path leads nowhere. -/
def at? (state : State) : List String → Option Json
  | [] => none
  | key :: rest => (state.get? key).bind (·.at? rest)

/-- The value at a path that has to be there. -/
def fetchAt (state : State) (path : List String) : Except ScriptError Json :=
  match state.at? path with
  | some value => .ok value
  | none => .error (.missingPath path "state")

def insert (state : State) (key : String) (value : Json) : State :=
  ⟨state.values.insert key value⟩

/-- The session that the run is scoped to; only a text counts. -/
def sessionId? (state : State) : Option String :=
  (state.get? sessionIdKey).bind Json.asString?

/-- The id of the last issued call; only an unsigned integer counts. -/
def lastCallId? (state : State) : Option CallId :=
  (state.get? lastCallIdKey).bind Json.asWord?

/-- The state as one object. -/
def toJson (state : State) : Json :=
  .obj state.values

theorem get?_insert (state : State) (key other : String) (value : Json) :
    (state.insert key value).get? other = if other = key then some value else state.get? other :=
  state.values.get?_insert key other value

@[simp] theorem lastCallId?_insert (state : State) (id : CallId) :
    (state.insert lastCallIdKey (.word id)).lastCallId? = some id := by
  simp [lastCallId?, get?_insert, Json.word, Json.asWord?]

end State

end Dialogue

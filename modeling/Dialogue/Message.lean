import Dialogue.State
/-!
# Calls and messages

What goes out is a call, framed under an id and, where it has one, a session.  What comes in is a
message: the response to a call, recognised by its `id`, or a notification, recognised by its
`method`.  Anything else cannot be classified.

Ids are drawn one after the other.  A generator of ids is no more than the id that it hands out next.
-/

namespace Dialogue

/-- The id that is drawn first unless another one is asked for. -/
def CallId.first : CallId := 1

/-- Draw an id, with the one to draw next.  After the greatest id comes 0. -/
def CallId.draw (nextId : CallId) : CallId × CallId :=
  (nextId, nextId + 1)

@[simp] theorem CallId.draw_eq (nextId : CallId) : CallId.draw nextId = (nextId, nextId + 1) := rfl

/-- So many ids, drawn one after the other. -/
def drawnIds (firstId : CallId) : Nat → List CallId
  | 0 => []
  | count + 1 =>
      let (id, nextId) := CallId.draw firstId
      id :: drawnIds nextId count

/-- An outgoing request before it has an id. -/
structure Call where
  method : String
  params : Table Json
  sessionId : Option String

namespace Call

/-- The members that a call has besides an id. -/
def members (call : Call) : List (String × Json) :=
  ("method", .str call.method) :: ("params", .obj call.params) ::
    (call.sessionId.map fun session => ("sessionId", Json.str session)).toList

/-- The object of a call; a call without a session has no such member. -/
def toJson (call : Call) : Json :=
  .object call.members

/-- The frame that is sent for a call. -/
def toFrame (call : Call) (id : CallId) : Json :=
  .object (("id", .word id) :: call.members)

/-- Read the session member of a call, where null means none. -/
def sessionOfJson? : Option Json → Option (Option String)
  | none => some none
  | some .null => some none
  | some (.str session) => some (some session)
  | some _ => none

/-- Read a call from an object, whose other members do not matter, or from the array of its three
members in order. -/
def ofJson? : Json → Option Call
  | .obj members =>
      match members.get? "method", members.get? "params",
        sessionOfJson? (members.get? "sessionId") with
      | some (.str method), some (.obj params), some session => some ⟨method, params, session⟩
      | _, _, _ => none
  | .arr [.str method, .obj params, session] =>
      (sessionOfJson? (some session)).map fun session => ⟨method, params, session⟩
  | _ => none

end Call

/-- An incoming message. -/
inductive Message where
  /-- The reply to a call; both members are kept only if they are present, null included. -/
  | response (id : CallId) (result : Option Json) (error : Option Json)
  /-- An event, scoped to a session or to none. -/
  | notification (method : String) (params : Json) (sessionId : Option String)

namespace Message

/-- Classify a value.  An `id` makes it a response, and then it has to be an unsigned integer; else
a textual `method` makes it a notification, whose parameters are empty unless given. -/
def ofJson (value : Json) : Except ScriptError Message :=
  match value with
  | .obj members =>
      match members.get? "id" with
      | some id =>
          match id.asWord? with
          | some id => .ok (.response id (members.get? "result") (members.get? "error"))
          | none => .error (.invalidMessage (.badId id))
      | none =>
          match members.get? "method" with
          | some (.str method) =>
              .ok (.notification method ((members.get? "params").getD (.obj .empty))
                ((members.get? "sessionId").bind Json.asString?))
          | _ => .error (.invalidMessage .neitherIdNorMethod)
  | _ => .error (.invalidMessage .notAnObject)

def isResponseTo (message : Message) (call : CallId) : Bool :=
  match message with
  | .response id _ _ => id == call
  | .notification .. => false

def isNotification (message : Message) (expected : String) : Bool :=
  match message with
  | .response .. => false
  | .notification method _ _ => method == expected

/-- The error of an error response. -/
def error? : Message → Option Json
  | .response _ _ error => error
  | .notification .. => none

def result? : Message → Option Json
  | .response _ result _ => result
  | .notification .. => none

/-- The session that a notification is scoped to. -/
def sessionId? : Message → Option String
  | .response .. => none
  | .notification _ _ session => session

end Message

end Dialogue

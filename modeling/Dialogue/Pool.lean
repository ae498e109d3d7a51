import Dialogue.Message
import Dialogue.Run.Error
/-!
# The pool of sessions

A pool holds a bounded number of attached sessions.  A run checks out an idle session, which is then
in use until it is checked in again or removed.  Which of several idle sessions is handed out is not
determined; the choice is a parameter of `Pool.checkout`.
-/

namespace Dialogue

/-- One attached session of a target. -/
structure SessionHandle where
  sessionId : String
  targetId : String
  inUse : Bool := false
deriving DecidableEq, Repr

/-- A text member of a spawned output. -/
def spawnedField (output : Json) (key : String) : Except ScriptError String :=
  match (output.field? key).bind Json.asString? with
  | some value => .ok value
  | none => .error (.missingKey key)

/-- The idle handle for the output of a script that spawned a session. -/
def SessionHandle.ofSpawned (output : Json) : Except ScriptError SessionHandle := do
  let sessionId ← spawnedField output "sessionId"
  let targetId ← spawnedField output "targetId"
  return { sessionId, targetId }

/-- The registered sessions, by session id, and how many there may be. -/
structure Pool where
  capacity : Nat
  sessions : Table SessionHandle := .empty

namespace Pool

/-- The number of registered sessions. -/
def active (pool : Pool) : Nat :=
  pool.sessions.size

/-- Whether another session may be registered. -/
def hasCapacity (pool : Pool) : Bool :=
  pool.active < pool.capacity

/-- Register a session as idle.  A known session is registered anew, whatever it was; an unknown one
needs a free place. -/
def register (pool : Pool) (handle : SessionHandle) : Except RunError Pool :=
  if pool.hasCapacity || pool.sessions.contains handle.sessionId then
    let idle := { handle with inUse := false }
    .ok { pool with sessions := pool.sessions.insert handle.sessionId idle }
  else
    .error (.poolExhausted pool.capacity)

/-- The idle sessions, in the order of their ids. -/
def idle (pool : Pool) : List SessionHandle :=
  (pool.sessions.entries.map Prod.snd).filter (!·.inUse)

/-- Hand out an idle session, if there is one, and mark it as in use.  `choice` picks one of
them. -/
def checkout (pool : Pool) (choice : Nat) : Option (SessionHandle × Pool) :=
  match pool.idle[choice % pool.idle.length]? with
  | none => none
  | some handle =>
      let taken := { handle with inUse := true }
      some (taken, { pool with sessions := pool.sessions.insert handle.sessionId taken })

/-- Hand out sessions until none is idle, at most `limit` of them. -/
def checkoutAll : Nat → Pool → List SessionHandle × Pool
  | 0, pool => ([], pool)
  | limit + 1, pool =>
      match pool.checkout 0 with
      | none => ([], pool)
      | some (handle, pool) =>
          let (others, pool) := checkoutAll limit pool
          (handle :: others, pool)

/-- Make a session idle again; an unknown one is of no concern. -/
def checkin (pool : Pool) (sessionId : String) : Pool :=
  match pool.sessions.get? sessionId with
  | none => pool
  | some handle =>
      { pool with sessions := pool.sessions.insert sessionId { handle with inUse := false } }

/-- Forget a session and return it, if it was known. -/
def remove (pool : Pool) (sessionId : String) : Option SessionHandle × Pool :=
  (pool.sessions.get? sessionId, { pool with sessions := pool.sessions.erase sessionId })

end Pool

end Dialogue

import Dialogue.Run.Execution
/-!
# Transports

A run reaches the other side through a transport, which takes frames and hands out messages.  There
are two of them.  A replay hands out the messages of a transcript and records the frames.  A pair of
channels leads to some other task, which holds the far ends: it takes frames out of one channel and
puts messages into the other.  Channels are lossless and keep their order, and what is queued is
received before the time of a step is over.

`Transport.execute` executes steps over any transport.  It says how a run looks to those who have
such a transport; `execute` says the same of a queue of arrivals.
-/

namespace Dialogue

/-- What comes of asking a transport for the next message. -/
inductive Receipt (Connection : Type) where
  | message (received : Message) (after : Connection)
  /-- The connection is gone. -/
  | gone (after : Connection)
  /-- Nothing comes before the time is over. -/
  | nothing (after : Connection)

/-- Frames go out and messages come in over a connection. -/
class Transport (Connection : Type) where
  /-- Send a frame, if the other side takes it. -/
  send : Connection → Json → Option Connection
  receive : Connection → Receipt Connection
  /-- A bound of how many messages can be received. -/
  backlog : Connection → Nat
  backlog_lt : ∀ {connection after : Connection} {received : Message},
    receive connection = .message received after → backlog after < backlog connection

/-! ### Execution over a transport -/

/-- All that is known after some steps were executed over a connection. -/
structure Transport.Report (Connection : Type) where
  result : Except RunError Json
  connection : Connection
  nextId : CallId

namespace Transport

variable {Connection : Type} [Transport Connection]

/-- Receive messages for a step until it is satisfied or the run ends. -/
def awaitStep (timeout : Nat) (step : String) (handler : AwaitHandler) (state : State)
    (connection : Connection) : Except RunError State × Connection :=
  match received : receive connection with
  | .gone after => (.error (.closed step), after)
  | .nothing after => (.error (.timeout step timeout), after)
  | .message message after =>
      have : backlog after < backlog connection := backlog_lt received
      match handler.offer state message with
      | .error cause => (.error (.fatal cause), after)
      | .ok .dropped => awaitStep timeout step handler state after
      | .ok (.kept next) => awaitStep timeout step handler next after
      | .ok (.satisfied next) => (.ok next, after)
      | .ok (.failed failure) => (.error (.failed step failure), after)
termination_by backlog connection

section
variable {timeout : Nat} {step : String} {handler : AwaitHandler} {state : State}
  {connection after : Connection}

/-- Where the connection is gone a step ends the run. -/
theorem awaitStep_of_gone (received : receive connection = .gone after) :
    awaitStep timeout step handler state connection = (.error (.closed step), after) := by
  rw [awaitStep]
  split <;> simp_all

/-- Where nothing comes a step ends the run once its time is over. -/
theorem awaitStep_of_nothing (received : receive connection = .nothing after) :
    awaitStep timeout step handler state connection = (.error (.timeout step timeout), after) := by
  rw [awaitStep]
  split <;> simp_all

/-- A message that is received is offered to the step. -/
theorem awaitStep_of_message {message : Message}
    (received : receive connection = .message message after) :
    awaitStep timeout step handler state connection =
      match handler.offer state message with
      | .error cause => (.error (.fatal cause), after)
      | .ok .dropped => awaitStep timeout step handler state after
      | .ok (.kept next) => awaitStep timeout step handler next after
      | .ok (.satisfied next) => (.ok next, after)
      | .ok (.failed failure) => (.error (.failed step failure), after) := by
  rw [awaitStep]
  split <;> simp_all

end

/-- Execute steps over a connection, each of them waiting for so long at most. -/
def execute (timeout : Nat) : List Step → State → CallId → Connection → Report Connection
  | [], _, nextId, connection => { result := .ok .null, connection, nextId }
  | step :: rest, state, nextId, connection =>
      match step.action with
      | .call spec =>
          let (id, nextId) := CallId.draw nextId
          match spec.issue state id with
          | .error cause => { result := .error (.fatal cause), connection, nextId }
          | .ok (next, call) =>
              match send connection (call.toFrame id) with
              | some after => execute timeout rest next nextId after
              | none => { result := .error .peerGone, connection, nextId }
      | .await handler =>
          match awaitStep timeout step.name handler state connection with
          | (.ok next, after) => execute timeout rest next nextId after
          | (.error error, after) => { result := .error error, connection := after, nextId }
      | .output spec =>
          match spec.project state with
          | .error cause => { result := .error (.fatal cause), connection, nextId }
          | .ok value => { result := .ok value, connection, nextId }

end Transport

/-- Run an instance over a connection. -/
def Instance.runOver {Connection : Type} [Transport Connection] (subject : Instance) (timeout : Nat)
    (firstId : CallId) (connection : Connection) : Transport.Report Connection :=
  Transport.execute timeout subject.steps subject.state firstId connection

/-! ### Replays -/

/-- The arrivals of a transcript that are still to be replayed, and the frames that were sent. -/
structure Replay where
  incoming : List Arrival
  sent : List Json := []

namespace Replay

/-- The replay of some frames. -/
def ofFrames (frames : List Json) : Replay :=
  { incoming := frames.map Arrival.ofJson }

/-- Let a frame be replayed after those that are there. -/
def push (replay : Replay) (frame : Json) : Replay :=
  { replay with incoming := replay.incoming ++ [Arrival.ofJson frame] }

/-- Record a frame that is sent. -/
def send (replay : Replay) (frame : Json) : Replay :=
  { replay with sent := replay.sent ++ [frame] }

/-- The next message, after the noise before it.  When there is none the connection is gone. -/
def receive (replay : Replay) : Receipt Replay :=
  match Arrival.nextMessage replay.incoming with
  | (some message, _, rest) => .message message { replay with incoming := rest }
  | (none, _, rest) => .gone { replay with incoming := rest }

/-- The warnings for the noise before the next message. -/
def warnings (replay : Replay) : List Warning :=
  (Arrival.nextMessage replay.incoming).2.1

end Replay

instance : Transport Replay where
  send replay frame := some (replay.send frame)
  receive := Replay.receive
  backlog replay := replay.incoming.length
  backlog_lt := by
    intro replay after received receipt
    rw [Replay.receive] at receipt
    split at receipt
    · rename_i message warnings rest next
      cases receipt
      exact Arrival.length_lt_of_nextMessage next
    · cases receipt

/-! ### Channels -/

/-- One direction between two tasks: what was put in and not yet taken out, the oldest first, and
whether the two ends are still held. -/
structure Channel (α : Type) where
  queued : List α := []
  senderHeld : Bool := true
  receiverHeld : Bool := true

namespace Channel

variable {α : Type}

/-- Put something in, if somebody may still take it out. -/
def put? (channel : Channel α) (item : α) : Option (Channel α) :=
  if channel.receiverHeld then some { channel with queued := channel.queued ++ [item] } else none

/-- Put several things in, one after the other. -/
def putAll? (channel : Channel α) : List α → Option (Channel α)
  | [] => some channel
  | item :: rest => do
      let next ← channel.put? item
      next.putAll? rest

/-- Let go of the end at which things are put in. -/
def dropSender (channel : Channel α) : Channel α :=
  { channel with senderHeld := false }

end Channel

/-- The near ends of two channels. -/
structure ChannelPair where
  outgoing : Channel Json := {}
  incoming : Channel Message := {}

namespace ChannelPair

/-- The oldest queued message.  When there is none it matters whether more may come. -/
def receive (pair : ChannelPair) : Receipt ChannelPair :=
  match pair.incoming.queued with
  | message :: rest =>
      .message message { pair with incoming := { pair.incoming with queued := rest } }
  | [] => if pair.incoming.senderHeld then .nothing pair else .gone pair

end ChannelPair

instance : Transport ChannelPair where
  send pair frame := (pair.outgoing.put? frame).map fun outgoing => { pair with outgoing }
  receive := ChannelPair.receive
  backlog pair := pair.incoming.queued.length
  backlog_lt := by
    intro pair after received receipt
    rw [ChannelPair.receive] at receipt
    split at receipt
    · rename_i message rest queued
      cases receipt
      simp [queued]
    · split at receipt <;> cases receipt

end Dialogue

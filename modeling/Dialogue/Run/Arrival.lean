import Dialogue.Message
import Dialogue.Reaction
import Dialogue.Json.Parser
import Dialogue.Text.Blank
import Dialogue.Text.Split
/-!
# What a run receives

A run receives a queue of arrivals.  An arrival is a message, or noise: a frame that is neither a
response nor a notification, and which is skipped with a warning.  A transcript is a text with one
frame a line; blank lines and lines that begin with `#` are left out.
-/

namespace Dialogue

/-- One received frame. -/
inductive Arrival where
  | message (received : Message)
  | noise (reason : ScriptError)

namespace Arrival

/-- Classify a frame. -/
def ofJson (frame : Json) : Arrival :=
  match Message.ofJson frame with
  | .ok received => .message received
  | .error reason => .noise reason

/-- Take the first message of a queue, with the warnings for the noise before it and the rest of the
queue. -/
def nextMessage : List Arrival → Option Message × List Warning × List Arrival
  | [] => (none, [], [])
  | .message received :: rest => (some received, [], rest)
  | .noise reason :: rest =>
      let (received, warnings, rest) := nextMessage rest
      (received, .skippedFrame reason :: warnings, rest)

/-- A message is taken out of the queue, and the noise before it too. -/
theorem length_lt_of_nextMessage {queue rest : List Arrival} {message : Message}
    {warnings : List Warning} (next : nextMessage queue = (some message, warnings, rest)) :
    rest.length < queue.length := by
  induction queue generalizing warnings with
  | nil => simp [nextMessage] at next
  | cons arrival later inductionHypothesis =>
      cases arrival with
      | message received =>
          simp only [nextMessage, Prod.mk.injEq] at next
          obtain ⟨_, _, rfl⟩ := next
          exact Nat.lt_succ_self _
      | noise reason =>
          rcases found : nextMessage later with ⟨first, before, left⟩
          simp only [nextMessage, found, Prod.mk.injEq] at next
          obtain ⟨rfl, _, rfl⟩ := next
          exact Nat.lt_succ_of_lt (inductionHypothesis found)

end Arrival

namespace Transcript

/-- Whether a trimmed line holds a frame. -/
def holdsFrame : List Char → Bool
  | [] => false
  | first :: _ => first != '#'

/-- The lines that hold frames, without the white space around them. -/
def frameLines (text : List Char) : List (List Char) :=
  ((Text.split '\n' text).map Text.trim).filter holdsFrame

/-- The frame on a line. -/
def readFrame (line : List Char) : Except ScriptError Json :=
  match Json.ofCharsWithin? Json.maxDepth line with
  | some frame => .ok frame
  | none => .error .jsonSyntax

/-- The frames of a transcript, or an error if a line that should hold one is not JSON. -/
def frames (text : String) : Except ScriptError (List Json) :=
  (frameLines text.toList).mapM readFrame

end Transcript

end Dialogue

import Dialogue.Instance
import Dialogue.Run.Arrival
import Dialogue.Run.Error
/-!
# Execution

The steps of an instance are executed strictly in order.  A call step draws the next id and sends
its frame; an await step consumes arrivals until it is satisfied or the run ends; the first output
step ends the run with its value.  A run whose steps are used up ends with null.

Execution is a function from the state, the next id and the queue of arrivals to a report, which
holds all that can be seen afterwards.
-/

namespace Dialogue

/-- What an await step meets when nothing is queued any more. -/
inductive Ending where
  /-- The connection is gone. -/
  | closed
  /-- Nothing will come before the time is over. -/
  | silent
deriving DecidableEq, Repr

/-- The circumstances of a run: how long one step may wait, how its arrivals end, and whether the
other side takes frames. -/
structure Link where
  timeout : Nat := 30000
  ending : Ending := .closed
  peerListens : Bool := true

/-- The error of a step that waits in vain. -/
def Link.starved (link : Link) (step : String) : RunError :=
  match link.ending with
  | .closed => .closed step
  | .silent => .timeout step link.timeout

/-- How execution of some steps ended. -/
inductive Finish where
  /-- An output step returned this value. -/
  | output (value : Json)
  | stopped (error : RunError)
  /-- All steps were done and none of them was an output. -/
  | done

/-- All that is known after some steps were executed. -/
structure Report where
  finish : Finish
  state : State
  remaining : List Arrival
  nextId : CallId
  sent : List Json := []
  warnings : List Warning := []

namespace Report

/-- The result of a run with this report. -/
def result (report : Report) : Except RunError Json :=
  match report.finish with
  | .output value => .ok value
  | .stopped error => .error error
  | .done => .ok .null

/-- The report of a run that sent a frame before this one. -/
def afterSending (report : Report) (frame : Json) : Report :=
  { report with sent := frame :: report.sent }

/-- The report of a run that gave these warnings before this one. -/
def afterWarnings (report : Report) (warnings : List Warning) : Report :=
  { report with warnings := warnings ++ report.warnings }

end Report

/-- How the wait of one step ended. -/
inductive WaitEnd where
  | satisfied (state : State)
  | stopped (error : RunError) (state : State)

/-- The end of a wait, the arrivals it did not consume, and the warnings it gave. -/
structure Wait where
  ended : WaitEnd
  remaining : List Arrival
  warnings : List Warning := []

/-- The wait after these warnings. -/
def Wait.afterWarnings (wait : Wait) (warnings : List Warning) : Wait :=
  { wait with warnings := warnings ++ wait.warnings }

/-- Offer arrivals to a step in order until it is satisfied or the run ends.  Noise is skipped, and
a message that is dropped or kept leaves the step pending. -/
def awaitStep (link : Link) (step : String) (handler : AwaitHandler) (state : State) :
    List Arrival → Wait
  | [] => { ended := .stopped (link.starved step) state, remaining := [] }
  | .noise reason :: rest =>
      (awaitStep link step handler state rest).afterWarnings [.skippedFrame reason]
  | .message message :: rest =>
      match handler.offer state message with
      | .error cause => { ended := .stopped (.fatal cause) state, remaining := rest }
      | .ok .dropped => awaitStep link step handler state rest
      | .ok (.kept next) =>
          (awaitStep link step handler next rest).afterWarnings (interceptionWarnings state message)
      | .ok (.satisfied next) => { ended := .satisfied next, remaining := rest }
      | .ok (.failed failure) =>
          { ended := .stopped (.failed step failure) state, remaining := rest }

/-- Execute steps from a state, with the next call id and the queued arrivals.  An id is drawn
before the parameters of its call are resolved, so a call that cannot be made still uses one up. -/
def execute (link : Link) : List Step → State → CallId → List Arrival → Report
  | [], state, nextId, queue => { finish := .done, state, remaining := queue, nextId }
  | step :: rest, state, nextId, queue =>
      match step.action with
      | .call spec =>
          let (id, nextId) := CallId.draw nextId
          match spec.issue state id with
          | .error cause => { finish := .stopped (.fatal cause), state, remaining := queue, nextId }
          | .ok (next, call) =>
              if link.peerListens then
                (execute link rest next nextId queue).afterSending (call.toFrame id)
              else { finish := .stopped .peerGone, state, remaining := queue, nextId }
      | .await handler =>
          let wait := awaitStep link step.name handler state queue
          match wait.ended with
          | .satisfied next =>
              (execute link rest next nextId wait.remaining).afterWarnings wait.warnings
          | .stopped error reached =>
              { finish := .stopped error, state := reached, remaining := wait.remaining, nextId
                warnings := wait.warnings }
      | .output spec =>
          match spec.project state with
          | .error cause => { finish := .stopped (.fatal cause), state, remaining := queue, nextId }
          | .ok value => { finish := .output value, state, remaining := queue, nextId }

/-- Run an instance over a queue of arrivals. -/
def Instance.run (subject : Instance) (link : Link) (firstId : CallId) (queue : List Arrival) :
    Report :=
  execute link subject.steps subject.state firstId queue

end Dialogue

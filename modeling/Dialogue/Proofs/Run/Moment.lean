import Dialogue.Proofs.Offer
import Dialogue.Run.Execution
import Mathlib.Logic.Relation
/-!
# The moments of a run

`execute` tells what is known when a run is over.  Here the same run is cut into moves.  A moment is
all that a run has at hand between two moves: the steps to do, the pending one first, and what it
has sent so far.  One move sends a frame or consumes an arrival.

A run has the same report at each of its moments (`report_of_reaches`), and it comes to a moment at
which it halts with the finish and the frames of that report (`run_halts`).  What every move keeps
therefore holds throughout the run that `execute` computes.
-/

namespace Dialogue

open Relation (ReflTransGen)

/-- A run between two of its moves. -/
structure Moment where
  /-- The steps that are not done yet, the pending one first. -/
  steps : List Step
  state : State
  nextId : CallId
  queue : List Arrival
  /-- The frames that were sent so far, in order. -/
  sent : List Json := []
  warnings : List Warning := []

/-- The first moment of an instance's run. -/
def Instance.start (subject : Instance) (firstId : CallId) (queue : List Arrival) : Moment :=
  { steps := subject.steps, state := subject.state, nextId := firstId, queue }

/-- The report of a run that is at this moment. -/
def Moment.report (link : Link) (moment : Moment) : Report :=
  let rest := execute link moment.steps moment.state moment.nextId moment.queue
  { rest with sent := moment.sent ++ rest.sent, warnings := moment.warnings ++ rest.warnings }

/-- One move of a run: a call is sent, or an arrival is consumed and does not end the run. -/
inductive Move (link : Link) : Moment → Moment → Prop where
  | call {moment : Moment} {name : String} {spec : CallSpec} {rest : List Step} {next : State}
      {call : Call}
      (pending : moment.steps = ⟨name, .call spec⟩ :: rest)
      (issued : spec.issue moment.state moment.nextId = .ok (next, call))
      (listening : link.peerListens = true) :
      Move link moment
        { moment with
          steps := rest, state := next, nextId := moment.nextId + 1
          sent := moment.sent ++ [call.toFrame moment.nextId] }
  | skip {moment : Moment} {name : String} {handler : AwaitHandler} {rest : List Step}
      {reason : ScriptError} {later : List Arrival}
      (pending : moment.steps = ⟨name, .await handler⟩ :: rest)
      (received : moment.queue = .noise reason :: later) :
      Move link moment
        { moment with
          queue := later, warnings := moment.warnings ++ [.skippedFrame reason] }
  | drop {moment : Moment} {name : String} {handler : AwaitHandler} {rest : List Step}
      {message : Message} {later : List Arrival}
      (pending : moment.steps = ⟨name, .await handler⟩ :: rest)
      (received : moment.queue = .message message :: later)
      (offered : handler.offer moment.state message = .ok .dropped) :
      Move link moment { moment with queue := later }
  | keep {moment : Moment} {name : String} {handler : AwaitHandler} {rest : List Step}
      {message : Message} {later : List Arrival} {next : State}
      (pending : moment.steps = ⟨name, .await handler⟩ :: rest)
      (received : moment.queue = .message message :: later)
      (offered : handler.offer moment.state message = .ok (.kept next)) :
      Move link moment
        { moment with
          state := next, queue := later
          warnings := moment.warnings ++ interceptionWarnings moment.state message }
  | satisfy {moment : Moment} {name : String} {handler : AwaitHandler} {rest : List Step}
      {message : Message} {later : List Arrival} {next : State}
      (pending : moment.steps = ⟨name, .await handler⟩ :: rest)
      (received : moment.queue = .message message :: later)
      (offered : handler.offer moment.state message = .ok (.satisfied next)) :
      Move link moment { moment with steps := rest, state := next, queue := later }

/-- Some moves lead from one moment to the other. -/
abbrev Reaches (link : Link) : Moment → Moment → Prop :=
  ReflTransGen (Move link)

/-- A run that is at this moment ends in this way with its next move. -/
inductive Halt (link : Link) : Moment → Finish → Prop where
  | done {moment : Moment} (finished : moment.steps = []) : Halt link moment .done
  | output {moment : Moment} {name : String} {spec : OutputSpec} {rest : List Step} {value : Json}
      (pending : moment.steps = ⟨name, .output spec⟩ :: rest)
      (projected : spec.project moment.state = .ok value) :
      Halt link moment (.output value)
  | unprojected {moment : Moment} {name : String} {spec : OutputSpec} {rest : List Step}
      {cause : ScriptError}
      (pending : moment.steps = ⟨name, .output spec⟩ :: rest)
      (refused : spec.project moment.state = .error cause) :
      Halt link moment (.stopped (.fatal cause))
  | unissued {moment : Moment} {name : String} {spec : CallSpec} {rest : List Step}
      {cause : ScriptError}
      (pending : moment.steps = ⟨name, .call spec⟩ :: rest)
      (refused : spec.issue moment.state moment.nextId = .error cause) :
      Halt link moment (.stopped (.fatal cause))
  | unsent {moment : Moment} {name : String} {spec : CallSpec} {rest : List Step} {next : State}
      {call : Call}
      (pending : moment.steps = ⟨name, .call spec⟩ :: rest)
      (issued : spec.issue moment.state moment.nextId = .ok (next, call))
      (deaf : link.peerListens = false) :
      Halt link moment (.stopped .peerGone)
  | starved {moment : Moment} {name : String} {handler : AwaitHandler} {rest : List Step}
      (pending : moment.steps = ⟨name, .await handler⟩ :: rest)
      (exhausted : moment.queue = []) :
      Halt link moment (.stopped (link.starved name))
  | rejected {moment : Moment} {name : String} {handler : AwaitHandler} {rest : List Step}
      {message : Message} {later : List Arrival} {cause : ScriptError}
      (pending : moment.steps = ⟨name, .await handler⟩ :: rest)
      (received : moment.queue = .message message :: later)
      (refused : handler.offer moment.state message = .error cause) :
      Halt link moment (.stopped (.fatal cause))
  | failed {moment : Moment} {name : String} {handler : AwaitHandler} {rest : List Step}
      {message : Message} {later : List Arrival} {failure : Failure}
      (pending : moment.steps = ⟨name, .await handler⟩ :: rest)
      (received : moment.queue = .message message :: later)
      (offered : handler.offer moment.state message = .ok (.failed failure)) :
      Halt link moment (.stopped (.failed name failure))

variable {link : Link} {moment next : Moment} {finish : Finish}

/-! ### Moves and the report -/

/-- An await step that consumes an arrival and stays pending adds nothing but warnings. -/
theorem Moment.report_of_consumed {name : String} {handler : AwaitHandler} {rest : List Step}
    {later : List Arrival} (warnings : List Warning)
    (pending : moment.steps = ⟨name, .await handler⟩ :: rest)
    (consumed : awaitStep link name handler moment.state moment.queue =
      (awaitStep link name handler moment.state later).afterWarnings warnings) :
    Moment.report link
        { moment with queue := later, warnings := moment.warnings ++ warnings } =
      moment.report link := by
  simp only [Moment.report, pending, execute, consumed, Wait.afterWarnings]
  cases (awaitStep link name handler moment.state later).ended with
  | satisfied next => simp [Report.afterWarnings]
  | stopped error reached => simp

/-- A move does not change the report of the run. -/
theorem Move.report_eq (move : Move link moment next) :
    next.report link = moment.report link := by
  cases move with
  | call pending issued listening =>
      simp [Moment.report, pending, execute, issued, listening, Report.afterSending]
  | skip pending received =>
      exact Moment.report_of_consumed _ pending (by rw [received, awaitStep])
  | @drop name handler rest message later pending received offered =>
      have same : awaitStep link name handler moment.state moment.queue =
          (awaitStep link name handler moment.state later).afterWarnings [] := by
        simp [received, awaitStep, offered, Wait.afterWarnings]
      simpa using Moment.report_of_consumed [] pending same
  | keep pending received offered =>
      -- Interception leaves the state alone, so the wait goes on from the same one.
      obtain rfl := AwaitHandler.eq_of_offer_kept offered
      exact Moment.report_of_consumed _ pending (by rw [received, awaitStep, offered])
  | satisfy pending received offered =>
      simp [Moment.report, pending, execute, received, awaitStep, offered, Report.afterWarnings]

/-- A run has the same report at each of its moments. -/
theorem report_of_reaches (reached : Reaches link moment next) :
    next.report link = moment.report link := by
  induction reached with
  | refl => rfl
  | tail _ move inductionHypothesis => rw [move.report_eq, inductionHypothesis]

/-- The report of an instance's run is the one of its first moment. -/
theorem report_start (link : Link) (subject : Instance) (firstId : CallId)
    (queue : List Arrival) :
    (subject.start firstId queue).report link = subject.run link firstId queue := by
  simp [Moment.report, Instance.start, Instance.run]

/-- The frames that a run has sent at one of its moments are the first ones of its report. -/
theorem sent_prefix_of_reaches {subject : Instance} {firstId : CallId} {queue : List Arrival}
    (reached : Reaches link (subject.start firstId queue) moment) :
    moment.sent <+: (subject.run link firstId queue).sent := by
  rw [← report_start, ← report_of_reaches reached]
  exact List.prefix_append _ _

/-- A run without a value was stopped. -/
theorem Report.finish_of_result_error {report : Report} {error : RunError}
    (failed : report.result = .error error) : report.finish = .stopped error := by
  rw [result] at failed
  cases finished : report.finish with
  | output value => simp [finished] at failed
  | done => simp [finished] at failed
  | stopped reason =>
      simp only [finished, Except.error.injEq] at failed
      rw [failed]

/-- A run with a value was not stopped. -/
theorem Report.finish_ne_stopped_of_result_ok {report : Report} {value : Json}
    (returned : report.result = .ok value) (error : RunError) :
    report.finish ≠ .stopped error := by
  intro stopped
  rw [result, stopped] at returned
  cases returned

/-! ### Every run halts -/

/-- Where a run halts its report has this finish, no further frame and the same state. -/
theorem Halt.report_eq (halt : Halt link moment finish) :
    (moment.report link).finish = finish ∧ (moment.report link).sent = moment.sent ∧
      (moment.report link).state = moment.state := by
  cases halt with
  | done finished => simp [Moment.report, finished, execute]
  | output pending projected => simp [Moment.report, pending, execute, projected]
  | unprojected pending refused => simp [Moment.report, pending, execute, refused]
  | unissued pending refused => simp [Moment.report, pending, execute, refused]
  | unsent pending issued deaf => simp [Moment.report, pending, execute, issued, deaf]
  | starved pending exhausted => simp [Moment.report, pending, execute, exhausted, awaitStep]
  | rejected pending received refused =>
      simp [Moment.report, pending, execute, received, awaitStep, refused]
  | failed pending received offered =>
      simp [Moment.report, pending, execute, received, awaitStep, offered]

/-- A pending await step moves or halts, whatever it receives. -/
theorem move_or_halt_of_await {name : String} {handler : AwaitHandler} {rest : List Step}
    (pending : moment.steps = ⟨name, .await handler⟩ :: rest) :
    (∃ next, Move link moment next) ∨ ∃ finish, Halt link moment finish := by
  cases received : moment.queue with
  | nil => exact .inr ⟨_, .starved pending received⟩
  | cons arrival later =>
      cases arrival with
      | noise reason => exact .inl ⟨_, .skip pending received⟩
      | message message =>
          cases offered : handler.offer moment.state message with
          | error cause => exact .inr ⟨_, .rejected pending received offered⟩
          | ok reaction =>
              cases reaction with
              | dropped => exact .inl ⟨_, .drop pending received offered⟩
              | kept next => exact .inl ⟨_, .keep pending received offered⟩
              | satisfied next => exact .inl ⟨_, .satisfy pending received offered⟩
              | failed failure => exact .inr ⟨_, .failed pending received offered⟩

/-- A run either moves on or halts. -/
theorem move_or_halt (link : Link) (moment : Moment) :
    (∃ next, Move link moment next) ∨ ∃ finish, Halt link moment finish := by
  cases pending : moment.steps with
  | nil => exact .inr ⟨_, .done pending⟩
  | cons step rest =>
      obtain ⟨name, action⟩ := step
      cases action with
      | await handler => exact move_or_halt_of_await pending
      | call spec =>
          cases issued : spec.issue moment.state moment.nextId with
          | error cause => exact .inr ⟨_, .unissued pending issued⟩
          | ok outcome =>
              obtain ⟨next, call⟩ := outcome
              cases listening : link.peerListens with
              | true => exact .inl ⟨_, .call pending issued listening⟩
              | false => exact .inr ⟨_, .unsent pending issued listening⟩
      | output spec =>
          cases projected : spec.project moment.state with
          | error cause => exact .inr ⟨_, .unprojected pending projected⟩
          | ok value => exact .inr ⟨_, .output pending projected⟩

/-- Every move uses up a step or an arrival. -/
theorem Move.length_lt (move : Move link moment next) :
    next.steps.length + next.queue.length < moment.steps.length + moment.queue.length := by
  cases move with
  | call pending => simp [pending]
  | skip _ received => simp [received]
  | drop _ received => simp [received]
  | keep _ received => simp [received]
  | satisfy pending received =>
      simp only [pending, received, List.length_cons]
      omega

/-- Every run comes to a moment at which it halts. -/
theorem exists_reaches_halt (link : Link) (moment : Moment) :
    ∃ last finish, Reaches link moment last ∧ Halt link last finish := by
  generalize size : moment.steps.length + moment.queue.length = bound
  induction bound using Nat.strongRecOn generalizing moment with
  | ind bound inductionHypothesis =>
      rcases move_or_halt link moment with ⟨next, move⟩ | ⟨finish, halt⟩
      · obtain ⟨last, finish, reached, halt⟩ :=
          inductionHypothesis _ (size ▸ move.length_lt) next rfl
        exact ⟨last, finish, .head move reached, halt⟩
      · exact ⟨moment, finish, .refl, halt⟩

/-- A run moves on from its start until it halts, and its report tells how it halted and what it had
sent by then. -/
theorem run_halts (link : Link) (subject : Instance) (firstId : CallId) (queue : List Arrival) :
    ∃ last finish, Reaches link (subject.start firstId queue) last ∧ Halt link last finish ∧
      (subject.run link firstId queue).finish = finish ∧
      (subject.run link firstId queue).sent = last.sent := by
  obtain ⟨last, finish, reached, halt⟩ :=
    exists_reaches_halt link (subject.start firstId queue)
  obtain ⟨sameFinish, sameSent, -⟩ := halt.report_eq
  rw [report_of_reaches reached, report_start] at sameFinish sameSent
  exact ⟨last, finish, reached, halt, sameFinish, sameSent⟩

end Dialogue

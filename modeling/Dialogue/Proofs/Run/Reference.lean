import Dialogue.Proofs.Run.Ignored
import Dialogue.Protocol.Catalog
/-!
# Runs and the reference interpreter

The reference interpreter feeds frames to an instance in order and knows nothing of links, reports
or warnings.  It cannot go on after a frame that is no message, and after an error nothing is known
of what was sent.  A run over a transcript that ends with the connection does exactly what the
reference interpreter does with the messages of the transcript: each of its ends is one of the
reference's, and a run has no other ends.
-/

namespace Dialogue

/-! ### The reference interpreter -/

namespace Reference

/-- How the reference interpreter ends unless it meets an error. -/
inductive Outcome where
  | output (value : Json)
  | failed (step : String) (failure : Failure)
  /-- The frames were used up while a step was waiting. -/
  | starved (step : String)

/-- What comes of feeding a step: the frames that are left once it is satisfied, or the end. -/
inductive Fed where
  | satisfied (state : State) (rest : List Json)
  | ended (outcome : Outcome)

/-- Feed frames to a waiting step, one by one. -/
def feed (step : String) (handler : AwaitHandler) (state : State) :
    List Json → Except ScriptError Fed
  | [] => .ok (.ended (.starved step))
  | frame :: rest => do
      let message ← Message.ofJson frame
      match ← handler.offer state message with
      | .dropped => feed step handler state rest
      | .kept next => feed step handler next rest
      | .satisfied next => return .satisfied next rest
      | .failed failure => return .ended (.failed step failure)

/-- Do the steps in order, and collect the frames that are sent. -/
def drive (sent : List Json) :
    List Step → State → CallId → List Json → Except ScriptError (Outcome × List Json)
  | [], _, _, _ => .ok (.output .null, sent)
  | step :: rest, state, nextId, incoming =>
      match step.action with
      | .call spec => do
          let (next, call) ← spec.issue state nextId
          drive (sent ++ [call.toFrame nextId]) rest next (nextId + 1) incoming
      | .await handler => do
          match ← feed step.name handler state incoming with
          | .satisfied next later => drive sent rest next nextId later
          | .ended outcome => return (outcome, sent)
      | .output spec => do
          let value ← spec.project state
          return (.output value, sent)

/-- Interpret an instance.  Its calls are counted from one. -/
def interpret (subject : Instance) (incoming : List Json) :
    Except ScriptError (Outcome × List Json) :=
  drive [] subject.steps subject.state 1 incoming

end Reference

open Reference (Outcome Fed)

/-- Whether a frame is a response or a notification. -/
def classifiable (frame : Json) : Bool :=
  (Arrival.ofJson frame).isMessage

/-- The link to the replay of a transcript: when the frames are used up the connection is gone, and
every frame that is sent is taken. -/
def Link.replay (timeout : Nat) : Link :=
  { timeout, ending := .closed, peerListens := true }

/-- Replay a transcript to an instance. -/
def Instance.replay (subject : Instance) (timeout : Nat) (transcript : List Json) : Report :=
  subject.run (.replay timeout) 1 (transcript.map Arrival.ofJson)

/-! ### Agreement -/

/-- The result of a run that ends as the reference does. -/
def Reference.Outcome.result : Outcome → Except RunError Json
  | .output value => .ok value
  | .failed step failure => .error (.failed step failure)
  | .starved step => .error (.closed step)

/-- A wait that ends as the feeding of the reference does, and leaves the same frames, which are
classifiable. -/
def Wait.Agrees (wait : Wait) : Except ScriptError Fed → Prop
  | .error cause => ∃ reached, wait.ended = .stopped (.fatal cause) reached
  | .ok (.ended outcome) =>
      ∃ error reached, wait.ended = .stopped error reached ∧ outcome.result = .error error
  | .ok (.satisfied next rest) =>
      wait.ended = .satisfied next ∧ wait.remaining = rest.map Arrival.ofJson ∧
        ∀ frame ∈ rest, classifiable frame = true

/-- A report that agrees with the reference, which had sent some frames before. -/
def Report.Agrees (report : Report) (before : List Json) :
    Except ScriptError (Outcome × List Json) → Prop
  | .error cause => report.result = .error (.fatal cause)
  | .ok (outcome, sent) => report.result = outcome.result ∧ sent = before ++ report.sent

/-- A classifiable frame arrives as the message that it is. -/
theorem ofJson_of_classifiable {frame : Json} (known : classifiable frame = true) :
    ∃ message, Message.ofJson frame = .ok message ∧ Arrival.ofJson frame = .message message := by
  rw [classifiable, Arrival.ofJson] at known
  cases read : Message.ofJson frame with
  | error reason => simp [read, Arrival.isMessage] at known
  | ok message => exact ⟨message, rfl, by rw [Arrival.ofJson, read]⟩

/-- The messages of a transcript, once they have arrived. -/
theorem quiet_map_ofJson (transcript : List Json) :
    quiet (transcript.map Arrival.ofJson) =
      (transcript.filter classifiable).map Arrival.ofJson := by
  rw [quiet, List.filter_map]
  rfl

/-- Agreement is about the result and the frames that were sent. -/
theorem Report.Agrees.congr {report other : Report} {before : List Json}
    {reference : Except ScriptError (Outcome × List Json)} (agrees : report.Agrees before reference)
    (sameResult : report.result = other.result) (sameSent : report.sent = other.sent) :
    other.Agrees before reference := by
  cases reference with
  | error cause => exact sameResult.symm.trans agrees
  | ok ended => exact ⟨sameResult.symm.trans agrees.1, sameSent ▸ agrees.2⟩

/-- Warnings make no difference to the agreement of a wait. -/
theorem Wait.Agrees.afterWarnings {wait : Wait} {fed : Except ScriptError Fed}
    (agrees : wait.Agrees fed) (warnings : List Warning) :
    (wait.afterWarnings warnings).Agrees fed := by
  cases fed with
  | error cause => exact agrees
  | ok fed =>
      cases fed with
      | ended outcome => exact agrees
      | satisfied next rest => exact agrees

/-- Warnings make no difference to the agreement of a report. -/
theorem Report.Agrees.afterWarnings {report : Report} {before : List Json}
    {reference : Except ScriptError (Outcome × List Json)} (agrees : report.Agrees before reference)
    (warnings : List Warning) : (report.afterWarnings warnings).Agrees before reference := by
  cases reference with
  | error cause => exact agrees
  | ok ended => exact agrees

/-- A report agrees after a frame if the reference had sent that frame before. -/
theorem Report.Agrees.afterSending {report : Report} {before : List Json} {frame : Json}
    {reference : Except ScriptError (Outcome × List Json)}
    (agrees : report.Agrees (before ++ [frame]) reference) :
    (report.afterSending frame).Agrees before reference := by
  cases reference with
  | error cause => exact agrees
  | ok ended =>
      obtain ⟨outcome, sent⟩ := ended
      obtain ⟨sameResult, sameSent⟩ := agrees
      exact ⟨sameResult, by rw [sameSent, List.append_assoc]; rfl⟩

/-- A step that waits for frames of a transcript ends as it does when it is fed them. -/
theorem awaitStep_agrees (timeout : Nat) (step : String) (handler : AwaitHandler) (state : State)
    (incoming : List Json) (known : ∀ frame ∈ incoming, classifiable frame = true) :
    (awaitStep (.replay timeout) step handler state (incoming.map Arrival.ofJson)).Agrees
      (Reference.feed step handler state incoming) := by
  induction incoming generalizing state with
  | nil => exact ⟨.closed step, state, rfl, rfl⟩
  | cons frame rest inductionHypothesis =>
      obtain ⟨message, read, arrives⟩ := ofJson_of_classifiable (known frame List.mem_cons_self)
      have later : ∀ frame ∈ rest, classifiable frame = true :=
        fun frame member => known frame (List.mem_cons_of_mem _ member)
      rw [List.map_cons, arrives, awaitStep, Reference.feed, read]
      simp only [bind, Except.bind]
      cases offered : handler.offer state message with
      | error cause => exact ⟨state, rfl⟩
      | ok reaction =>
          cases reaction with
          | dropped => exact inductionHypothesis state later
          | kept next => exact (inductionHypothesis next later).afterWarnings _
          | satisfied next => exact ⟨rfl, rfl, later⟩
          | failed failure => exact ⟨.failed step failure, state, rfl, rfl⟩

/-- Steps are executed over a transcript as the reference does them. -/
theorem execute_agrees (timeout : Nat) (steps : List Step) (state : State) (nextId : CallId)
    (incoming before : List Json) (known : ∀ frame ∈ incoming, classifiable frame = true) :
    (execute (.replay timeout) steps state nextId (incoming.map Arrival.ofJson)).Agrees before
      (Reference.drive before steps state nextId incoming) := by
  induction steps generalizing state nextId incoming before with
  | nil => exact ⟨rfl, (List.append_nil before).symm⟩
  | cons step rest inductionHypothesis =>
      obtain ⟨name, action⟩ := step
      rw [execute, Reference.drive]
      cases action with
      | call spec =>
          simp only [CallId.draw_eq]
          cases issued : spec.issue state nextId with
          | error cause => rfl
          | ok outcome =>
              obtain ⟨next, call⟩ := outcome
              simp only [Link.replay, if_true]
              exact (inductionHypothesis next (nextId + 1) incoming _ known).afterSending
      | output spec =>
          cases projected : spec.project state with
          | error cause => simp only [projected]; rfl
          | ok value =>
              simp only [projected]
              exact ⟨rfl, (List.append_nil before).symm⟩
      | await handler =>
          have waits := awaitStep_agrees timeout name handler state incoming known
          cases fed : Reference.feed name handler state incoming with
          | error cause =>
              rw [fed] at waits
              obtain ⟨reached, ended⟩ := waits
              simp only [ended, fed]
              rfl
          | ok outcome =>
              rw [fed] at waits
              cases outcome with
              | satisfied next later =>
                  obtain ⟨ended, remaining, stillKnown⟩ := waits
                  simp only [ended, remaining, fed]
                  exact (inductionHypothesis next nextId later before stillKnown).afterWarnings _
              | ended outcome =>
                  obtain ⟨error, reached, ended, same⟩ := waits
                  simp only [ended, fed]
                  exact ⟨same.symm, (List.append_nil before).symm⟩

/-- Transcripts with the same messages are replayed with the same result and the same frames. -/
theorem replay_congr (subject : Instance) (timeout : Nat) {one other : List Json}
    (same : one.filter classifiable = other.filter classifiable) :
    (subject.replay timeout one).result = (subject.replay timeout other).result ∧
      (subject.replay timeout one).sent = (subject.replay timeout other).sent := by
  have messages : quiet (one.map Arrival.ofJson) = quiet (other.map Arrival.ofJson) := by
    rw [quiet_map_ofJson, quiet_map_ofJson, same]
  exact run_congr_of_quiet_eq subject (.replay timeout) 1 messages

/-- A replay agrees with what the reference does with the messages of the transcript. -/
theorem replay_agrees (subject : Instance) (timeout : Nat) (transcript : List Json) :
    (subject.replay timeout transcript).Agrees []
      (Reference.interpret subject (transcript.filter classifiable)) := by
  have known : ∀ frame ∈ transcript.filter classifiable, classifiable frame = true :=
    fun frame member => (List.mem_filter.mp member).2
  have agrees := execute_agrees timeout subject.steps subject.state 1
    (transcript.filter classifiable) [] known
  have filtered : (transcript.filter classifiable).filter classifiable =
      transcript.filter classifiable := by
    rw [List.filter_filter]
    simp
  obtain ⟨sameResult, sameSent⟩ := replay_congr subject timeout filtered
  exact agrees.congr sameResult sameSent

/-! ### The ends of a replay -/

/-- The report has exactly the end that the reference has, and there are no others. -/
structure Report.Refines (report : Report)
    (reference : Except ScriptError (Outcome × List Json)) : Prop where
  output : ∀ value, report.result = .ok value ↔ ∃ sent, reference = .ok (.output value, sent)
  failed : ∀ step failure, report.result = .error (.failed step failure) ↔
    ∃ sent, reference = .ok (.failed step failure, sent)
  closed : ∀ step, report.result = .error (.closed step) ↔
    ∃ sent, reference = .ok (.starved step, sent)
  fatal : ∀ cause, report.result = .error (.fatal cause) ↔ reference = .error cause
  ne_timeout : ∀ step milliseconds, report.result ≠ .error (.timeout step milliseconds)
  ne_poolExhausted : ∀ capacity, report.result ≠ .error (.poolExhausted capacity)
  ne_peerGone : report.result ≠ .error .peerGone
  sent : ∀ outcome sent, reference = .ok (outcome, sent) → report.sent = sent

/-- A report that agrees with the reference from the start refines it. -/
theorem refines_of_agrees {report : Report}
    {reference : Except ScriptError (Outcome × List Json)} (agrees : report.Agrees [] reference) :
    report.Refines reference := by
  cases reference with
  | error cause =>
      have result : report.result = .error (.fatal cause) := agrees
      constructor <;> simp [result]
  | ok ended =>
      obtain ⟨outcome, sent⟩ := ended
      obtain ⟨result, sameSent⟩ := agrees
      cases outcome with
      | output value => constructor <;> simp [result, Outcome.result, sameSent]
      | failed step failure => constructor <;> simp [result, Outcome.result, sameSent]
      | starved step => constructor <;> simp [result, Outcome.result, sameSent]

/-- A run refines the reference interpreter.  For every instance and every transcript, a replay has
the value, the failure, the loss of the connection or the error that the reference interpreter has
with the messages of the transcript, and no other end; unless that is an error, it has sent the same
frames.  What is no message can stand anywhere in a transcript without a change to the result or to
the frames. -/
theorem replay_refines_reference (subject : Instance) (timeout : Nat) (transcript : List Json) :
    (subject.replay timeout transcript).Refines
        (Reference.interpret subject (transcript.filter classifiable)) ∧
      ∀ other : List Json, other.filter classifiable = transcript.filter classifiable →
        (subject.replay timeout other).result = (subject.replay timeout transcript).result ∧
          (subject.replay timeout other).sent = (subject.replay timeout transcript).sent := by
  constructor
  · exact refines_of_agrees (replay_agrees subject timeout transcript)
  · intro other same
    exact replay_congr subject timeout same

/-- Closing a target goes well whether or not something that is no message precedes the answer. -/
theorem replay_of_noisy_close :
    let subject := Instance.new Protocol.closeSession (.ofList [("targetId", .str "T")])
    let answer := Json.object [("id", .word 1), ("result", .object [("success", .bool true)])]
    (subject.replay 0 [answer]).result = .ok (.bool true) ∧
      (subject.replay 0 [.null, answer]).result = (subject.replay 0 [answer]).result ∧
      (subject.replay 0 [.null, answer]).sent = (subject.replay 0 [answer]).sent := by
  intro subject answer
  have refines := replay_refines_reference subject 0 [answer]
  have value := (refines.1.output (.bool true)).mpr ⟨_, rfl⟩
  exact ⟨value, refines.2 [.null, answer] rfl⟩

end Dialogue

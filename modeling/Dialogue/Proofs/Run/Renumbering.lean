import Dialogue.Proofs.Frame
import Dialogue.Proofs.Script.Blind
import Dialogue.Proofs.Script.Correlated
import Dialogue.Run.Execution
/-!
# Call ids are unobservable

The ids of calls only tie responses to them.  If a run begins with another id, and the ids of all
responses that it receives are moved by as much, then nothing but the ids of its frames moves with
them: the run ends in the same way and leaves the same arrivals (`renumbered_execute`).  Ids wrap
around, so every first id can be moved to every other one.

The states of the two runs differ in the id of the last call.  Up to the first call it is whatever
the options say, in both runs; from then on it is moved like all others.  So a step may wait for a
response only after a call, and apart from that all steps have to be blind to ids.
-/

namespace Dialogue

/-! ### Moving ids -/

/-- The frame with its id moved.  A value that carries no id stays as it is. -/
def Json.shiftId (shift : CallId) : Json → Json
  | .obj members =>
      match (members.get? "id").bind asWord? with
      | some id => .obj (members.insert "id" (.word (id + shift)))
      | none => .obj members
  | other => other

/-- The message with its id moved; a notification has none. -/
def Message.shiftId (shift : CallId) : Message → Message
  | .response id result error => .response (id + shift) result error
  | .notification method params session => .notification method params session

/-- The arrival with its id moved. -/
def Arrival.shiftId (shift : CallId) : Arrival → Arrival
  | .message received => .message (received.shiftId shift)
  | .noise reason => .noise reason

/-- A frame whose id is moved is read as the message whose id is moved, and one that cannot be
classified stays so. -/
theorem Message.ofJson_shiftId (shift : CallId) (frame : Json) :
    Message.ofJson (frame.shiftId shift) = (Message.ofJson frame).map (Message.shiftId shift) := by
  cases frame with
  | obj members =>
      rw [Json.shiftId]
      cases carried : (members.get? "id").bind Json.asWord? with
      | some id =>
          obtain ⟨value, given, word⟩ := Option.bind_eq_some_iff.mp carried
          have moved : (Json.word (id + shift)).asWord? = some (id + shift) := rfl
          simp [Message.ofJson, given, word, moved, Table.get?_insert, Except.map, Message.shiftId]
      | none =>
          simp only [Message.ofJson]
          cases given : members.get? "id" with
          | some value =>
              have other : value.asWord? = none := by simpa [given] using carried
              simp [other, Except.map]
          | none =>
              cases members.get? "method" with
              | none => rfl
              | some method => cases method <;> rfl
  | _ => rfl

/-- A received frame whose id is moved is an arrival whose id is moved. -/
theorem Arrival.ofJson_shiftId (shift : CallId) (frame : Json) :
    Arrival.ofJson (frame.shiftId shift) = (Arrival.ofJson frame).shiftId shift := by
  rw [Arrival.ofJson, Message.ofJson_shiftId, Arrival.ofJson]
  cases Message.ofJson frame <;> rfl

/-- The frame of a call under an id that is moved is its frame with the id moved. -/
theorem Call.shiftId_toFrame (call : Call) (id shift : CallId) :
    (call.toFrame id).shiftId shift = call.toFrame (id + shift) := by
  obtain ⟨method, params, session⟩ := call
  -- The id comes first in the frame, so moving it leaves the other members in their places.
  have order : ¬"method" < "id" ∧ ¬"params" < "id" ∧ ¬"params" < "method" ∧
      ¬"sessionId" < "id" ∧ ¬"sessionId" < "method" ∧ ¬"sessionId" < "params" := by
    decide
  cases session <;>
    simp only [Call.toFrame, Call.members, Json.shiftId, Json.object, Json.word, Json.asWord?,
      Table.ofList, Table.empty, Table.insertAll, Table.insert, Table.insertEntry, Table.get?,
      Table.lookup, List.foldl, Option.map, Option.toList, Option.bind, String.reduceEq, order,
      if_true, if_false]

/-! ### States and offers -/

/-- The states differ in nothing but the id of the last call, and once there was a call that id is
moved. -/
structure State.Renumbered (shift : CallId) (called : Prop) (one other : State) : Prop where
  same : one.SameButCallId other
  shifted : called → other.lastCallId? = one.lastCallId?.map (· + shift)

/-- Both offers have the same outcome, up to the id of the last call in the states that they
leave. -/
inductive RenumberedOffer (shift : CallId) (called : Prop) :
    Except ScriptError Reaction → Except ScriptError Reaction → Prop where
  | refused (cause : ScriptError) : RenumberedOffer shift called (.error cause) (.error cause)
  | dropped : RenumberedOffer shift called (.ok .dropped) (.ok .dropped)
  | kept {one other : State} (related : one.Renumbered shift called other) :
      RenumberedOffer shift called (.ok (.kept one)) (.ok (.kept other))
  | satisfied {one other : State} (related : one.Renumbered shift called other) :
      RenumberedOffer shift called (.ok (.satisfied one)) (.ok (.satisfied other))
  | failed (failure : Failure) :
      RenumberedOffer shift called (.ok (.failed failure)) (.ok (.failed failure))

namespace State.Renumbered

variable {shift : CallId} {called : Prop} {one other : State}

/-- States that agree so far are renumbered in whatever way: nothing is claimed before a call. -/
theorem start (state : State) (shift : CallId) : state.Renumbered shift False state :=
  ⟨.refl state, False.elim⟩

/-- Another value may be put into both states. -/
theorem insert (related : one.Renumbered shift called other) {key : String}
    (elsewhere : key ≠ lastCallIdKey) (value : Json) :
    (one.insert key value).Renumbered shift called (other.insert key value) where
  same := related.same.insert key value
  shifted := by
    intro holds
    have shifted := related.shifted holds
    rw [lastCallId?, lastCallId?] at shifted ⊢
    rw [get?_insert, get?_insert, if_neg (Ne.symm elsewhere), if_neg (Ne.symm elsewhere), shifted]

/-- After a call the ids of the last call are moved against each other. -/
theorem issued (related : one.Renumbered shift called other) (id : CallId) :
    (one.insert lastCallIdKey (.word id)).Renumbered shift True
      (other.insert lastCallIdKey (.word (id + shift))) where
  same := related.same.insert_lastCallId _ _
  shifted := by simp

/-- A blind call is refused for the same cause in both runs, or it is issued in both, under ids that
are moved against each other. -/
theorem issue_cases (related : one.Renumbered shift called other) {name : String} {spec : CallSpec}
    (blind : Step.Blind ⟨name, .call spec⟩) (id : CallId) :
    (∃ cause, spec.issue one id = .error cause ∧ spec.issue other (id + shift) = .error cause) ∨
      ∃ call next otherNext, spec.issue one id = .ok (next, call) ∧
        spec.issue other (id + shift) = .ok (otherNext, call) ∧
        next.Renumbered shift True otherNext := by
  simp only [CallSpec.issue, resolveParams, blind.resolve_eq related.same,
    related.same.sessionId?_eq]
  cases spec.params.resolve one with
  | error cause => exact .inl ⟨cause, rfl, rfl⟩
  | ok params => exact .inr ⟨_, _, _, rfl, rfl, related.issued id⟩

/-- Fields are extracted into both states, or the same one is missing. -/
theorem extractFields (related : one.Renumbered shift called other) (payload : Json)
    (context : String) {specs : List KeySpec}
    (unwritten : ∀ spec ∈ specs, spec.key ≠ lastCallIdKey) :
    RenumberedOffer shift called
      ((Dialogue.extractFields one payload context specs).map .satisfied)
      ((Dialogue.extractFields other payload context specs).map .satisfied) := by
  induction specs generalizing one other with
  | nil => exact .satisfied related
  | cons spec rest inductionHypothesis =>
      obtain ⟨elsewhere, later⟩ := List.forall_mem_cons.mp unwritten
      rw [Dialogue.extractFields, Dialogue.extractFields]
      cases payload.at? spec.path with
      | none => exact .refused _
      | some value => exact inductionHypothesis (related.insert elsewhere value) later

/-- A response meets the last call in both runs or in none. -/
theorem offer_response (related : one.Renumbered shift called other) {name : String}
    {handler : AwaitHandler} (blind : Step.Blind ⟨name, .await handler⟩)
    (unwritten : ∀ spec ∈ handler.fields, spec.key ≠ lastCallIdKey)
    (waits : ∀ waiting, handler = .response waiting → called) (id : CallId)
    (result error : Option Json) :
    RenumberedOffer shift called (handler.offer one (.response id result error))
      (handler.offer other (.response (id + shift) result error)) := by
  -- Interception has no event for a response, so the offers are the handler's own reactions.
  change RenumberedOffer shift called (handler.react one (.response id result error))
    (handler.react other (.response (id + shift) result error))
  cases handler with
  | notification waiting => exact .dropped
  | response waiting =>
      have shifted := related.shifted (waits waiting rfl)
      simp only [AwaitHandler.react]
      by_cases last : one.lastCallId? = some id
      · have otherLast : other.lastCallId? = some (id + shift) := by rw [shifted, last]; rfl
        rw [AwaitResponse.react_response_of_eq last, AwaitResponse.react_response_of_eq otherLast,
          blind.check waiting.check rfl related.same id]
        cases waiting.check one (.response id result error) with
        | error failure => exact .failed failure
        | ok => exact related.extractFields _ _ unwritten
      · have otherLast : other.lastCallId? ≠ some (id + shift) := by
          intro same
          rw [shifted, Option.map_eq_some_iff] at same
          obtain ⟨issued, lastIssued, moved⟩ := same
          exact last (by rw [lastIssued, (UInt64.add_left_inj shift).mp moved])
        rw [AwaitResponse.react_response_of_ne last, AwaitResponse.react_response_of_ne otherLast]
        exact .dropped

/-- A step itself makes the same of a notification in both runs. -/
theorem react_notification (related : one.Renumbered shift called other) {name : String}
    {handler : AwaitHandler} (blind : Step.Blind ⟨name, .await handler⟩)
    (unwritten : ∀ spec ∈ handler.fields, spec.key ≠ lastCallIdKey)
    (method : String) (params : Json) (session : Option String) :
    RenumberedOffer shift called (handler.react one (.notification method params session))
      (handler.react other (.notification method params session)) := by
  cases handler with
  | response waiting =>
      simp only [AwaitHandler.react, AwaitResponse.react_notification]
      exact .dropped
  | notification waiting =>
      simp only [AwaitHandler.react]
      by_cases awaited : method = waiting.method ∧ session = one.sessionId?
      · obtain ⟨rfl, rfl⟩ := awaited
        rw [AwaitNotification.react_notification_of_eq, ← related.same.sessionId?_eq,
          AwaitNotification.react_notification_of_eq, blind.fieldsMatch_eq related.same]
        cases fieldsMatch one params waiting.matchOn with
        | error cause => exact .refused cause
        | ok agrees =>
            cases agrees with
            | false => exact .dropped
            | true => exact related.extractFields _ _ unwritten
      · have otherAwaited : ¬(method = waiting.method ∧ session = other.sessionId?) := by
          rwa [related.same.sessionId?_eq]
        rw [AwaitNotification.react_notification_of_ne awaited,
          AwaitNotification.react_notification_of_ne otherAwaited]
        exact .dropped

/-- A notification has the same effect in both runs. -/
theorem offer_notification (related : one.Renumbered shift called other) {name : String}
    {handler : AwaitHandler} (blind : Step.Blind ⟨name, .await handler⟩)
    (unwritten : ∀ spec ∈ handler.fields, spec.key ≠ lastCallIdKey)
    (method : String) (params : Json) (session : Option String) :
    RenumberedOffer shift called (handler.offer one (.notification method params session))
      (handler.offer other (.notification method params session)) := by
  rw [AwaitHandler.offer, AwaitHandler.offer, intercept, intercept, related.same.event_eq]
  cases RuntimeEvent.of? one (.notification method params session) with
  | none => exact related.react_notification blind unwritten method params session
  | some event =>
      simp only [related.same.policy_eq]
      cases event.policy one with
      | ignore => exact .kept related
      | log => exact .kept related
      | raise => exact .failed event.failure

/-- A blind step makes the same of a message and of the message whose id is moved. -/
theorem offer (related : one.Renumbered shift called other) {name : String}
    {handler : AwaitHandler} (blind : Step.Blind ⟨name, .await handler⟩)
    (unwritten : ∀ spec ∈ handler.fields, spec.key ≠ lastCallIdKey)
    (waits : ∀ waiting, handler = .response waiting → called) (message : Message) :
    RenumberedOffer shift called (handler.offer one message)
      (handler.offer other (message.shiftId shift)) := by
  cases message with
  | response id result error => exact related.offer_response blind unwritten waits id result error
  | notification method params session =>
      exact related.offer_notification blind unwritten method params session

/-- A message gives the same warnings, whatever its id. -/
theorem interceptionWarnings_shiftId (related : one.Renumbered shift called other)
    (message : Message) :
    interceptionWarnings other (message.shiftId shift) = interceptionWarnings one message := by
  cases message with
  | response => rfl
  | notification => exact related.same.interceptionWarnings_eq _

end State.Renumbered

/-! ### Waits and runs -/

/-- Both waits have the same end, up to the id of the last call in the states that they leave. -/
inductive WaitEnd.Renumbered (shift : CallId) (called : Prop) : WaitEnd → WaitEnd → Prop where
  | satisfied {one other : State} (related : one.Renumbered shift called other) :
      Renumbered shift called (.satisfied one) (.satisfied other)
  | stopped (error : RunError) {one other : State} (related : one.Renumbered shift called other) :
      Renumbered shift called (.stopped error one) (.stopped error other)

/-- The second wait is the first one with its ids moved. -/
structure Wait.Renumbered (shift : CallId) (called : Prop) (one other : Wait) : Prop where
  ended : WaitEnd.Renumbered shift called one.ended other.ended
  remaining : other.remaining = one.remaining.map (Arrival.shiftId shift)
  warnings : other.warnings = one.warnings

/-- The second report is the first one with its ids moved. -/
structure Report.Renumbered (shift : CallId) (one other : Report) : Prop where
  finish : other.finish = one.finish
  state : one.state.SameButCallId other.state
  remaining : other.remaining = one.remaining.map (Arrival.shiftId shift)
  nextId : other.nextId = one.nextId + shift
  sent : other.sent = one.sent.map (Json.shiftId shift)
  warnings : other.warnings = one.warnings

variable {shift : CallId} {called : Prop}

theorem Wait.Renumbered.afterWarnings {one other : Wait}
    (related : one.Renumbered shift called other) (warnings : List Warning) :
    (one.afterWarnings warnings).Renumbered shift called (other.afterWarnings warnings) :=
  ⟨related.ended, related.remaining, congrArg (warnings ++ ·) related.warnings⟩

namespace Report.Renumbered

variable {one other : Report}

theorem afterWarnings (related : one.Renumbered shift other) (warnings : List Warning) :
    (one.afterWarnings warnings).Renumbered shift (other.afterWarnings warnings) :=
  { related with warnings := congrArg (warnings ++ ·) related.warnings }

/-- Both runs have sent a call before, under ids that are moved against each other. -/
theorem afterSending (related : one.Renumbered shift other) (call : Call) (id : CallId) :
    (one.afterSending (call.toFrame id)).Renumbered shift
      (other.afterSending (call.toFrame (id + shift))) :=
  { related with
    sent := by
      simp only [Report.afterSending, List.map_cons, Call.shiftId_toFrame, related.sent] }

theorem result_eq (related : one.Renumbered shift other) : other.result = one.result := by
  rw [Report.result, Report.result, related.finish]

end Report.Renumbered

/-- A blind step waits in the same way for arrivals whose ids are moved. -/
theorem renumbered_awaitStep (link : Link) {name : String} {handler : AwaitHandler}
    {one other : State} (related : one.Renumbered shift called other)
    (blind : Step.Blind ⟨name, .await handler⟩)
    (unwritten : ∀ spec ∈ handler.fields, spec.key ≠ lastCallIdKey)
    (waits : ∀ waiting, handler = .response waiting → called) (queue : List Arrival) :
    (awaitStep link name handler one queue).Renumbered shift called
      (awaitStep link name handler other (queue.map (Arrival.shiftId shift))) := by
  induction queue generalizing one other with
  | nil => exact ⟨.stopped _ related, rfl, rfl⟩
  | cons arrival later inductionHypothesis =>
      cases arrival with
      | noise reason => exact (inductionHypothesis related).afterWarnings _
      | message message =>
          have offered := related.offer blind unwritten waits message
          rw [List.map_cons, Arrival.shiftId, awaitStep, awaitStep,
            related.interceptionWarnings_shiftId]
          generalize handler.offer one message = first at offered
          generalize handler.offer other (message.shiftId shift) = second at offered
          cases offered with
          | refused cause => exact ⟨.stopped _ related, rfl, rfl⟩
          | dropped => exact inductionHypothesis related
          | kept next => exact (inductionHypothesis next).afterWarnings _
          | satisfied next => exact ⟨.satisfied next, rfl, rfl⟩
          | failed failure => exact ⟨.stopped _ related, rfl, rfl⟩

/-- Blind steps are executed in the same way if all ids are moved.  The induction is on the steps;
`called` says whether there was a call before them, as there has to be before those that wait for a
response. -/
theorem renumbered_execute (link : Link) (steps : List Step) {one other : State} (nextId : CallId)
    (queue : List Arrival) (blind : ∀ step ∈ steps, step.Blind) (spared : SpareCallId steps)
    (precede : CallsPrecede called steps) (related : one.Renumbered shift called other) :
    (execute link steps one nextId queue).Renumbered shift
      (execute link steps other (nextId + shift) (queue.map (Arrival.shiftId shift))) := by
  induction steps generalizing called one other nextId queue with
  | nil => exact ⟨rfl, related.same, rfl, rfl, rfl, rfl⟩
  | cons step rest inductionHypothesis =>
      obtain ⟨name, action⟩ := step
      obtain ⟨first, blindRest⟩ := List.forall_mem_cons.mp blind
      obtain ⟨unwritten, sparedRest⟩ := List.forall_mem_cons.mp spared
      have advanced : nextId + shift + 1 = nextId + 1 + shift := by
        rw [UInt64.add_assoc, UInt64.add_comm shift, ← UInt64.add_assoc]
      rw [execute, execute]
      cases action with
      | call spec =>
          rcases related.issue_cases first nextId with
            ⟨cause, refused, otherRefused⟩ | ⟨call, next, otherNext, issued, otherIssued, started⟩
          · simp only [CallId.draw_eq, refused, otherRefused, advanced]
            exact ⟨rfl, related.same, rfl, rfl, rfl, rfl⟩
          · simp only [CallId.draw_eq, issued, otherIssued, advanced]
            cases listening : link.peerListens with
            | false => exact ⟨rfl, related.same, rfl, rfl, rfl, rfl⟩
            | true =>
                exact (inductionHypothesis (nextId + 1) queue blindRest sparedRest
                  (.of_called trivial rest) started).afterSending _ _
      | output spec =>
          simp only [first.project_eq related.same]
          cases spec.project one with
          | error cause => exact ⟨rfl, related.same, rfl, rfl, rfl, rfl⟩
          | ok value => exact ⟨rfl, related.same, rfl, rfl, rfl, rfl⟩
      | await handler =>
          have waits : ∀ waiting, handler = .response waiting → called := by
            rintro waiting rfl
            exact precede.called_of_awaits ⟨waiting, rfl⟩
          have precedeRest := precede.tail (by simp [Step.IsCall])
          obtain ⟨ended, remaining, warnings⟩ :=
            renumbered_awaitStep link related first unwritten waits queue
          simp only [remaining, warnings]
          generalize (awaitStep link name handler one queue).ended = oneEnd at ended ⊢
          generalize (awaitStep link name handler other _).ended = otherEnd at ended ⊢
          cases ended with
          | satisfied next =>
              exact (inductionHypothesis nextId _ blindRest sparedRest precedeRest
                next).afterWarnings _
          | stopped error reached => exact ⟨rfl, reached.same, rfl, rfl, rfl, rfl⟩

/-- The ids of calls cannot be observed.  A built-in script that begins with another id, and
receives the same transcript with all ids moved by as much, returns the same value or fails with the
same error, leaves as many messages, and sends the same frames with their ids moved. -/
theorem call_ids_unobservable {script : Script} (member : script ∈ Protocol.catalog)
    (session : Option String) (options : Options) (link : Link) (one other : CallId)
    (transcript : List Json) :
    let subject := Instance.forOptionalSession script session options
    let report := subject.run link one (transcript.map Arrival.ofJson)
    let moved :=
      subject.run link other ((transcript.map (Json.shiftId (other - one))).map Arrival.ofJson)
    moved.result = report.result ∧ moved.remaining.length = report.remaining.length ∧
      moved.sent = report.sent.map (Json.shiftId (other - one)) := by
  intro subject report moved
  have checked : Correlated subject.steps ∧ ∀ step ∈ subject.steps, step.Blind := by
    obtain ⟨effective, made, _⟩ := exists_options_of_session script session options
    simp only [subject, made]
    exact ⟨correlated_of_mem_catalog member effective, blind_of_mem_catalog member effective⟩
  obtain ⟨correlated, blind⟩ := checked
  have renumbered : report.Renumbered (other - one) moved := by
    have executed := renumbered_execute link subject.steps one (transcript.map Arrival.ofJson)
      blind correlated.spareCallId correlated.callsPrecede (.start subject.state (other - one))
    have begins : one + (other - one) = other := by
      rw [UInt64.add_comm, UInt64.sub_add_cancel]
    have received : (transcript.map Arrival.ofJson).map (Arrival.shiftId (other - one)) =
        (transcript.map (Json.shiftId (other - one))).map Arrival.ofJson := by
      simp [Arrival.ofJson_shiftId]
    rwa [begins, received] at executed
  refine ⟨renumbered.result_eq, ?_, renumbered.sent⟩
  rw [renumbered.remaining, List.length_map]

/-- Closing a target, with the id of a call that some other run has made. -/
def closingOptions : Options :=
  .ofList [("lastCallId", .word 7), ("targetId", .str "T")]

/-- A response to that call, and the response to the one that closes the target under the greatest
id, and one that is too late. -/
def closingTranscript : List Json :=
  [.object [("id", .word 7), ("result", .object [("success", .bool false)])],
    .object [("id", .word 18446744073709551615), ("result", .object [("success", .bool true)])],
    .object [("id", .word 0), ("result", .null)]]

/-- The target is closed under the id 3 as it is under the greatest id, four before that. -/
theorem closing_renumbered :
    let moved := (Instance.forOptionalSession Protocol.closeSession none closingOptions).run {} 3
      ((closingTranscript.map (Json.shiftId 4)).map Arrival.ofJson)
    moved.result = .ok (.bool true) ∧ moved.remaining.length = 1 ∧
      moved.sent.map Json.callId? = [some 3] := by
  have member : Protocol.closeSession ∈ Protocol.catalog := by simp [Protocol.catalog]
  obtain ⟨result, remaining, sent⟩ :=
    call_ids_unobservable member none closingOptions {} 18446744073709551615 3 closingTranscript
  refine ⟨result.trans rfl, remaining.trans rfl, ?_⟩
  exact (congrArg (List.map Json.callId?) sent).trans rfl

end Dialogue

import Dialogue.Step
import Dialogue.Proofs.Extraction
/-!
# What an offered message can do

A pending await step reacts to a message in one of four ways, and only two of them change what is
known: a satisfied step leaves the fields of the message in the state, and a failure ends the run.
A response is never intercepted, and a handler makes something of it only if it waits for a response
and the state names that response's id as the one of the last call.
-/

namespace Dialogue

/-- The value that fields are extracted from: the result of a response, which is empty if it is
missing, or the parameters of a notification. -/
def Message.payload : Message → Json
  | .response _ result _ => result.getD (.obj .empty)
  | .notification _ params _ => params

/-- The fields that a handler extracts from the message that satisfies it. -/
def AwaitHandler.fields : AwaitHandler → List KeySpec
  | .response handler => handler.extract
  | .notification handler => handler.extract

/-- Where a handler says that it looked for a field. -/
def AwaitHandler.context : AwaitHandler → String
  | .response _ => "result"
  | .notification handler => handler.method

/-! ### The two handlers -/

/-- A response without an error passes the check that is given none. -/
theorem rejectErrors_eq_ok_iff {state : State} {id : CallId} {result error : Option Json} :
    rejectErrors state (.response id result error) = .ok () ↔ error = none := by
  cases error <;> simp [rejectErrors, Message.error?]

namespace AwaitResponse

variable {handler : AwaitResponse} {state : State} {id : CallId} {result error : Option Json}

/-- A response under another id than the last call's is dropped. -/
theorem react_response_of_ne (other : state.lastCallId? ≠ some id) :
    handler.react state (.response id result error) = .ok .dropped := by
  rw [react]
  cases last : state.lastCallId? with
  | none => rfl
  | some issued =>
      have different : id ≠ issued := fun same => other (by rw [last, same])
      simp [Message.isResponseTo, different]

/-- The response to the last call fails the step if the check refuses it, and else its fields are
extracted. -/
theorem react_response_of_eq (last : state.lastCallId? = some id) :
    handler.react state (.response id result error) =
      match handler.check state (.response id result error) with
      | .error failure => .ok (.failed failure)
      | .ok () =>
          (extractFields state (result.getD (.obj .empty)) "result" handler.extract).map
            .satisfied := by
  rw [react, last]
  simp only [Message.isResponseTo, beq_self_eq_true, if_true, Message.result?]
  rfl

/-- A notification says nothing about a call. -/
theorem react_notification (method : String) (params : Json) (session : Option String) :
    handler.react state (.notification method params session) = .ok .dropped := by
  rw [react]
  cases state.lastCallId? <;> rfl

end AwaitResponse

namespace AwaitNotification

variable {handler : AwaitNotification} {state : State}

/-- A notification that is not the awaited one, or of another session, is dropped. -/
theorem react_notification_of_ne {method : String} {params : Json} {session : Option String}
    (other : ¬(method = handler.method ∧ session = state.sessionId?)) :
    handler.react state (.notification method params session) = .ok .dropped := by
  simp only [react, if_neg other]

/-- The awaited notification of the session is dropped unless its parameters agree with the state,
and then its fields are extracted. -/
theorem react_notification_of_eq (params : Json) :
    handler.react state (.notification handler.method params state.sessionId?) =
      match fieldsMatch state params handler.matchOn with
      | .error cause => .error cause
      | .ok true => (extractFields state params handler.method handler.extract).map .satisfied
      | .ok false => .ok .dropped := by
  simp only [react, and_self, if_true]
  cases fieldsMatch state params handler.matchOn with
  | error cause => rfl
  | ok agrees => cases agrees <;> rfl

end AwaitNotification

namespace AwaitHandler

variable {handler : AwaitHandler} {state next : State} {message : Message}

/-- What a handler itself makes of a message: nothing, a failure of its check, an error if the state
cannot be compared with the message, or an extraction of its fields. -/
theorem react_cases (handler : AwaitHandler) (state : State) (message : Message) :
    handler.react state message = .ok .dropped ∨
      (∃ failure, handler.react state message = .ok (.failed failure)) ∨
      (∃ cause, handler.react state message = .error cause ∧ ∃ waiting params,
        handler = .notification waiting ∧
        fieldsMatch state params waiting.matchOn = .error cause) ∨
      handler.react state message =
        (extractFields state message.payload handler.context handler.fields).map .satisfied := by
  cases handler with
  | response handler =>
      cases message with
      | notification method params session =>
          exact .inl (AwaitResponse.react_notification method params session)
      | response id result error =>
          by_cases last : state.lastCallId? = some id
          · simp only [react, AwaitResponse.react_response_of_eq last]
            cases handler.check state (.response id result error) with
            | error failure => exact .inr (.inl ⟨failure, rfl⟩)
            | ok => exact .inr (.inr (.inr rfl))
          · exact .inl (AwaitResponse.react_response_of_ne last)
  | notification handler =>
      cases message with
      | response => exact .inl rfl
      | notification method params session =>
          by_cases awaited : method = handler.method ∧ session = state.sessionId?
          · obtain ⟨rfl, rfl⟩ := awaited
            simp only [react, AwaitNotification.react_notification_of_eq]
            cases agree : fieldsMatch state params handler.matchOn with
            | error cause => exact .inr (.inr (.inl ⟨cause, rfl, handler, params, rfl, agree⟩))
            | ok agrees =>
                cases agrees with
                | false => exact .inl rfl
                | true => exact .inr (.inr (.inr rfl))
          · exact .inl (AwaitNotification.react_notification_of_ne awaited)

/-- A handler that refuses a message lacks a value of the state to compare it with, or a field of
the message. -/
theorem of_react_error {cause : ScriptError}
    (refused : handler.react state message = .error cause) :
    (∃ waiting params, handler = .notification waiting ∧
        fieldsMatch state params waiting.matchOn = .error cause) ∨
      ∃ spec ∈ handler.fields, cause = .missingPath spec.path handler.context := by
  rcases react_cases handler state message with
    dropped | ⟨failure, failed⟩ | ⟨reason, unmatched, compared⟩ | extracted
  · simp [dropped] at refused
  · simp [failed] at refused
  · rw [unmatched, Except.error.injEq] at refused
    exact .inl (refused ▸ compared)
  · rw [extracted] at refused
    cases found : extractFields state message.payload handler.context handler.fields with
    | ok next => simp [found, Except.map] at refused
    | error reason =>
        simp only [found, Except.map, Except.error.injEq] at refused
        exact .inr (exists_spec_of_extractFields_error (refused ▸ found))

/-- A handler itself never keeps a message. -/
theorem react_ne_kept : handler.react state message ≠ .ok (.kept next) := by
  intro kept
  rcases react_cases handler state message with
    dropped | ⟨failure, failed⟩ | ⟨cause, refused, _⟩ | extracted
  · simp [dropped] at kept
  · simp [failed] at kept
  · simp [refused] at kept
  · rw [extracted] at kept
    cases found : extractFields state message.payload handler.context handler.fields <;>
      simp [found, Except.map] at kept

/-- A handler that is satisfied has extracted its fields from the message. -/
theorem extractFields_of_react_satisfied
    (satisfied : handler.react state message = .ok (.satisfied next)) :
    extractFields state message.payload handler.context handler.fields = .ok next := by
  rcases react_cases handler state message with
    dropped | ⟨failure, failed⟩ | ⟨cause, refused, _⟩ | extracted
  · simp [dropped] at satisfied
  · simp [failed] at satisfied
  · simp [refused] at satisfied
  · rw [extracted] at satisfied
    cases found : extractFields state message.payload handler.context handler.fields with
    | error cause => simp [found, Except.map] at satisfied
    | ok reached =>
        simp only [found, Except.map, Except.ok.injEq, Reaction.satisfied.injEq] at satisfied
        rw [satisfied]

/-! ### Interception first -/

/-- Interception claims a message without changing the state, or leaves it to the handler. -/
theorem offer_cases (handler : AwaitHandler) (state : State) (message : Message) :
    handler.offer state message = .ok (.kept state) ∨
      (∃ failure, handler.offer state message = .ok (.failed failure)) ∨
      handler.offer state message = handler.react state message := by
  rw [offer, intercept]
  cases RuntimeEvent.of? state message with
  | none => exact .inr (.inr rfl)
  | some event =>
      dsimp only
      cases event.policy state with
      | ignore => exact .inl rfl
      | log => exact .inl rfl
      | raise => exact .inr (.inl ⟨event.failure, rfl⟩)

/-- Interception refuses nothing. -/
theorem react_eq_of_offer_error {cause : ScriptError}
    (refused : handler.offer state message = .error cause) :
    handler.react state message = .error cause := by
  rcases offer_cases handler state message with claimed | ⟨failure, raised⟩ | left
  · simp [claimed] at refused
  · simp [raised] at refused
  · rw [← left, refused]

/-- A kept message leaves the state as it was. -/
theorem eq_of_offer_kept (kept : handler.offer state message = .ok (.kept next)) :
    next = state := by
  rcases offer_cases handler state message with claimed | ⟨failure, raised⟩ | left
  · rw [claimed] at kept
    cases kept
    rfl
  · simp [raised] at kept
  · rw [left] at kept
    exact absurd kept react_ne_kept

/-- A satisfied step has extracted its fields from the message that satisfied it. -/
theorem extractFields_of_offer_satisfied
    (satisfied : handler.offer state message = .ok (.satisfied next)) :
    extractFields state message.payload handler.context handler.fields = .ok next := by
  rcases offer_cases handler state message with claimed | ⟨failure, raised⟩ | left
  · simp [claimed] at satisfied
  · simp [raised] at satisfied
  · rw [left] at satisfied
    exact extractFields_of_react_satisfied satisfied

/-- A step that waits for a response is satisfied by the one to the last call, if that passes the
check. -/
theorem of_offer_response_satisfied {waiting : AwaitResponse}
    (satisfied : (AwaitHandler.response waiting).offer state message = .ok (.satisfied next)) :
    ∃ id result error, message = .response id result error ∧ state.lastCallId? = some id ∧
      waiting.check state (.response id result error) = .ok () ∧
      extractFields state (result.getD (.obj .empty)) "result" waiting.extract = .ok next := by
  have extracted := extractFields_of_offer_satisfied satisfied
  rcases offer_cases (.response waiting) state message with claimed | ⟨failure, raised⟩ | left
  · simp [claimed] at satisfied
  · simp [raised] at satisfied
  · rw [left, react] at satisfied
    cases message with
    | notification method params session => simp [AwaitResponse.react_notification] at satisfied
    | response id result error =>
        by_cases last : state.lastCallId? = some id
        · rw [AwaitResponse.react_response_of_eq last] at satisfied
          cases checked : waiting.check state (.response id result error) with
          | error failure => simp [checked] at satisfied
          | ok => exact ⟨id, result, error, rfl, last, checked, extracted⟩
        · simp [AwaitResponse.react_response_of_ne last] at satisfied

/-- A step that waits for a notification is satisfied by one of its method and of the session whose
parameters agree with the state. -/
theorem of_offer_notification_satisfied {waiting : AwaitNotification}
    (satisfied : (AwaitHandler.notification waiting).offer state message = .ok (.satisfied next)) :
    ∃ params, message = .notification waiting.method params state.sessionId? ∧
      fieldsMatch state params waiting.matchOn = .ok true ∧
      extractFields state params waiting.method waiting.extract = .ok next := by
  have extracted := extractFields_of_offer_satisfied satisfied
  rcases offer_cases (.notification waiting) state message with
    claimed | ⟨failure, raised⟩ | left
  · simp [claimed] at satisfied
  · simp [raised] at satisfied
  · rw [left, react] at satisfied
    cases message with
    | response id result error => simp [AwaitNotification.react] at satisfied
    | notification method params session =>
        by_cases awaited : method = waiting.method ∧ session = state.sessionId?
        · obtain ⟨rfl, rfl⟩ := awaited
          rw [AwaitNotification.react_notification_of_eq] at satisfied
          cases agree : fieldsMatch state params waiting.matchOn with
          | error cause => simp [agree] at satisfied
          | ok agrees =>
              cases agrees with
              | false => simp [agree] at satisfied
              | true => exact ⟨params, rfl, agree, extracted⟩
        · simp [AwaitNotification.react_notification_of_ne awaited] at satisfied

/-- A notification of another session is dropped, whatever it says and whatever is awaited. -/
theorem offer_notification_of_session_ne {method : String} {params : Json}
    {session : Option String} (foreign : session ≠ state.sessionId?) :
    handler.offer state (.notification method params session) = .ok .dropped := by
  have unclaimed : intercept state (.notification method params session) = .dropped := by
    simp [intercept, RuntimeEvent.of?, foreign]
  rw [offer, unclaimed]
  cases handler with
  | response waiting => exact AwaitResponse.react_notification method params session
  | notification waiting =>
      exact AwaitNotification.react_notification_of_ne fun awaited => foreign awaited.2

/-- A runtime event of the run's session is kept unless its policy is to raise it. -/
theorem offer_of_event {event : RuntimeEvent} (claimed : RuntimeEvent.of? state message = some event)
    (calm : event.policy state ≠ .raise) : handler.offer state message = .ok (.kept state) := by
  have kept : intercept state message = .kept state := by
    rw [intercept, claimed]
    cases policy : event.policy state with
    | ignore => simp [policy]
    | log => simp [policy]
    | raise => exact absurd policy calm
  rw [offer, kept]

/-- A response is made something of exactly where it is the one to the last call, offered to a step
that waits for it. -/
theorem offer_response_ne_dropped_iff {id : CallId} {result error : Option Json} :
    handler.offer state (.response id result error) ≠ .ok .dropped ↔
      (∃ waiting, handler = .response waiting) ∧ state.lastCallId? = some id := by
  -- Interception has no event for a response, so the offer is the handler's own reaction.
  change handler.react state (.response id result error) ≠ .ok .dropped ↔ _
  constructor
  · intro used
    cases handler with
    | notification waiting => exact absurd rfl used
    | response waiting =>
        by_cases last : state.lastCallId? = some id
        · exact ⟨⟨waiting, rfl⟩, last⟩
        · exact absurd (AwaitResponse.react_response_of_ne last) used
  · rintro ⟨⟨waiting, rfl⟩, last⟩
    simp only [react, AwaitResponse.react_response_of_eq last]
    cases waiting.check state (.response id result error) with
    | error failure => simp
    | ok =>
        cases extractFields state (result.getD (.obj .empty)) "result" waiting.extract <;>
          simp [Except.map]

end AwaitHandler

end Dialogue

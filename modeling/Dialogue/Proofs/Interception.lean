import Dialogue.Proofs.Offer
/-!
# What interception decides

The exceptions and console calls of the run's own session are decided before the pending step sees
them.  What is decided hangs on the event and on the one policy that is meant for it, and the step,
the other policy and all other values of the state have no say in it.  Every other message is for
the step alone, and no step keeps a message, so what is kept was intercepted.

Interception and a step that waits for a notification ask for the same session.  A step that waits
for one of the two events therefore waits in vain: what it asks for is intercepted, and what is not
intercepted it does not ask for.
-/

namespace Dialogue

namespace RuntimeEvent

/-- The method of the notifications that report the event. -/
def method : RuntimeEvent → String
  | .exception _ => exceptionMethod
  | .console _ => consoleMethod

def params : RuntimeEvent → Json
  | .exception params => params
  | .console params => params

/-- The notification of the event in a session. -/
def message (event : RuntimeEvent) (session : Option String) : Message :=
  .notification event.method event.params session

/-- The key of the policy that is meant for the event. -/
def policyKey : RuntimeEvent → String
  | .exception _ => Policy.exceptionKey
  | .console _ => Policy.consoleKey

/-- The policy where the state names none. -/
def defaultPolicy : RuntimeEvent → Policy
  | .exception _ => Policy.exceptionDefault
  | .console _ => Policy.consoleDefault

/-- What a policy makes of the event: it is raised as a failure of its own kind, or the step stays
pending in the same state. -/
def reaction (event : RuntimeEvent) (state : State) : Policy → Reaction
  | .raise => .failed event.failure
  | .ignore => .kept state
  | .log => .kept state

variable {state other : State} {message : Message} {event : RuntimeEvent}

theorem policy_eq (event : RuntimeEvent) (state : State) :
    event.policy state = Policy.ofState state event.policyKey event.defaultPolicy := by
  cases event <;> rfl

/-- States that name the same policy for an event have the same policy for it. -/
theorem policy_congr (same : other.get? event.policyKey = state.get? event.policyKey) :
    event.policy other = event.policy state := by
  rw [policy_eq, policy_eq, Policy.ofState, Policy.ofState, same]

/-- Events are the notifications of the two methods in the session of the state. -/
theorem of?_eq_some_iff :
    of? state message = some event ↔ message = event.message state.sessionId? := by
  have different : consoleMethod ≠ exceptionMethod := by decide
  cases message with
  | response => simp [of?, RuntimeEvent.message]
  | notification method params session =>
      cases event with
      | exception thrown =>
          simp only [of?, RuntimeEvent.message, RuntimeEvent.method, RuntimeEvent.params]
          grind
      | console called =>
          simp only [of?, RuntimeEvent.message, RuntimeEvent.method, RuntimeEvent.params]
          grind

end RuntimeEvent

namespace AwaitHandler

variable {state : State} {message : Message}

/-- An event gets the reaction that its policy says. -/
theorem offer_event (handler : AwaitHandler) (state : State) (event : RuntimeEvent) :
    handler.offer state (event.message state.sessionId?) =
      .ok (event.reaction state (event.policy state)) := by
  have claimed : RuntimeEvent.of? state (event.message state.sessionId?) = some event :=
    RuntimeEvent.of?_eq_some_iff.mpr rfl
  rw [offer, intercept, claimed]
  cases policy : event.policy state <;> simp [policy, RuntimeEvent.reaction]

/-- A message that is no event is for the handler. -/
theorem offer_of_no_event (handler : AwaitHandler)
    (noEvent : ∀ event : RuntimeEvent, message ≠ event.message state.sessionId?) :
    handler.offer state message = handler.react state message := by
  have unclaimed : RuntimeEvent.of? state message = none := by
    cases claimed : RuntimeEvent.of? state message with
    | none => rfl
    | some event => exact absurd (RuntimeEvent.of?_eq_some_iff.mp claimed) (noEvent event)
  rw [offer, intercept, unclaimed]

/-- No policy satisfies a step. -/
theorem offer_event_ne_satisfied (handler : AwaitHandler) (state next : State)
    (event : RuntimeEvent) :
    handler.offer state (event.message state.sessionId?) ≠ .ok (.satisfied next) := by
  rw [offer_event]
  cases event.policy state <;> simp [RuntimeEvent.reaction]

end AwaitHandler

/-- The notification that a step waits for is an event of the session, if it has the method of
one. -/
theorem exists_event_of_method {method : String}
    (named : method = exceptionMethod ∨ method = consoleMethod) (params : Json)
    (session : Option String) :
    ∃ event : RuntimeEvent, .notification method params session = event.message session := by
  rcases named with rfl | rfl
  · exact ⟨.exception params, rfl⟩
  · exact ⟨.console params, rfl⟩

/-- Interception decides before the handler, and for its own events only.  An exception or a console
call of the session is kept in the state it met, or raised as a failure of its own kind, as its own
policy says; so in states that name the same session and the same policy for the event it fares the
same, whatever is awaited in them and whatever else they hold.  Every other message is left to the
handler, which never keeps one.  And a step that waits for one of the two events is satisfied by
nothing. -/
theorem interception_decides_own_events (handler : AwaitHandler) (state : State) :
    (∀ event : RuntimeEvent,
      handler.offer state (event.message state.sessionId?) = .ok (event.reaction state
        (Policy.ofState state event.policyKey event.defaultPolicy))) ∧
    (∀ (event : RuntimeEvent) (otherHandler : AwaitHandler) (other : State),
      other.sessionId? = state.sessionId? →
      other.get? event.policyKey = state.get? event.policyKey →
      ∃ policy,
        handler.offer state (event.message state.sessionId?) = .ok (event.reaction state policy) ∧
        otherHandler.offer other (event.message state.sessionId?) =
          .ok (event.reaction other policy)) ∧
    (∀ message, (∀ event : RuntimeEvent, message ≠ event.message state.sessionId?) →
      handler.offer state message = handler.react state message ∧
        ∀ next, handler.react state message ≠ .ok (.kept next)) ∧
    ∀ waiting, handler = .notification waiting →
      waiting.method = exceptionMethod ∨ waiting.method = consoleMethod →
      ∀ message next, handler.offer state message ≠ .ok (.satisfied next) := by
  refine ⟨fun event => ?_, fun event otherHandler other session policy => ?_,
    fun message noEvent => ?_, ?_⟩
  · rw [AwaitHandler.offer_event, RuntimeEvent.policy_eq]
  · refine ⟨event.policy state, handler.offer_event state event, ?_⟩
    rw [← session, AwaitHandler.offer_event, RuntimeEvent.policy_congr policy]
  · exact ⟨handler.offer_of_no_event noEvent, fun next => AwaitHandler.react_ne_kept⟩
  · rintro waiting rfl named message next satisfied
    -- What satisfies the step is a notification that it asks for, and such a one is an event.
    obtain ⟨params, rfl, _⟩ := AwaitHandler.of_offer_notification_satisfied satisfied
    obtain ⟨event, same⟩ := exists_event_of_method named params state.sessionId?
    rw [same] at satisfied
    exact AwaitHandler.offer_event_ne_satisfied _ _ _ _ satisfied

/-- A state that raises exceptions and says nothing of console calls. -/
def raisingState : State :=
  ⟨.ofList [("sessionId", .str "S"), ("unhandled_runtime_exceptions", .str "raise")]⟩

/-- The same for a run that is further on, with a policy for console calls. -/
def laterState : State :=
  ⟨.ofList [("sessionId", .str "S"), ("unhandled_runtime_exceptions", .str "raise"),
    ("console_api_calls", .object [("raise", .null)]), ("lastCallId", .word 7)]⟩

/-- A step that waits for console calls gets none, not even those of another session, and an
exception ends the run whatever is awaited. -/
theorem console_calls_awaited_in_vain :
    (∀ message next,
        (AwaitHandler.notification ⟨consoleMethod, [], []⟩).offer raisingState message ≠
          .ok (.satisfied next)) ∧
      (AwaitHandler.notification ⟨consoleMethod, [], []⟩).offer raisingState
          (.notification consoleMethod .null (some "S")) = .ok (.kept raisingState) ∧
      (AwaitHandler.notification ⟨consoleMethod, [], []⟩).offer raisingState
          (.notification consoleMethod .null (some "T")) = .ok .dropped ∧
      (AwaitHandler.response {}).offer laterState
          (.notification exceptionMethod .null (some "S")) =
        .ok (.failed (.exceptionThrown "unknown exception")) := by
  obtain ⟨decided, sameDecision, others, never⟩ :=
    interception_decides_own_events (.notification ⟨consoleMethod, [], []⟩) raisingState
  refine ⟨never _ rfl (.inr rfl), decided (.console .null), ?_, ?_⟩
  · have foreign : ∀ event : RuntimeEvent,
        .notification consoleMethod .null (some "T") ≠ event.message raisingState.sessionId? := by
      intro event same
      injection same with _ _ session
      exact absurd session (by decide)
    rw [(others _ foreign).1]
    rfl
  · obtain ⟨policy, raised, later⟩ := sameDecision (.exception .null) (.response {}) laterState
      (by decide) rfl
    have isRaise : policy = .raise := by
      rw [decided] at raised
      cases policy with
      | raise => rfl
      | ignore | log => cases raised
    rw [isRaise] at later
    exact later

end Dialogue

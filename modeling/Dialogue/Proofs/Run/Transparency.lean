import Dialogue.Proofs.Interception
import Dialogue.Proofs.Run.Ignored
/-!
# Interception without raising is transparent

Exceptions and console calls are claimed in the run's own session, before the pending step sees
them, and in any other session no step takes notice of them.  So unless a policy raises them they are
without effect, warnings apart: on the result, on the frames, and even on a step that waits for a
notification of that name.  What the policies are is a value of the state, so the steps of the run
must not extract into it.  Which session is the run's own may change in the middle of the run.
-/

namespace Dialogue

/-- Whether an arrival is a thrown exception or a console call, of whatever session. -/
def Arrival.isRuntimeEvent : Arrival → Bool
  | .message (.notification method _ _) => method == exceptionMethod || method == consoleMethod
  | .message (.response _ _ _) => false
  | .noise _ => false

/-- Neither of the two policies of a state ends the run. -/
structure Calm (state : State) : Prop where
  exceptions : Policy.ofState state Policy.exceptionKey Policy.exceptionDefault ≠ .raise
  consoleCalls : Policy.ofState state Policy.consoleKey Policy.consoleDefault ≠ .raise

/-- No event is raised in a calm state. -/
theorem Calm.policy_ne_raise {state : State} (calm : Calm state) (event : RuntimeEvent) :
    event.policy state ≠ .raise := by
  cases event with
  | exception params => exact calm.exceptions
  | console params => exact calm.consoleCalls

/-- States that name the same policies are calm together. -/
theorem Calm.congr {state other : State} (calm : Calm state)
    (exceptions : other.get? Policy.exceptionKey = state.get? Policy.exceptionKey)
    (consoleCalls : other.get? Policy.consoleKey = state.get? Policy.consoleKey) : Calm other where
  exceptions := by
    rw [Policy.ofState, exceptions]
    exact calm.exceptions
  consoleCalls := by
    rw [Policy.ofState, consoleCalls]
    exact calm.consoleCalls

/-- A step ignores exceptions and console calls in a calm state, even if it waits for them. -/
theorem ignores_of_isRuntimeEvent (handler : AwaitHandler) {state : State} {arrival : Arrival}
    (calm : Calm state) (isEvent : arrival.isRuntimeEvent = true) :
    handler.Ignores state arrival := by
  cases arrival with
  | noise reason => trivial
  | message message =>
      cases message with
      | response id result error => simp [Arrival.isRuntimeEvent] at isEvent
      | notification method params session =>
          by_cases own : session = state.sessionId?
          · -- Interception keeps the event, so the handler does not see it.
            subst own
            have named : method = exceptionMethod ∨ method = consoleMethod := by
              simpa [Arrival.isRuntimeEvent] using isEvent
            obtain ⟨event, same⟩ := exists_event_of_method named params state.sessionId?
            have claimed := RuntimeEvent.of?_eq_some_iff.mpr same
            exact .inr (AwaitHandler.offer_of_event claimed (calm.policy_ne_raise event))
          · exact .inl (AwaitHandler.offer_notification_of_session_ne own)

/-- Exceptions and console calls that are not raised have no effect on the result and on the frames
of a run. -/
theorem run_congr_of_runtime_events {subject : Instance} (link : Link) (firstId : CallId)
    (exceptionSpared : Spares Policy.exceptionKey subject.steps)
    (consoleSpared : Spares Policy.consoleKey subject.steps) (calm : Calm subject.state)
    {one other : List Arrival}
    (same : one.filter (!·.isRuntimeEvent) = other.filter (!·.isRuntimeEvent)) :
    (subject.run link firstId one).result = (subject.run link firstId other).result ∧
      (subject.run link firstId one).sent = (subject.run link firstId other).sent := by
  have lasting :=
    (Lasting.get?_eq (by decide) exceptionSpared (subject.state.get? Policy.exceptionKey)).and
      (Lasting.get?_eq (by decide) consoleSpared (subject.state.get? Policy.consoleKey))
  refine run_congr_of_filter_eq link firstId lasting ?_ ⟨rfl, rfl⟩ same
  intro name handler member state held arrival isEvent
  have calmHere : Calm state := calm.congr held.1 held.2
  exact ignores_of_isRuntimeEvent handler calmHere (by simpa using isEvent)

/-- No built-in script extracts into the policies. -/
theorem spares_policies_of_mem_catalog {script : Script} (member : script ∈ Protocol.catalog)
    (options : Options) :
    Spares Policy.exceptionKey (script.steps options) ∧
      Spares Policy.consoleKey (script.steps options) := by
  have written := writtenKeys_subset_of_mem_catalog member
  constructor
  · exact spares_of_not_mem_writtenKeys (fun extracted => absurd (written extracted) (by decide)) _
  · exact spares_of_not_mem_writtenKeys (fun extracted => absurd (written extracted) (by decide)) _

/-- Interception is transparent unless it raises.  Let no step of an instance extract into the two
policies, and let neither of them be to raise at the start.  Then queues that are equal once all
thrown exceptions and console calls are left out, whatever their parameters and sessions, lead to the
same result and to the same frames; so any number of them may be inserted at any places.  Nothing is
asked of the session, which the steps may change, nor of what the steps wait for.  No built-in script
extracts into the policies, whatever its options. -/
theorem unraised_events_transparent :
    (∀ subject : Instance, Spares Policy.exceptionKey subject.steps →
      Spares Policy.consoleKey subject.steps →
      Policy.ofState subject.state Policy.exceptionKey Policy.exceptionDefault ≠ .raise →
      Policy.ofState subject.state Policy.consoleKey Policy.consoleDefault ≠ .raise →
      ∀ (link : Link) (firstId : CallId) (one other : List Arrival),
        one.filter (!·.isRuntimeEvent) = other.filter (!·.isRuntimeEvent) →
        (subject.run link firstId one).result = (subject.run link firstId other).result ∧
          (subject.run link firstId one).sent = (subject.run link firstId other).sent) ∧
    ∀ script ∈ Protocol.catalog, ∀ (session : Option String) (options : Options),
      Spares Policy.exceptionKey (Instance.forOptionalSession script session options).steps ∧
        Spares Policy.consoleKey (Instance.forOptionalSession script session options).steps := by
  constructor
  · intro subject exceptionSpared consoleSpared exceptions consoleCalls link firstId one other same
    have calm : Calm subject.state := ⟨exceptions, consoleCalls⟩
    exact run_congr_of_runtime_events link firstId exceptionSpared consoleSpared calm same
  · intro script member session options
    cases session with
    | none => exact spares_policies_of_mem_catalog member options
    | some session => exact spares_policies_of_mem_catalog member _

/-- Opening a session, with a policy for exceptions that is none. -/
def opening : Instance :=
  .new Protocol.spawnSession (.ofList [("unhandled_runtime_exceptions", .num (.unsigned 0))])

/-- The responses to the calls that open a session. -/
def openingArrivals : List Arrival :=
  [.message (.response 1 (some (.object [("targetId", .str "T")])) none),
    .message (.response 2 (some (.object [("sessionId", .str "S")])) none),
    .message (.response 3 none none), .message (.response 4 none none)]

/-- The same with an exception and a console call before the session is attached and after it. -/
def eventfulArrivals : List Arrival :=
  let events : List Arrival :=
    [.message (.notification exceptionMethod .null none),
      .message (.notification consoleMethod (.object [("type", .str "error")]) (some "S"))]
  openingArrivals.take 1 ++ events ++ (openingArrivals.take 3).drop 1 ++ events ++
    openingArrivals.drop 3

/-- The events are of no consequence to the session that is opened among them. -/
theorem opening_transparent :
    (opening.run {} 1 eventfulArrivals).result =
        .ok (.object [("sessionId", .str "S"), ("targetId", .str "T")]) ∧
      (opening.run {} 1 eventfulArrivals).sent = (opening.run {} 1 openingArrivals).sent := by
  have spared := unraised_events_transparent.2 Protocol.spawnSession (by simp [Protocol.catalog])
    none (.ofList [("unhandled_runtime_exceptions", .num (.unsigned 0))])
  obtain ⟨sameResult, sameSent⟩ := unraised_events_transparent.1 opening spared.1 spared.2
    (by decide) (by decide) {} 1 eventfulArrivals openingArrivals rfl
  exact ⟨sameResult.trans rfl, sameSent⟩

end Dialogue

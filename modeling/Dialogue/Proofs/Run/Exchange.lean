import Dialogue.Proofs.Run.Ignored
/-!
# Calls and their answers in a run that succeeds

A call and the wait for its response make up an exchange.  A run that returns a value has come
through all exchanges at its beginning: of each the frame was sent, and the first response to that
frame has passed the check and held the fields that were to be extracted (`exchange_of_result_ok`).
What arrived before that response had no part in it.  So the run can be taken apart, one exchange
after the other, down to the output step that gives the value.
-/

namespace Dialogue

/-- The first response to the call with this id among some arrivals, and what arrives after it. -/
def Answered (id : CallId) (result error : Option Json) (arrivals later : List Arrival) : Prop :=
  ∃ earlier, arrivals = earlier ++ .message (.response id result error) :: later ∧
    ∀ result error, .message (.response id result error) ∉ earlier

section
variable {link : Link} {rest : List Step} {state : State} {nextId : CallId} {queue : List Arrival}
  {value : Json}

/-- A wait for the response to the last call ends well with the first response to it, if that passes
the check and holds the fields. -/
theorem answered_of_awaitStep_satisfied {step : String} {waiting : AwaitResponse} {next : State}
    {id : CallId} (last : state.lastCallId? = some id)
    (ended : (awaitStep link step (.response waiting) state queue).ended = .satisfied next) :
    ∃ result error,
      Answered id result error queue
        (awaitStep link step (.response waiting) state queue).remaining ∧
      waiting.check state (.response id result error) = .ok () ∧
      extractFields state (result.getD (.obj .empty)) "result" waiting.extract = .ok next := by
  obtain ⟨passed, message, offered, queued, ignored⟩ := of_awaitStep_satisfied ended
  obtain ⟨answeredId, result, error, rfl, same, checked, extracted⟩ :=
    AwaitHandler.of_offer_response_satisfied offered
  obtain rfl : answeredId = id := Option.some.inj (same.symm.trans last)
  refine ⟨result, error, ⟨passed, queued, ?_⟩, checked, extracted⟩
  -- A response to the last call is never passed over.
  intro otherResult otherError member
  have used : (AwaitHandler.response waiting).offer state
      (.response answeredId otherResult otherError) ≠ .ok .dropped :=
    AwaitHandler.offer_response_ne_dropped_iff.mpr ⟨⟨waiting, rfl⟩, last⟩
  rcases ignored _ member with dropped | kept
  · exact used dropped
  · change (AwaitHandler.response waiting).react state _ = _ at kept
    exact AwaitHandler.react_ne_kept kept

/-- Steps that call no method send nothing. -/
theorem sent_eq_nil_of_silent {steps : List Step} (silent : calledMethods steps = []) :
    (execute link steps state nextId queue).sent = [] := by
  induction steps generalizing state nextId queue with
  | nil => rfl
  | cons step later inductionHypothesis =>
      obtain ⟨name, action⟩ := step
      rw [execute]
      cases action with
      | call spec => cases silent
      | await handler =>
          have laterSilent : calledMethods later = [] := silent
          cases ended : (awaitStep link name handler state queue).ended with
          | stopped error reached => simp only [ended]
          | satisfied next =>
              simp only [ended, Report.afterWarnings]
              exact inductionHypothesis laterSilent
      | output spec => cases projected : spec.project state <;> simp only [projected]

/-- Steps of which only the first one is a call send nothing if its parameters cannot be resolved,
and at most its frame if they can. -/
theorem sent_of_one_call {name : String} {spec : CallSpec} (silent : calledMethods rest = []) :
    (execute link (⟨name, .call spec⟩ :: rest) state nextId queue).sent = [] ∨
      ∃ params, resolveParams state spec.params spec.defaults = .ok params ∧
        (execute link (⟨name, .call spec⟩ :: rest) state nextId queue).sent =
          [Call.toFrame ⟨spec.method, params, state.sessionId?⟩ nextId] := by
  rw [execute]
  simp only [CallId.draw_eq]
  cases issued : spec.issue state nextId with
  | error cause => exact .inl rfl
  | ok outcome =>
      obtain ⟨noted, call⟩ := outcome
      obtain ⟨params, resolved, rfl, rfl⟩ := issue_eq_ok issued
      cases listening : link.peerListens with
      | false => exact .inl (by simp)
      | true =>
          refine .inr ⟨params, resolved, ?_⟩
          simp only [if_true, Report.afterSending]
          rw [sent_eq_nil_of_silent silent]

/-- A run that returns a value and begins with an exchange has sent the frame of the call, and goes
on from the first response to it. -/
theorem exchange_of_result_ok {name awaiting : String} {spec : CallSpec} {waiting : AwaitResponse}
    (returned :
      (execute link (⟨name, .call spec⟩ :: ⟨awaiting, .await (.response waiting)⟩ :: rest) state
        nextId queue).result = .ok value) :
    ∃ params result error next later,
      resolveParams state spec.params spec.defaults = .ok params ∧
      Answered nextId result error queue later ∧
      waiting.check (state.insert lastCallIdKey (.word nextId)) (.response nextId result error) =
        .ok () ∧
      extractFields (state.insert lastCallIdKey (.word nextId)) (result.getD (.obj .empty)) "result"
        waiting.extract = .ok next ∧
      (execute link rest next (nextId + 1) later).result = .ok value ∧
      (execute link (⟨name, .call spec⟩ :: ⟨awaiting, .await (.response waiting)⟩ :: rest) state
        nextId queue).sent =
        Call.toFrame ⟨spec.method, params, state.sessionId?⟩ nextId ::
          (execute link rest next (nextId + 1) later).sent := by
  cases issued : spec.issue state nextId with
  | error cause => simp [execute, issued, Report.result] at returned
  | ok outcome =>
      obtain ⟨noted, call⟩ := outcome
      obtain ⟨params, resolved, rfl, rfl⟩ := issue_eq_ok issued
      cases listening : link.peerListens with
      | false => simp [execute, issued, listening, Report.result] at returned
      | true =>
          simp only [execute, CallId.draw_eq, issued, listening, if_true] at returned ⊢
          cases ended : (awaitStep link awaiting (.response waiting)
            (state.insert lastCallIdKey (.word nextId)) queue).ended with
          | stopped error reached => simp [ended, Report.result, Report.afterSending] at returned
          | satisfied next =>
              obtain ⟨result, error, answered, checked, extracted⟩ :=
                answered_of_awaitStep_satisfied (State.lastCallId?_insert state nextId) ended
              simp only [ended] at returned ⊢
              exact ⟨params, result, error, next, _, resolved, answered, checked, extracted,
                returned, rfl⟩

/-- An exchange of which one field is extracted is answered with a result that has this field, and
leaves it in the state. -/
theorem exchange_of_one_field {name awaiting key : String} {spec : CallSpec}
    (noPosition : Json.position? key = none)
    (returned :
      (execute link (⟨name, .call spec⟩ ::
        ⟨awaiting, .await (.response { extract := [.bare key] })⟩ :: rest) state nextId
        queue).result = .ok value) :
    ∃ params payload field later,
      resolveParams state spec.params spec.defaults = .ok params ∧
      Answered nextId (some payload) none queue later ∧ payload.field? key = some field ∧
      (execute link rest ((state.insert lastCallIdKey (.word nextId)).insert key field) (nextId + 1)
        later).result = .ok value ∧
      (execute link (⟨name, .call spec⟩ ::
        ⟨awaiting, .await (.response { extract := [.bare key] })⟩ :: rest) state nextId
        queue).sent =
        Call.toFrame ⟨spec.method, params, state.sessionId?⟩ nextId ::
          (execute link rest ((state.insert lastCallIdKey (.word nextId)).insert key field)
            (nextId + 1) later).sent := by
  obtain ⟨params, result, error, next, later, resolved, answered, checked, extracted, continued,
    sent⟩ := exchange_of_result_ok returned
  simp only [rejectErrors_eq_ok_iff] at checked
  subst checked
  obtain ⟨field, found, noted⟩ := extractFields_cons_inv extracted
  obtain ⟨payload, rfl, named⟩ := exists_result_of_at? found
  cases noted
  have member := (Json.at?_singleton noPosition payload).symm.trans named
  exact ⟨params, payload, field, later, resolved, answered, member, continued, sent⟩

/-- A run that returns a value and has come to an output step returns what that step projects, and
sends nothing more. -/
theorem project_of_result_ok {name : String} {spec : OutputSpec}
    (returned : (execute link (⟨name, .output spec⟩ :: rest) state nextId queue).result =
      .ok value) :
    spec.project state = .ok value ∧
      (execute link (⟨name, .output spec⟩ :: rest) state nextId queue).sent = [] := by
  rw [execute] at returned ⊢
  cases projected : spec.project state with
  | error cause => simp [projected, Report.result] at returned
  | ok found =>
      simp only [projected, Report.result, Except.ok.injEq] at returned ⊢
      exact ⟨returned, True.intro⟩

end

end Dialogue

import Dialogue.Proofs.Frame
import Dialogue.Proofs.Run.Moment
import Dialogue.Proofs.Script.Declared
/-!
# What completed steps leave behind

A step that is completed leaves a mark: the frame that its call sent, or the message that satisfied
its wait.  `Completes` follows the steps of a run from one to the next and forgets everything that
no step was completed by.  Whatever a run has received, between its start and any of its moments
some first steps of the instance were completed, the frames sent so far are their frames, and the
messages that satisfied them were consumed in the order of the steps (`exists_past_of_reaches`).
-/

namespace Dialogue

/-- What a completed step leaves behind. -/
inductive Mark where
  | sent (frame : Json)
  | took (message : Message)

namespace Mark

/-- The frames among some marks, in order. -/
def frames : List Mark → List Json
  | [] => []
  | .sent frame :: rest => frame :: frames rest
  | .took _ :: rest => frames rest

/-- The messages among some marks, in order. -/
def messages : List Mark → List Message
  | [] => []
  | .sent _ :: rest => messages rest
  | .took message :: rest => message :: messages rest

theorem frames_append (first second : List Mark) :
    frames (first ++ second) = frames first ++ frames second := by
  induction first with
  | nil => rfl
  | cons mark rest inductionHypothesis =>
      cases mark <;> simp [frames, inductionHypothesis]

theorem messages_append (first second : List Mark) :
    messages (first ++ second) = messages first ++ messages second := by
  induction first with
  | nil => rfl
  | cons mark rest inductionHypothesis =>
      cases mark <;> simp [messages, inductionHypothesis]

end Mark

/-- The steps are completed one after the other, from one state and next id to another, and leave
these marks. -/
inductive Completes : List Step → State → CallId → List Mark → State → CallId → Prop where
  | nil (state : State) (nextId : CallId) : Completes [] state nextId [] state nextId
  | call {name : String} {spec : CallSpec} {rest : List Step} {state next final : State}
      {nextId finalId : CallId} {call : Call} {marks : List Mark}
      (issued : spec.issue state nextId = .ok (next, call))
      (later : Completes rest next (nextId + 1) marks final finalId) :
      Completes (⟨name, .call spec⟩ :: rest) state nextId (.sent (call.toFrame nextId) :: marks)
        final finalId
  | await {name : String} {handler : AwaitHandler} {rest : List Step} {state next final : State}
      {nextId finalId : CallId} {message : Message} {marks : List Mark}
      (offered : handler.offer state message = .ok (.satisfied next))
      (later : Completes rest next nextId marks final finalId) :
      Completes (⟨name, .await handler⟩ :: rest) state nextId (.took message :: marks)
        final finalId

/-- A satisfied step leaves every key that it does not extract into as it was. -/
theorem get?_of_offer_satisfied {handler : AwaitHandler} {state next : State} {message : Message}
    {key : String} (satisfied : handler.offer state message = .ok (.satisfied next))
    (unwritten : ∀ spec ∈ handler.fields, spec.key ≠ key) : next.get? key = state.get? key :=
  get?_extractFields_of_not_written (AwaitHandler.extractFields_of_offer_satisfied satisfied)
    unwritten

namespace Completes

variable {first second steps : List Step} {state final : State} {nextId finalId : CallId}
  {marks : List Mark}

/-- Steps are completed by completing the first of them and then the others. -/
theorem split (completes : Completes (first ++ second) state nextId marks final finalId) :
    ∃ middle middleId before after, marks = before ++ after ∧
      Completes first state nextId before middle middleId ∧
      Completes second middle middleId after final finalId := by
  induction first generalizing state nextId marks with
  | nil => exact ⟨state, nextId, [], marks, rfl, .nil state nextId, completes⟩
  | cons step rest inductionHypothesis =>
      cases completes with
      | call issued later =>
          obtain ⟨middle, middleId, before, after, rfl, one, two⟩ := inductionHypothesis later
          exact ⟨middle, middleId, _ :: before, after, rfl, .call issued one, two⟩
      | await offered later =>
          obtain ⟨middle, middleId, before, after, rfl, one, two⟩ := inductionHypothesis later
          exact ⟨middle, middleId, _ :: before, after, rfl, .await offered one, two⟩

/-- Completed steps change no key but the one of the last call's id and those they extract into. -/
theorem get?_eq {key : String} (completes : Completes steps state nextId marks final finalId)
    (other : key ≠ lastCallIdKey) (spared : Spares key steps) :
    final.get? key = state.get? key := by
  induction completes with
  | nil => rfl
  | call issued later inductionHypothesis =>
      rw [inductionHypothesis (spared.mono (List.subset_cons_self _ _)), get?_issue issued other]
  | @await name handler rest state next final nextId finalId message marks offered later
      inductionHypothesis =>
      have unwritten := spared ⟨name, .await handler⟩ List.mem_cons_self
      rw [inductionHypothesis (spared.mono (List.subset_cons_self _ _)),
        get?_of_offer_satisfied offered unwritten]

/-- The session stays the same where no step extracts it. -/
theorem sessionId?_eq (completes : Completes steps state nextId marks final finalId)
    (spared : Spares sessionIdKey steps) : final.sessionId? = state.sessionId? := by
  rw [State.sessionId?, State.sessionId?, completes.get?_eq (by decide) spared]

/-- The frames of completed steps call the methods that the steps call. -/
theorem map_method?_frames (completes : Completes steps state nextId marks final finalId) :
    (Mark.frames marks).map Json.method? = (calledMethods steps).map some := by
  induction completes with
  | nil => rfl
  | call issued later inductionHypothesis =>
      obtain ⟨params, _, _, rfl⟩ := issue_eq_ok issued
      rw [Mark.frames, List.map_cons, method?_toFrame, inductionHypothesis]
      rfl
  | await offered later inductionHypothesis => exact inductionHypothesis

/-- A call and the wait for its response are completed by sending its frame and then taking the
response with the id of that frame. -/
theorem exchange {name awaiting : String} {spec : CallSpec} {waiting : AwaitResponse}
    {rest : List Step}
    (completes : Completes
      (⟨name, .call spec⟩ :: ⟨awaiting, .await (.response waiting)⟩ :: rest) state nextId marks
      final finalId) :
    ∃ params result error next later,
      resolveParams state spec.params spec.defaults = .ok params ∧
      waiting.check (state.insert lastCallIdKey (.word nextId)) (.response nextId result error) =
        .ok () ∧
      extractFields (state.insert lastCallIdKey (.word nextId)) (result.getD (.obj .empty)) "result"
        waiting.extract = .ok next ∧
      marks = .sent (Call.toFrame ⟨spec.method, params, state.sessionId?⟩ nextId) ::
        .took (.response nextId result error) :: later ∧
      Completes rest next (nextId + 1) later final finalId := by
  cases completes with
  | call issued answered =>
      obtain ⟨params, resolved, rfl, rfl⟩ := issue_eq_ok issued
      cases answered with
      | await offered later =>
          obtain ⟨id, result, error, rfl, last, checked, extracted⟩ :=
            AwaitHandler.of_offer_response_satisfied offered
          rw [State.lastCallId?_insert, Option.some.injEq] at last
          subst last
          exact ⟨params, result, error, _, _, resolved, checked, extracted, rfl, later⟩

/-- The wait for a notification is completed by taking one of its method and of the session. -/
theorem event {name : String} {waiting : AwaitNotification} {rest : List Step}
    (completes : Completes (⟨name, .await (.notification waiting)⟩ :: rest) state nextId marks final
      finalId) :
    ∃ params next later, fieldsMatch state params waiting.matchOn = .ok true ∧
      extractFields state params waiting.method waiting.extract = .ok next ∧
      marks = .took (.notification waiting.method params state.sessionId?) :: later ∧
      Completes rest next nextId later final finalId := by
  cases completes with
  | await offered later =>
      obtain ⟨params, rfl, agree, extracted⟩ :=
        AwaitHandler.of_offer_notification_satisfied offered
      exact ⟨params, _, _, agree, extracted, rfl, later⟩

end Completes

/-! ### The past of a moment -/

/-- What lies between two moments of a run: the steps that were completed, their marks, and the
arrivals that were consumed, among which are the messages of the marks in order. -/
structure Past (start moment : Moment) (done : List Step) (marks : List Mark)
    (consumed : List Arrival) : Prop where
  steps : start.steps = done ++ moment.steps
  completes : Completes done start.state start.nextId marks moment.state moment.nextId
  sent : moment.sent = start.sent ++ Mark.frames marks
  queue : start.queue = consumed ++ moment.queue
  inOrder : ((Mark.messages marks).map Arrival.message).Sublist consumed

namespace Past

variable {start next moment : Moment} {done : List Step} {marks : List Mark}
  {consumed : List Arrival}

theorem refl (moment : Moment) : Past moment moment [] [] [] where
  steps := rfl
  completes := .nil _ _
  sent := (List.append_nil _).symm
  queue := rfl
  inOrder := .slnil

/-- An arrival that completes no step is consumed and leaves no mark. -/
theorem consume {arrival : Arrival} (past : Past next moment done marks consumed)
    (sameSteps : next.steps = start.steps) (sameState : next.state = start.state)
    (sameId : next.nextId = start.nextId) (sameSent : next.sent = start.sent)
    (received : start.queue = arrival :: next.queue) :
    Past start moment done marks (arrival :: consumed) where
  steps := sameSteps ▸ past.steps
  completes := sameState ▸ sameId ▸ past.completes
  sent := sameSent ▸ past.sent
  queue := by rw [received, past.queue, List.cons_append]
  inOrder := past.inOrder.cons arrival

end Past

/-- A moment that a run comes to has a past, whatever the run has received. -/
theorem exists_past_of_reaches {link : Link} {start moment : Moment}
    (reached : Reaches link start moment) :
    ∃ done marks consumed, Past start moment done marks consumed := by
  induction reached using Relation.ReflTransGen.head_induction_on with
  | refl => exact ⟨[], [], [], .refl moment⟩
  | @head start next move _ inductionHypothesis =>
      obtain ⟨done, marks, consumed, past⟩ := inductionHypothesis
      cases move with
      | @call name spec rest reached call pending issued listening =>
          refine ⟨⟨name, .call spec⟩ :: done, .sent (call.toFrame start.nextId) :: marks, consumed,
            ?_⟩
          exact
            { steps := by rw [pending, List.cons_append, ← past.steps]
              completes := .call issued past.completes
              sent := by simp [past.sent, Mark.frames]
              queue := past.queue
              inOrder := past.inOrder }
      | skip pending received => exact ⟨done, marks, _, past.consume rfl rfl rfl rfl received⟩
      | drop pending received => exact ⟨done, marks, _, past.consume rfl rfl rfl rfl received⟩
      | keep pending received offered =>
          obtain rfl := AwaitHandler.eq_of_offer_kept offered
          exact ⟨done, marks, _, past.consume rfl rfl rfl rfl received⟩
      | @satisfy name handler rest message later reached pending received offered =>
          refine ⟨⟨name, .await handler⟩ :: done, .took message :: marks,
            .message message :: consumed, ?_⟩
          exact
            { steps := by rw [pending, List.cons_append, ← past.steps]
              completes := .await offered past.completes
              sent := past.sent
              queue := by rw [received, List.cons_append, ← past.queue]
              inOrder := past.inOrder.cons_cons _ }

/-- The steps that were completed spare what all of them spare. -/
theorem Past.spares {start moment : Moment} {done : List Step} {marks : List Mark}
    {consumed : List Arrival} {key : String} (past : Past start moment done marks consumed)
    (spared : Spares key start.steps) : Spares key done :=
  spared.mono (past.steps ▸ List.subset_append_left done moment.steps)

/-- Throughout a run a key keeps its value, unless it is the id of the last call or a step extracts
into it. -/
theorem get?_of_reaches {link : Link} {start moment : Moment} {key : String}
    (other : key ≠ lastCallIdKey) (spared : Spares key start.steps)
    (reached : Reaches link start moment) : moment.state.get? key = start.state.get? key := by
  obtain ⟨done, marks, consumed, past⟩ := exists_past_of_reaches reached
  exact past.completes.get?_eq other (past.spares spared)

/-- A frame that was sent between two moments belongs to a completed step that calls its method. -/
theorem Past.exists_calling_step {start moment : Moment} {done : List Step} {marks : List Mark}
    {consumed : List Arrival} (past : Past start moment done marks consumed)
    (fresh : start.sent = []) {frame : Json} (member : frame ∈ moment.sent) {method : String}
    (calls : frame.method? = some method) : ∃ step ∈ done, step.method? = some method := by
  have frames : moment.sent = Mark.frames marks := by
    rw [past.sent, fresh, List.nil_append]
  have called : some method ∈ (calledMethods done).map some := by
    rw [← past.completes.map_method?_frames, ← frames, ← calls]
    exact List.mem_map_of_mem member
  obtain ⟨_, inMethods, rfl⟩ : ∃ other ∈ calledMethods done, other = method := by
    simpa using called
  exact List.mem_filterMap.mp inMethods

/-! ### The end of a run -/

section
variable {link : Link} {moment : Moment} {finish : Finish}

/-- A run that halts leaves arrivals that it had in its queue, in their order. -/
theorem Halt.remaining_suffix (halt : Halt link moment finish) :
    (moment.report link).remaining <:+ moment.queue := by
  cases halt with
  | done finished => simp [Moment.report, finished, execute]
  | output pending projected => simp [Moment.report, pending, execute, projected]
  | unprojected pending refused => simp [Moment.report, pending, execute, refused]
  | unissued pending refused => simp [Moment.report, pending, execute, refused]
  | unsent pending issued deaf => simp [Moment.report, pending, execute, issued, deaf]
  | starved pending exhausted => simp [Moment.report, pending, execute, exhausted, awaitStep]
  | rejected pending received refused =>
      simp [Moment.report, pending, execute, received, awaitStep, refused]
  | failed pending received offered =>
      simp [Moment.report, pending, execute, received, awaitStep, offered]

variable (link) (subject : Instance) (firstId : CallId) (queue : List Arrival)

/-- What a run leaves of its arrivals are the last ones. -/
theorem remaining_suffix_of_run : (subject.run link firstId queue).remaining <:+ queue := by
  obtain ⟨last, finish, reached, halt, _, _⟩ := run_halts link subject firstId queue
  obtain ⟨done, marks, consumed, past⟩ := exists_past_of_reaches reached
  have received : queue = consumed ++ last.queue := past.queue
  rw [← report_start, ← report_of_reaches reached, received]
  exact halt.remaining_suffix.trans (List.suffix_append consumed last.queue)

/-- A run leaves a key as it was where no step extracts into it. -/
theorem get?_state_of_run {key : String} (other : key ≠ lastCallIdKey)
    (spared : Spares key subject.steps) :
    (subject.run link firstId queue).state.get? key = subject.state.get? key := by
  obtain ⟨last, finish, reached, halt, _, _⟩ := run_halts link subject firstId queue
  rw [← report_start, ← report_of_reaches reached, halt.report_eq.2.2]
  exact get?_of_reaches other spared reached

end

end Dialogue

import Dialogue.Proofs.Run.Ignored
/-!
# Runs do not concern each other's sessions

The session of a run is a value of its state, read anew by every call, by interception and by every
step that waits for a notification.  If no step extracts into it, it is the same at all moments of
the run.  Then every frame carries it, and the notifications of all other sessions are ignored, so
that the run is the one over a transcript without them: what happens in another session neither
satisfies a step nor ends the run, and it does not show in any frame.
-/

namespace Dialogue

/-- Whether an arrival can concern a run of this session: everything does but the notifications of
other sessions. -/
def Arrival.concerns (session : Option String) : Arrival → Bool
  | .message (.notification _ _ other) => other == session
  | .message (.response _ _ _) => true
  | .noise _ => true

/-- A step ignores the notifications of other sessions. -/
theorem ignores_of_not_concerns (handler : AwaitHandler) {state : State} {arrival : Arrival}
    (foreign : arrival.concerns state.sessionId? = false) : handler.Ignores state arrival := by
  cases arrival with
  | noise reason => trivial
  | message message =>
      cases message with
      | response id result error => simp [Arrival.concerns] at foreign
      | notification method params session =>
          have different : session ≠ state.sessionId? := by
            simpa [Arrival.concerns] using foreign
          exact .inl (AwaitHandler.offer_notification_of_session_ne different)

/-- The frames of completed steps carry the session, where no step extracts it. -/
theorem Completes.field?_sessionId {steps : List Step} {state final : State}
    {nextId finalId : CallId} {marks : List Mark}
    (completes : Completes steps state nextId marks final finalId)
    (spared : Spares sessionIdKey steps) :
    ∀ frame ∈ Mark.frames marks, frame.field? sessionIdKey = state.sessionId?.map .str := by
  induction completes with
  | nil =>
      intro frame member
      cases member
  | @call name spec rest state next final nextId finalId call marks issued later
      inductionHypothesis =>
      have same : next.sessionId? = state.sessionId? := by
        rw [State.sessionId?, State.sessionId?, get?_issue issued (by decide)]
      intro frame member
      rcases List.mem_cons.mp member with rfl | member
      · obtain ⟨params, _, _, rfl⟩ := issue_eq_ok issued
        exact field?_sessionId_toFrame _ nextId
      · rw [← same]
        exact inductionHypothesis (spared.mono (List.subset_cons_self _ _)) frame member
  | @await name handler rest state next final nextId finalId message marks offered later
      inductionHypothesis =>
      have unwritten := spared ⟨name, .await handler⟩ List.mem_cons_self
      have same : next.sessionId? = state.sessionId? := by
        rw [State.sessionId?, State.sessionId?, get?_of_offer_satisfied offered unwritten]
      intro frame member
      rw [← same]
      exact inductionHypothesis (spared.mono (List.subset_cons_self _ _)) frame member

section
variable {link : Link} {subject : Instance} {firstId : CallId} {queue : List Arrival}
  {moment : Moment}

/-- At every moment of a run the session is that of the start. -/
theorem sessionId?_of_reaches (spared : Spares sessionIdKey subject.steps)
    (reached : Reaches link (subject.start firstId queue) moment) :
    moment.state.sessionId? = subject.state.sessionId? := by
  have same : moment.state.get? sessionIdKey = subject.state.get? sessionIdKey :=
    get?_of_reaches (by decide) spared reached
  rw [State.sessionId?, State.sessionId?, same]

/-- Every frame of a run carries the session of its start. -/
theorem field?_sessionId_of_mem_sent (spared : Spares sessionIdKey subject.steps) (frame : Json)
    (member : frame ∈ (subject.run link firstId queue).sent) :
    frame.field? sessionIdKey = subject.state.sessionId?.map .str := by
  obtain ⟨last, finish, reached, _, _, sent⟩ := run_halts link subject firstId queue
  obtain ⟨done, marks, consumed, past⟩ := exists_past_of_reaches reached
  have frames : last.sent = Mark.frames marks := past.sent
  rw [sent, frames] at member
  exact past.completes.field?_sessionId (past.spares spared) frame member

/-- What happens in other sessions has no effect on the result and on the frames of a run. -/
theorem run_congr_of_other_sessions (spared : Spares sessionIdKey subject.steps)
    {one other : List Arrival}
    (same : one.filter (Arrival.concerns subject.state.sessionId?) =
      other.filter (Arrival.concerns subject.state.sessionId?)) :
    (subject.run link firstId one).result = (subject.run link firstId other).result ∧
      (subject.run link firstId one).sent = (subject.run link firstId other).sent := by
  have lasting := Lasting.get?_eq (by decide) spared (subject.state.get? sessionIdKey)
  refine run_congr_of_filter_eq link firstId lasting ?_ rfl same
  intro name handler member state held arrival foreign
  have session : state.sessionId? = subject.state.sessionId? := by
    rw [State.sessionId?, State.sessionId?, held]
  rw [← session] at foreign
  exact ignores_of_not_concerns handler foreign

end

/-- The session is what the options say, if that is a text. -/
theorem sessionId?_initialState (options : Options) :
    (initialState options).sessionId? = (options.get? sessionIdKey).bind Json.asString? := by
  rw [State.sessionId?, get?_initialState options (by decide) (by decide)]

/-- Only opening a session extracts one. -/
theorem spares_sessionId_of_mem_catalog {script : Script} (member : script ∈ Protocol.catalog)
    (other : script.name ≠ Protocol.spawnSession.name) (options : Options) :
    Spares sessionIdKey (script.steps options) := by
  have checked : ∀ script ∈ Protocol.catalog, script.name ≠ Protocol.spawnSession.name →
      sessionIdKey ∉ script.writtenKeys := by
    decide
  exact spares_of_not_mem_writtenKeys (checked script member other) options

/-- Runs of different sessions do not concern each other.  In every run whose steps do not extract
into the session, each frame carries the session of the initial state, or no session if that state
has none; queues that are equal once the notifications of other sessions are left out lead to the
same result and to the same frames; and whatever step is pending, a notification of another session
is dropped.  All built-in scripts but the one that opens a session have such steps, under all
options.  The session of the initial state is the one that an instance was made for, and else what
the options say, if that is a text. -/
theorem run_isolated_from_other_sessions :
    (∀ subject : Instance, Spares sessionIdKey subject.steps →
      ∀ (link : Link) (firstId : CallId),
        (∀ queue, ∀ frame ∈ (subject.run link firstId queue).sent,
          frame.field? sessionIdKey = subject.state.sessionId?.map .str) ∧
        (∀ one other : List Arrival,
          one.filter (Arrival.concerns subject.state.sessionId?) =
            other.filter (Arrival.concerns subject.state.sessionId?) →
          (subject.run link firstId one).result = (subject.run link firstId other).result ∧
            (subject.run link firstId one).sent = (subject.run link firstId other).sent) ∧
        ∀ (queue : List Arrival) (moment : Moment),
          Reaches link (subject.start firstId queue) moment →
          ∀ (name : String) (handler : AwaitHandler) (rest : List Step),
            moment.steps = ⟨name, .await handler⟩ :: rest →
            ∀ (method : String) (params : Json) (session : Option String),
              session ≠ subject.state.sessionId? →
              handler.offer moment.state (.notification method params session) = .ok .dropped) ∧
    (∀ script ∈ Protocol.catalog, script.name ≠ Protocol.spawnSession.name →
      ∀ (session : Option String) (options : Options),
        Spares sessionIdKey (Instance.forOptionalSession script session options).steps) ∧
    ∀ (script : Script) (options : Options),
      (∀ session, (Instance.forSession script session options).state.sessionId? = some session) ∧
        (Instance.new script options).state.sessionId? =
          (options.get? sessionIdKey).bind Json.asString? := by
  refine ⟨?_, ?_, ?_⟩
  · intro subject spared link firstId
    refine ⟨?_, ?_, ?_⟩
    · intro queue frame member
      exact field?_sessionId_of_mem_sent spared frame member
    · intro one other same
      exact run_congr_of_other_sessions spared same
    · intro queue moment reached name handler rest pending method params session foreign
      rw [← sessionId?_of_reaches spared reached] at foreign
      exact AwaitHandler.offer_notification_of_session_ne foreign
  · intro script member other session options
    cases session with
    | none => exact spares_sessionId_of_mem_catalog member other options
    | some session => exact spares_sessionId_of_mem_catalog member other _
  · intro script options
    constructor
    · intro session
      have state : (Instance.forSession script session options).state.sessionId? =
          ((options.insert sessionIdKey (.str session)).get? sessionIdKey).bind Json.asString? :=
        sessionId?_initialState _
      rw [state, Table.get?_insert_self]
      rfl
    · exact sessionId?_initialState options

/-- A session that is made blank under options that name another session and raise exceptions. -/
def guardedReset : Instance :=
  .forSession Protocol.resetSession "S"
    (.ofList [("sessionId", .str "T"), ("unhandled_runtime_exceptions", .str "raise")])

/-- What that session has to say. -/
def ownArrivals : List Arrival :=
  [.message (.response 1 (some (.object [("frameId", .str "F")])) none),
    .message (.notification "Page.frameStoppedLoading" (.object [("frameId", .str "F")]) (some "S"))]

/-- The same, between an exception in one session and a page of that name in none. -/
def mixedArrivals : List Arrival :=
  .message (.notification "Runtime.exceptionThrown" (.object []) (some "T")) ::
    ownArrivals.take 1 ++
      .message (.notification "Page.frameStoppedLoading" (.object [("frameId", .str "F")]) none) ::
        ownArrivals.drop 1

/-- The exception does not end the run, and the other page does not satisfy it. -/
theorem guardedReset_isolated :
    (guardedReset.run {} 1 mixedArrivals).result = .ok (.str "F") ∧
      (guardedReset.run {} 1 mixedArrivals).sent = (guardedReset.run {} 1 ownArrivals).sent ∧
      ∀ frame ∈ (guardedReset.run {} 1 mixedArrivals).sent,
        frame.field? sessionIdKey = some (.str "S") := by
  have spared : Spares sessionIdKey guardedReset.steps :=
    run_isolated_from_other_sessions.2.1 Protocol.resetSession (by simp [Protocol.catalog])
      (by decide) (some "S") _
  obtain ⟨frames, congruent, _⟩ :=
    run_isolated_from_other_sessions.1 guardedReset spared {} 1
  obtain ⟨sameResult, sameSent⟩ := congruent mixedArrivals ownArrivals rfl
  have result : (guardedReset.run {} 1 ownArrivals).result = .ok (.str "F") := rfl
  exact ⟨sameResult.trans result, sameSent, frames mixedArrivals⟩

end Dialogue

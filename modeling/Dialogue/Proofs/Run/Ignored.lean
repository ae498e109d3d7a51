import Dialogue.Proofs.Run.Completion
/-!
# Arrivals that a run ignores

A pending step ignores an arrival that neither satisfies it nor ends the run: noise is skipped, and
a message is dropped, or kept without a change of the state.  If the steps of a run ignore all
arrivals of some kind, in every state that the run can come to, then the run is the same without
them, warnings apart: it ends in the same way and in the same state, has sent the same frames and
leaves the other arrivals that it left before (`thins_execute`).  Noise is ignored by every step in
every state.

Which states a run can come to is told by a property that lasts: one that no call and no satisfied
step among the steps can end.
-/

namespace Dialogue

/-- The step stays pending in this state when the arrival is consumed. -/
def AwaitHandler.Ignores (handler : AwaitHandler) (state : State) : Arrival → Prop
  | .noise _ => True
  | .message message =>
      handler.offer state message = .ok .dropped ∨ handler.offer state message = .ok (.kept state)

/-! ### Properties that last -/

/-- No step ends this property of the state by being completed. -/
structure Lasting (holds : State → Prop) (steps : List Step) : Prop where
  call : ∀ {name : String} {spec : CallSpec}, ⟨name, .call spec⟩ ∈ steps →
    ∀ {state next : State} {id : CallId} {call : Call}, holds state →
      spec.issue state id = .ok (next, call) → holds next
  await : ∀ {name : String} {handler : AwaitHandler}, ⟨name, .await handler⟩ ∈ steps →
    ∀ {state next : State} {message : Message}, holds state →
      handler.offer state message = .ok (.satisfied next) → holds next

namespace Lasting

variable {holds others : State → Prop} {steps rest : List Step} {step : Step}

/-- The value of a key lasts, unless it is the id of the last call or a step extracts into it. -/
theorem get?_eq {key : String} (other : key ≠ lastCallIdKey) (spared : Spares key steps)
    (value : Option Json) : Lasting (fun state => state.get? key = value) steps where
  call := by
    intro name spec member state next id call same issued
    rw [get?_issue issued other, same]
  await := by
    intro name handler member state next message same satisfied
    rw [get?_of_offer_satisfied satisfied (spared _ member), same]

theorem and (one : Lasting holds steps) (two : Lasting others steps) :
    Lasting (fun state => holds state ∧ others state) steps where
  call := fun member _ _ _ _ both issued =>
    ⟨one.call member both.1 issued, two.call member both.2 issued⟩
  await := fun member _ _ _ both satisfied =>
    ⟨one.await member both.1 satisfied, two.await member both.2 satisfied⟩

theorem trivial (steps : List Step) : Lasting (fun _ => True) steps :=
  ⟨fun _ _ _ _ _ _ _ => True.intro, fun _ _ _ _ _ _ => True.intro⟩

theorem tail (lasting : Lasting holds (step :: rest)) : Lasting holds rest where
  call := fun member => lasting.call (List.mem_cons_of_mem step member)
  await := fun member => lasting.await (List.mem_cons_of_mem step member)

end Lasting

/-- A wait that ends well passes over arrivals that its step ignores, until it comes to a message
that satisfies the step in the state in which the wait began, and leaves what is behind that
message. -/
theorem of_awaitStep_satisfied {link : Link} {step : String} {handler : AwaitHandler}
    {state next : State} {queue : List Arrival}
    (ended : (awaitStep link step handler state queue).ended = .satisfied next) :
    ∃ passed message, handler.offer state message = .ok (.satisfied next) ∧
      queue = passed ++ .message message :: (awaitStep link step handler state queue).remaining ∧
      ∀ arrival ∈ passed, handler.Ignores state arrival := by
  induction queue with
  | nil => simp [awaitStep] at ended
  | cons arrival later inductionHypothesis =>
      -- A step that ignores the first arrival waits for the later ones.
      have ignored (ignores : handler.Ignores state arrival)
          (same : (awaitStep link step handler state (arrival :: later)).ended =
            (awaitStep link step handler state later).ended)
          (sameRest : (awaitStep link step handler state (arrival :: later)).remaining =
            (awaitStep link step handler state later).remaining) :
          ∃ passed message, handler.offer state message = .ok (.satisfied next) ∧
            arrival :: later = passed ++ .message message ::
              (awaitStep link step handler state (arrival :: later)).remaining ∧
            ∀ arrival ∈ passed, handler.Ignores state arrival := by
        obtain ⟨passed, message, offered, queued, all⟩ := inductionHypothesis (same ▸ ended)
        refine ⟨arrival :: passed, message, offered, ?_, List.forall_mem_cons.mpr ⟨ignores, all⟩⟩
        rw [sameRest, List.cons_append, ← queued]
      cases arrival with
      | noise reason => exact ignored True.intro rfl rfl
      | message message =>
          cases offered : handler.offer state message with
          | error cause => simp [awaitStep, offered] at ended
          | ok reaction =>
              cases reaction with
              | dropped =>
                  exact ignored (.inl offered) (by simp only [awaitStep, offered])
                    (by simp only [awaitStep, offered])
              | kept reached =>
                  obtain rfl := AwaitHandler.eq_of_offer_kept offered
                  exact ignored (.inr offered)
                    (by simp only [awaitStep, offered, Wait.afterWarnings])
                    (by simp only [awaitStep, offered, Wait.afterWarnings])
              | satisfied reached =>
                  simp only [awaitStep, offered] at ended ⊢
                  cases ended
                  exact ⟨[], message, offered, rfl, by simp⟩
              | failed failure => simp [awaitStep, offered] at ended

/-! ### Runs without the arrivals that are ignored -/

/-- The second wait is the first one over the arrivals that are to be kept. -/
structure Wait.Thins (keep : Arrival → Bool) (full thin : Wait) : Prop where
  ended : thin.ended = full.ended
  remaining : thin.remaining = full.remaining.filter keep

/-- The second report is that of the first run over the arrivals that are to be kept. -/
structure Report.Thins (keep : Arrival → Bool) (full thin : Report) : Prop where
  finish : thin.finish = full.finish
  state : thin.state = full.state
  remaining : thin.remaining = full.remaining.filter keep
  nextId : thin.nextId = full.nextId
  sent : thin.sent = full.sent

variable {keep : Arrival → Bool}

/-- Warnings make no difference to a wait. -/
theorem Wait.Thins.afterWarnings {full thin : Wait} (thins : full.Thins keep thin)
    (before after : List Warning) :
    (full.afterWarnings before).Thins keep (thin.afterWarnings after) :=
  ⟨thins.ended, thins.remaining⟩

/-- Warnings make no difference to a report. -/
theorem Report.Thins.afterWarnings {full thin : Report} (thins : full.Thins keep thin)
    (before after : List Warning) :
    (full.afterWarnings before).Thins keep (thin.afterWarnings after) :=
  ⟨thins.finish, thins.state, thins.remaining, thins.nextId, thins.sent⟩

/-- A frame that both runs sent makes no difference to their reports. -/
theorem Report.Thins.afterSending {full thin : Report} (thins : full.Thins keep thin)
    (frame : Json) : (full.afterSending frame).Thins keep (thin.afterSending frame) :=
  ⟨thins.finish, thins.state, thins.remaining, thins.nextId, congrArg (frame :: ·) thins.sent⟩

/-- A wait goes on after an arrival that is ignored as if it had not come. -/
theorem Wait.Thins.ignored {handler : AwaitHandler} {state : State} {arrival : Arrival}
    {later : List Arrival} {thin : Wait} (link : Link) (step : String)
    (ignored : handler.Ignores state arrival)
    (thins : (awaitStep link step handler state later).Thins keep thin) :
    (awaitStep link step handler state (arrival :: later)).Thins keep thin := by
  cases arrival with
  | noise reason =>
      rw [awaitStep]
      exact thins.afterWarnings [.skippedFrame reason] []
  | message message =>
      rw [awaitStep]
      rcases ignored with dropped | kept
      · simp only [dropped]
        exact thins
      · simp only [kept]
        exact thins.afterWarnings (interceptionWarnings state message) []

/-- A step that ignores all arrivals that are not kept waits as it does without them. -/
theorem thins_awaitStep (link : Link) (step : String) {handler : AwaitHandler} {state : State}
    (ignores : ∀ arrival, keep arrival = false → handler.Ignores state arrival)
    (queue : List Arrival) :
    (awaitStep link step handler state queue).Thins keep
      (awaitStep link step handler state (queue.filter keep)) := by
  induction queue with
  | nil => exact ⟨rfl, rfl⟩
  | cons arrival later inductionHypothesis =>
      cases kept : keep arrival with
      | false =>
          rw [List.filter_cons_of_neg (by simp [kept])]
          exact inductionHypothesis.ignored link step (ignores arrival kept)
      | true =>
          rw [List.filter_cons_of_pos kept]
          cases arrival with
          | noise reason =>
              rw [awaitStep, awaitStep]
              exact inductionHypothesis.afterWarnings _ _
          | message message =>
              rw [awaitStep, awaitStep]
              cases offered : handler.offer state message with
              | error cause => exact ⟨rfl, rfl⟩
              | ok reaction =>
                  cases reaction with
                  | dropped => exact inductionHypothesis
                  | kept next =>
                      -- The wait goes on in the state it was in, for which the hypothesis is.
                      obtain rfl := AwaitHandler.eq_of_offer_kept offered
                      exact inductionHypothesis.afterWarnings _ _
                  | satisfied next => exact ⟨rfl, rfl⟩
                  | failed failure => exact ⟨rfl, rfl⟩

/-- Steps that ignore all arrivals that are not kept are executed as they are without them. -/
theorem thins_execute {holds : State → Prop} (link : Link) (steps : List Step) (state : State)
    (nextId : CallId) (queue : List Arrival) (lasting : Lasting holds steps)
    (ignores : ∀ name handler, ⟨name, .await handler⟩ ∈ steps → ∀ state, holds state →
      ∀ arrival, keep arrival = false → handler.Ignores state arrival)
    (start : holds state) :
    (execute link steps state nextId queue).Thins keep
      (execute link steps state nextId (queue.filter keep)) := by
  induction steps generalizing state nextId queue with
  | nil => exact ⟨rfl, rfl, rfl, rfl, rfl⟩
  | cons step rest inductionHypothesis =>
      obtain ⟨name, action⟩ := step
      have later := fun name handler member =>
        ignores name handler (List.mem_cons_of_mem _ member)
      have goesOn := fun state nextId queue =>
        inductionHypothesis state nextId queue lasting.tail later
      rw [execute, execute]
      cases action with
      | call spec =>
          simp only [CallId.draw_eq]
          cases issued : spec.issue state nextId with
          | error cause => exact ⟨rfl, rfl, rfl, rfl, rfl⟩
          | ok outcome =>
              obtain ⟨next, call⟩ := outcome
              cases listening : link.peerListens with
              | true =>
                  simp only [if_true]
                  have still := lasting.call List.mem_cons_self start issued
                  exact (goesOn next (nextId + 1) queue still).afterSending _
              | false => exact ⟨rfl, rfl, rfl, rfl, rfl⟩
      | output spec =>
          cases projected : spec.project state with
          | error cause => simp only [projected]; exact ⟨rfl, rfl, rfl, rfl, rfl⟩
          | ok value => simp only [projected]; exact ⟨rfl, rfl, rfl, rfl, rfl⟩
      | await handler =>
          have waits := thins_awaitStep link name
            (ignores name handler List.mem_cons_self state start) queue
          simp only [waits.ended, waits.remaining]
          cases ended : (awaitStep link name handler state queue).ended with
          | stopped error reached => exact ⟨rfl, rfl, rfl, rfl, rfl⟩
          | satisfied next =>
              obtain ⟨_, message, offered, _⟩ := of_awaitStep_satisfied ended
              have still := lasting.await List.mem_cons_self start offered
              exact (goesOn next nextId _ still).afterWarnings _ _

/-- Queues that differ in nothing but arrivals that a run ignores lead to the same result and the
same frames. -/
theorem run_congr_of_filter_eq {holds : State → Prop} {subject : Instance} (link : Link)
    (firstId : CallId) (lasting : Lasting holds subject.steps)
    (ignores : ∀ name handler, ⟨name, .await handler⟩ ∈ subject.steps → ∀ state, holds state →
      ∀ arrival, keep arrival = false → handler.Ignores state arrival)
    (start : holds subject.state) {one other : List Arrival}
    (same : one.filter keep = other.filter keep) :
    (subject.run link firstId one).result = (subject.run link firstId other).result ∧
      (subject.run link firstId one).sent = (subject.run link firstId other).sent := by
  have thins := fun queue =>
    thins_execute link subject.steps subject.state firstId queue lasting ignores start
  have first := thins one
  have second := thins other
  rw [same] at first
  constructor
  · rw [Report.result, Report.result, Instance.run, Instance.run, ← first.finish, second.finish]
  · rw [Instance.run, Instance.run, ← first.sent, second.sent]

/-! ### Noise -/

/-- Whether an arrival is a message. -/
def Arrival.isMessage : Arrival → Bool
  | .message _ => true
  | .noise _ => false

/-- The queue without its noise. -/
def quiet (queue : List Arrival) : List Arrival :=
  queue.filter Arrival.isMessage

/-- Every step ignores noise. -/
theorem ignores_of_noise (handler : AwaitHandler) (state : State) (arrival : Arrival)
    (noise : arrival.isMessage = false) : handler.Ignores state arrival := by
  cases arrival with
  | noise reason => trivial
  | message message => simp [Arrival.isMessage] at noise

/-- Queues with the same messages lead to the same result and the same frames. -/
theorem run_congr_of_quiet_eq (subject : Instance) (link : Link) (firstId : CallId)
    {one other : List Arrival} (same : quiet one = quiet other) :
    (subject.run link firstId one).result = (subject.run link firstId other).result ∧
      (subject.run link firstId one).sent = (subject.run link firstId other).sent := by
  have lasting : Lasting (fun _ => True) subject.steps := .trivial subject.steps
  refine run_congr_of_filter_eq link firstId lasting ?_ trivial same
  intro name handler _ state _ arrival noise
  exact ignores_of_noise handler state arrival noise

end Dialogue

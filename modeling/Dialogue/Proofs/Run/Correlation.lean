import Dialogue.Proofs.Frame
import Dialogue.Proofs.Run.Moment
import Dialogue.Proofs.Script.Correlated
/-!
# Responses answer the last call

A step that waits for a response looks for the id that the state names as the one of the last call.
That id is in a part of the state that options, extraction and calls all write to.  If a call comes
before every such step, and no step extracts into that key, then from the first frame on the state
names the id of the last frame that was sent (`Tied`), and whatever response a step makes something
of answers that frame.
-/

namespace Dialogue

/-! ### The invariant of a run -/

/-- What ties the state of a run to the frames it has sent: from the first frame on the state names
the id of the last one, and no step that is still to be done will undo that. -/
structure Tied (moment : Moment) : Prop where
  callsPrecede : CallsPrecede (moment.sent ≠ []) moment.steps
  spareCallId : SpareCallId moment.steps
  lastFrame : ∀ frame, moment.sent.getLast? = some frame →
    ∃ id, frame.callId? = some id ∧ moment.state.lastCallId? = some id

namespace Tied

variable {link : Link} {moment next : Moment}

theorem start {subject : Instance} (correlated : Correlated subject.steps) (firstId : CallId)
    (queue : List Arrival) : Tied (subject.start firstId queue) where
  callsPrecede := correlated.callsPrecede.mono False.elim
  spareCallId := correlated.spareCallId
  lastFrame := by simp [Instance.start]

/-- Every move keeps the state tied to the last frame. -/
theorem move (tied : Tied moment) (move : Move link moment next) : Tied next := by
  cases move with
  | @call name spec rest reached call pending issued listening =>
      obtain ⟨params, _, rfl, _⟩ := issue_eq_ok issued
      have spared := tied.spareCallId
      rw [pending] at spared
      refine
        { callsPrecede := .of_called (by simp) rest
          spareCallId := fun step member => spared step (List.mem_cons_of_mem _ member)
          lastFrame := ?_ }
      intro frame last
      obtain rfl : call.toFrame moment.nextId = frame := by simpa using last
      exact ⟨moment.nextId, callId?_toFrame call _, State.lastCallId?_insert moment.state _⟩
  | skip => exact ⟨tied.callsPrecede, tied.spareCallId, tied.lastFrame⟩
  | drop => exact ⟨tied.callsPrecede, tied.spareCallId, tied.lastFrame⟩
  | keep pending received offered =>
      obtain rfl := AwaitHandler.eq_of_offer_kept offered
      exact ⟨tied.callsPrecede, tied.spareCallId, tied.lastFrame⟩
  | @satisfy name handler rest message later reached pending received offered =>
      have precede := tied.callsPrecede
      have spared := tied.spareCallId
      rw [pending] at precede spared
      have unwritten : ∀ spec ∈ handler.fields, spec.key ≠ lastCallIdKey :=
        spared ⟨name, .await handler⟩ List.mem_cons_self
      have kept : reached.lastCallId? = moment.state.lastCallId? :=
        lastCallId?_extractFields (AwaitHandler.extractFields_of_offer_satisfied offered) unwritten
      exact
        { callsPrecede := precede.tail (by simp [Step.IsCall])
          spareCallId := fun step member => spared step (List.mem_cons_of_mem _ member)
          lastFrame := by simpa [kept] using tied.lastFrame }

theorem reaches (tied : Tied moment) (reached : Reaches link moment next) : Tied next := by
  induction reached with
  | refl => exact tied
  | tail _ move inductionHypothesis => exact inductionHypothesis.move move

/-- Where a response is made something of, a frame was sent before. -/
theorem sent_ne_nil (tied : Tied moment) {name : String} {handler : AwaitResponse}
    {rest : List Step} (pending : moment.steps = ⟨name, .await (.response handler)⟩ :: rest) :
    moment.sent ≠ [] := by
  have precede := tied.callsPrecede
  rw [pending] at precede
  exact precede.called_of_awaits ⟨handler, rfl⟩

/-- Once a frame was sent the state names the id of the last one. -/
theorem lastCallId?_eq (tied : Tied moment) (sent : moment.sent ≠ []) :
    moment.state.lastCallId? = moment.sent.getLast?.bind Json.callId? := by
  have nonempty : moment.sent.getLast?.isSome := List.getLast?_isSome.mpr sent
  obtain ⟨frame, last⟩ := Option.isSome_iff_exists.mp nonempty
  obtain ⟨id, carried, noted⟩ := tied.lastFrame frame last
  rw [noted, last, Option.bind_some, carried]

end Tied

/-- Responses answer the last call.  In every run of correlated steps, whatever the options, the
first id and the arrivals are, the pending step makes something of a response exactly if it waits
for one and the response has the id of the last frame sent so far.  So a late, repeated, early or
foreign response neither satisfies a step nor fails one.  All built-in scripts are correlated under
all options. -/
theorem response_used_iff_answers_last_frame :
    (∀ (subject : Instance), Correlated subject.steps →
      ∀ (link : Link) (firstId : CallId) (queue : List Arrival) (moment : Moment),
        Reaches link (subject.start firstId queue) moment →
      ∀ (name : String) (handler : AwaitHandler) (rest : List Step),
        moment.steps = ⟨name, .await handler⟩ :: rest →
        moment.sent <+: (subject.run link firstId queue).sent ∧
          ∀ (id : CallId) (result error : Option Json),
            handler.offer moment.state (.response id result error) ≠ .ok .dropped ↔
              (∃ waiting, handler = .response waiting) ∧
                moment.sent.getLast?.bind Json.callId? = some id) ∧
      ∀ script ∈ Protocol.catalog, ∀ (session : Option String) (options : Options),
        Correlated (Instance.forOptionalSession script session options).steps := by
  constructor
  · intro subject correlated link firstId queue moment reached name handler rest pending
    refine ⟨sent_prefix_of_reaches reached, ?_⟩
    intro id result error
    have tied := (Tied.start correlated firstId queue).reaches reached
    rw [AwaitHandler.offer_response_ne_dropped_iff]
    apply and_congr_right
    rintro ⟨waiting, rfl⟩
    rw [tied.lastCallId?_eq (tied.sent_ne_nil pending)]
  · intro script member session options
    cases session with
    | none => exact correlated_of_mem_catalog member options
    | some session => exact correlated_of_mem_catalog member _

/-- Closing a target with options that name the id of some earlier call. -/
def staleClose : Instance :=
  .new Protocol.closeSession (.ofList [("targetId", .str "T"), ("lastCallId", .word 7)])

/-- A response to that earlier call, and then one to the call with the greatest id. -/
def staleArrivals : List Arrival :=
  [.message (.response 7 none none),
    .message (.response 18446744073709551615 (some (.object [("success", .bool true)])) none)]

/-- The moment at which the second of these responses is offered. -/
def staleMoment : Moment where
  steps := staleClose.steps.drop 1
  state := staleClose.state.insert lastCallIdKey (.word 18446744073709551615)
  nextId := 0
  queue := staleArrivals.drop 1
  sent := [Call.toFrame ⟨"Target.closeTarget", .ofList [("targetId", .str "T")], none⟩
    18446744073709551615]

/-- The response to the call of this run is used, since it has the id of the frame that was sent. -/
theorem response_used_by_staleClose :
    Reaches {} (staleClose.start 18446744073709551615 staleArrivals) staleMoment ∧
      staleMoment.sent <+: (staleClose.run {} 18446744073709551615 staleArrivals).sent ∧
      staleMoment.sent.getLast?.bind Json.callId? = some 18446744073709551615 := by
  have correlated : Correlated staleClose.steps :=
    response_used_iff_answers_last_frame.2 Protocol.closeSession (by simp [Protocol.catalog]) none _
  have called : Move {} (staleClose.start 18446744073709551615 staleArrivals)
      { staleMoment with queue := staleArrivals } := .call rfl rfl rfl
  have reached : Reaches {} (staleClose.start 18446744073709551615 staleArrivals) staleMoment :=
    .tail (.single called) (.drop rfl rfl rfl)
  obtain ⟨sent, used⟩ := response_used_iff_answers_last_frame.1 staleClose correlated {}
    18446744073709551615 staleArrivals staleMoment reached _ _ _ rfl
  have answers := (used 18446744073709551615 (some (.object [("success", .bool true)])) none).mp
    fun dropped => by cases dropped
  exact ⟨reached, sent, answers.2⟩

end Dialogue

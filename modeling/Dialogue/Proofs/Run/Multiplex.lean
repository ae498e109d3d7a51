import Dialogue.Proofs.Run.Correlation
import Dialogue.Proofs.Run.Drawing
/-!
# Runs that share their ids

Several runs can be on their way at once and draw the ids of their calls from one source, each with
a link of its own.  Their moves interleave in any order, and anything may be delivered to any of
them at any time, the response to a call of another run included.

The ids are numbered in the order in which they are drawn, and they come round again after
`UInt64.size` of them.  Up to then no two frames carry the same id, whichever run sent them.  A run
makes something of a response only if it answers a frame of its own; so as long as the ids are
distinct, no run is satisfied or ended by the response to a call of another one.
-/

namespace Dialogue

open Relation (ReflTransGen)

/-- One of several runs.  The next id of its moment is the one that it saw last. -/
structure Party where
  link : Link
  moment : Moment
  /-- Whether the run has come to its end. -/
  ended : Bool := false

/-- The run at the time when this id is the next one. -/
def Party.seeing (party : Party) (nextId : CallId) : Moment :=
  { party.moment with nextId }

/-- The run once one more arrival is queued. -/
def Party.receiving (party : Party) (arrival : Arrival) : Party :=
  { party with moment := { party.moment with queue := party.moment.queue ++ [arrival] } }

/-- Several runs and the source of their ids. -/
structure Multiplex where
  nextId : CallId
  /-- The number of ids that were drawn so far. -/
  drawn : Nat := 0
  parties : List Party

/-- The runs of some instances before their first moves. -/
def Multiplex.start (firstId : CallId) (runs : List (Link × Instance)) : Multiplex where
  nextId := firstId
  parties := runs.map fun run => { link := run.1, moment := run.2.start firstId [] }

/-- All frames that were sent, run by run. -/
def Multiplex.sent (all : Multiplex) : List Json :=
  all.parties.flatMap fun party => party.moment.sent

/-- One thing happens among several runs: an arrival is delivered to one of them, or one of them
makes a move or comes to its end, with the id that is the next one at that time. -/
inductive Multiplex.Step (all : Multiplex) : Multiplex → Prop where
  | deliver {before after : List Party} {party : Party} (arrival : Arrival)
      (split : all.parties = before ++ party :: after) :
      Multiplex.Step all { all with parties := before ++ party.receiving arrival :: after }
  | move {before after : List Party} {party : Party} {next : Moment}
      (split : all.parties = before ++ party :: after)
      (running : party.ended = false)
      (move : Move party.link (party.seeing all.nextId) next) :
      Multiplex.Step all
        { nextId := next.nextId
          drawn := all.drawn + party.moment.draws
          parties := before ++ { party with moment := next } :: after }
  | halt {before after : List Party} {party : Party} {finish : Finish}
      (split : all.parties = before ++ party :: after)
      (running : party.ended = false)
      (halt : Halt party.link (party.seeing all.nextId) finish) :
      Multiplex.Step all
        { nextId := ((party.seeing all.nextId).report party.link).nextId
          drawn := all.drawn + party.moment.draws
          parties := before ++ { party with ended := true } :: after }

/-! ### Numbered frames -/

/-- Every frame carries one of the ids that were drawn, and no two of them carry the same one as
long as the ids do not come round. -/
structure Numbered (firstId : CallId) (drawn : Nat) (frames : List Json) : Prop where
  ids : ∀ frame ∈ frames, ∃ number < drawn,
    frame.callId? = some (firstId + UInt64.ofNat number)
  distinct : drawn ≤ UInt64.size → (frames.map Json.callId?).Nodup

namespace Numbered

variable {firstId : CallId} {drawn : Nat} {frames others : List Json}

theorem nil (firstId : CallId) (drawn : Nat) : Numbered firstId drawn [] where
  ids := by simp
  distinct := by simp

theorem perm (numbered : Numbered firstId drawn frames) (same : others.Perm frames) :
    Numbered firstId drawn others where
  ids := fun frame member => numbered.ids frame (same.mem_iff.mp member)
  distinct := fun bounded => ((same.map _).nodup_iff).mpr (numbered.distinct bounded)

/-- An id that is drawn and not sent does no harm. -/
theorem draw (numbered : Numbered firstId drawn frames) (more : Nat) :
    Numbered firstId (drawn + more) frames where
  ids := by
    intro frame member
    obtain ⟨number, less, carried⟩ := numbered.ids frame member
    exact ⟨number, Nat.lt_add_right more less, carried⟩
  distinct := fun bounded => numbered.distinct (Nat.le_trans (Nat.le_add_right _ _) bounded)

/-- A frame may be sent under the id that is drawn next. -/
theorem cons (numbered : Numbered firstId drawn frames) (call : Call) :
    Numbered firstId (drawn + 1)
      (call.toFrame (firstId + UInt64.ofNat drawn) :: frames) where
  ids := by
    intro frame member
    rcases List.mem_cons.mp member with rfl | earlier
    · exact ⟨drawn, Nat.lt_succ_self drawn, callId?_toFrame call _⟩
    · exact (numbered.draw 1).ids frame earlier
  distinct := by
    intro bounded
    refine List.nodup_cons.mpr ⟨?_, (numbered.draw 1).distinct bounded⟩
    -- An earlier frame has a smaller number, so another id.
    intro repeated
    obtain ⟨frame, earlier, same⟩ := List.mem_map.mp repeated
    obtain ⟨number, less, carried⟩ := numbered.ids frame earlier
    rw [carried, callId?_toFrame] at same
    exact id_ne_of_lt firstId less bounded (Option.some.inj same)

end Numbered

/-! ### The invariant of several runs -/

namespace Multiplex

/-- What holds of several runs throughout: the next id has the number of the ids drawn so far, all
frames carry ids with smaller numbers, and each run for itself is tied to the frames that it has
sent. -/
structure Orderly (firstId : CallId) (all : Multiplex) : Prop where
  nextId : all.nextId = firstId + UInt64.ofNat all.drawn
  numbered : Numbered firstId all.drawn all.sent
  tied : ∀ party ∈ all.parties, Tied party.moment

/-- The frames of all runs are those of one of them and those of the others. -/
theorem sent_perm {all : Multiplex} {before after : List Party} {party : Party}
    (split : all.parties = before ++ party :: after) :
    all.sent.Perm
      (party.moment.sent ++ (before ++ after).flatMap fun other => other.moment.sent) := by
  rw [sent, split]
  exact List.perm_middle.flatMap_right _

namespace Orderly

variable {firstId : CallId} {all next : Multiplex} {before after : List Party}
  {party : Party}

theorem start {runs : List (Link × Instance)} (firstId : CallId)
    (correlated : ∀ run ∈ runs, Correlated run.2.steps) :
    Orderly firstId (Multiplex.start firstId runs) where
  nextId := by simp [Multiplex.start]
  numbered := by
    have none_sent : (Multiplex.start firstId runs).sent = [] := by
      rw [sent, List.flatMap_eq_nil_iff]
      intro party member
      obtain ⟨run, _, rfl⟩ := List.mem_map.mp member
      rfl
    rw [none_sent]
    exact .nil firstId _
  tied := by
    intro party member
    obtain ⟨run, inRuns, rfl⟩ := List.mem_map.mp member
    exact .start (correlated run inRuns) firstId []

/-- All is in order after a change to one run that sends nothing, or one frame under the next
id. -/
theorem change (orderly : Orderly firstId all) (split : all.parties = before ++ party :: after)
    (changed : Party) (draws : Nat) (tied : Tied changed.moment)
    (frames : changed.moment.sent = party.moment.sent ∨
      draws = 1 ∧ ∃ call : Call,
        changed.moment.sent = party.moment.sent ++ [call.toFrame all.nextId])
    (becomes : next =
      { nextId := all.nextId + UInt64.ofNat draws
        drawn := all.drawn + draws
        parties := before ++ changed :: after }) : Orderly firstId next where
  nextId := by
    rw [becomes, orderly.nextId, UInt64.ofNat_add, UInt64.add_assoc]
  numbered := by
    have was := sent_perm split
    have is : next.sent.Perm (changed.moment.sent ++
        (before ++ after).flatMap fun other => other.moment.sent) := sent_perm (by rw [becomes])
    rw [becomes]
    rw [becomes] at is
    rcases frames with same | ⟨rfl, call, sent⟩
    · exact (orderly.numbered.draw draws).perm (is.trans (same ▸ was.symm))
    · refine ((orderly.nextId ▸ orderly.numbered.cons call).perm (is.trans ?_))
      rw [sent, List.append_assoc]
      exact List.perm_middle.trans (was.symm.cons _)
  tied := by
    rw [becomes]
    intro other member
    rcases List.mem_append.mp member with early | late
    · exact orderly.tied other (split ▸ List.mem_append_left _ early)
    · rcases List.mem_cons.mp late with rfl | late
      · exact tied
      · exact orderly.tied other (split ▸ List.mem_append_right _ (List.mem_cons_of_mem _ late))

/-- Whatever happens next, all stays in order. -/
theorem step (orderly : Orderly firstId all) (step : Multiplex.Step all next) :
    Orderly firstId next := by
  have tied : ∀ {before after party}, all.parties = before ++ party :: after →
      Tied party.moment := by
    intro before after party split
    exact orderly.tied party (split ▸ List.mem_append_right _ List.mem_cons_self)
  cases step with
  | @deliver before after party arrival split =>
      have was := tied split
      refine orderly.change split (party.receiving arrival) 0 ?_ (.inl rfl) ?_
      · exact ⟨was.callsPrecede, was.spareCallId, was.lastFrame⟩
      · simp
  | @move before after party next split running move =>
      have was := tied split
      have seeing : Tied (party.seeing all.nextId) :=
        ⟨was.callsPrecede, was.spareCallId, was.lastFrame⟩
      refine orderly.change split { party with moment := next } party.moment.draws
        (seeing.move move) move.sent_cases ?_
      rw [move.nextId_eq]
      rfl
  | @halt before after party finish split running halt =>
      have was := tied split
      refine orderly.change split { party with ended := true } party.moment.draws was (.inl rfl) ?_
      rw [halt.report_nextId]
      rfl

theorem reaches (orderly : Orderly firstId all) (reached : ReflTransGen Multiplex.Step all next) :
    Orderly firstId next := by
  induction reached with
  | refl => exact orderly
  | tail _ step inductionHypothesis => exact inductionHypothesis.step step

end Orderly

/-- The ids of one run's frames are on no frame of another run. -/
theorem callId?_ne_of_mem_sent {all : Multiplex} {before after : List Party} {party other : Party}
    (split : all.parties = before ++ party :: after)
    (distinct : (all.sent.map Json.callId?).Nodup) {own foreign : Json}
    (ownSent : own ∈ party.moment.sent) (otherParty : other ∈ before ++ after)
    (foreignSent : foreign ∈ other.moment.sent) : foreign.callId? ≠ own.callId? := by
  have apart := (((sent_perm split).map Json.callId?).nodup_iff).mp distinct
  rw [List.map_append, List.nodup_append] at apart
  intro same
  refine apart.2.2 own.callId? (List.mem_map_of_mem ownSent) foreign.callId? ?_ same.symm
  exact List.mem_map_of_mem (List.mem_flatMap.mpr ⟨other, otherParty, foreignSent⟩)

end Multiplex

/-- A response that a step makes something of answers a frame of the run. -/
theorem Tied.exists_frame_of_used {moment : Moment} (tied : Tied moment) {name : String}
    {handler : AwaitHandler} {rest : List Step} {id : CallId} {result error : Option Json}
    (pending : moment.steps = ⟨name, .await handler⟩ :: rest)
    (used : handler.offer moment.state (.response id result error) ≠ .ok .dropped) :
    ∃ frame ∈ moment.sent, frame.callId? = some id := by
  obtain ⟨⟨waiting, rfl⟩, last⟩ := AwaitHandler.offer_response_ne_dropped_iff.mp used
  rw [tied.lastCallId?_eq (tied.sent_ne_nil pending), Option.bind_eq_some_iff] at last
  obtain ⟨frame, isLast, carried⟩ := last
  exact ⟨frame, List.mem_of_getLast? isLast, carried⟩

/-- Runs that share their ids do not steal each other's responses.  Let any number of built-in
scripts be run at once, each with a link of its own, let their moves interleave in any order, and let
anything be delivered to any of them at any time.  Then all frames carry ids, which are distinct as
long as no more ids were drawn than there are, from whichever id on.  And whatever a run makes
something of among the responses is the answer to a frame that this run has sent, and as long as the
ids are distinct to no frame of another run. -/
theorem multiplexed_responses_answer_own_frames (runs : List (Link × Instance))
    (builtIn : ∀ run ∈ runs, ∃ script ∈ Protocol.catalog,
      ∃ (session : Option String) (options : Options),
        run.2 = Instance.forOptionalSession script session options)
    (firstId : CallId) (all : Multiplex)
    (reached : ReflTransGen Multiplex.Step (Multiplex.start firstId runs) all) :
    (∀ frame ∈ all.sent, ∃ id, frame.callId? = some id) ∧
      (all.drawn ≤ UInt64.size → (all.sent.map Json.callId?).Nodup) ∧
      ∀ (before : List Party) (party : Party) (after : List Party),
        all.parties = before ++ party :: after →
        ∀ (name : String) (handler : AwaitHandler) (rest : List Step),
          party.moment.steps = ⟨name, .await handler⟩ :: rest →
          ∀ (id : CallId) (result error : Option Json),
            handler.offer party.moment.state (.response id result error) ≠ .ok .dropped →
            (∃ frame ∈ party.moment.sent, frame.callId? = some id) ∧
              (all.drawn ≤ UInt64.size →
                ∀ other ∈ before ++ after, ∀ frame ∈ other.moment.sent,
                  frame.callId? ≠ some id) := by
  have correlated : ∀ run ∈ runs, Correlated run.2.steps := by
    intro run member
    obtain ⟨script, inCatalog, session, options, same⟩ := builtIn run member
    rw [same]
    cases session with
    | none => exact correlated_of_mem_catalog inCatalog options
    | some session => exact correlated_of_mem_catalog inCatalog _
  have orderly := (Multiplex.Orderly.start firstId correlated).reaches reached
  refine ⟨?_, orderly.numbered.distinct, ?_⟩
  · intro frame member
    obtain ⟨number, _, carried⟩ := orderly.numbered.ids frame member
    exact ⟨_, carried⟩
  · intro before party after split name handler rest pending id result error used
    have tied : Tied party.moment :=
      orderly.tied party (split ▸ List.mem_append_right _ List.mem_cons_self)
    obtain ⟨own, ownSent, carried⟩ := tied.exists_frame_of_used pending used
    refine ⟨⟨own, ownSent, carried⟩, ?_⟩
    intro bounded other otherParty frame foreignSent
    rw [← carried]
    exact Multiplex.callId?_ne_of_mem_sent split (orderly.numbered.distinct bounded) ownSent
      otherParty foreignSent

/-- Closing a target. -/
def closing (target : String) : Instance :=
  .new Protocol.closeSession (.ofList [("targetId", .str target)])

/-- The response to the call with the id zero. -/
def answerToZero : Arrival :=
  .message (.response 0 (some (.object [("success", .bool true)])) none)

/-- The closing of a target before its call. -/
def closingStarted (target : String) (queue : List Arrival) : Party where
  link := {}
  moment := (closing target).start 18446744073709551615 queue

/-- The closing of a target after its call, with the response to the call with the id zero
queued. -/
def closingCalled (target : String) (id : CallId) : Party where
  link := {}
  moment :=
    { steps := (closing target).steps.drop 1
      state := (closing target).state.insert lastCallIdKey (.word id)
      nextId := id + 1
      queue := [answerToZero]
      sent := [Call.toFrame ⟨"Target.closeTarget", .ofList [("targetId", .str target)], none⟩ id] }

/-- Two targets are closed at once, with the greatest id and the one after it, and both runs receive
the response to the second call. -/
def twoClosings : Multiplex where
  nextId := 1
  drawn := 2
  parties := [closingCalled "T" 18446744073709551615, closingCalled "U" 0]

theorem twoClosings_reached :
    ReflTransGen Multiplex.Step
      (Multiplex.start 18446744073709551615 [({}, closing "T"), ({}, closing "U")])
      twoClosings := by
  have first : Multiplex.Step
      (Multiplex.start 18446744073709551615 [({}, closing "T"), ({}, closing "U")])
      ⟨18446744073709551615, 0, [closingStarted "T" [answerToZero], closingStarted "U" []]⟩ :=
    @Multiplex.Step.deliver _ [] _ (closingStarted "T" []) answerToZero rfl
  have second : Multiplex.Step
      ⟨18446744073709551615, 0, [closingStarted "T" [answerToZero], closingStarted "U" []]⟩
      ⟨18446744073709551615, 0,
        [closingStarted "T" [answerToZero], closingStarted "U" [answerToZero]]⟩ :=
    @Multiplex.Step.deliver _ [_] [] (closingStarted "U" []) answerToZero rfl
  have third : Multiplex.Step
      ⟨18446744073709551615, 0,
        [closingStarted "T" [answerToZero], closingStarted "U" [answerToZero]]⟩
      ⟨0, 1, [closingCalled "T" 18446744073709551615, closingStarted "U" [answerToZero]]⟩ :=
    @Multiplex.Step.move _ [] _ (closingStarted "T" [answerToZero]) _ rfl rfl (.call rfl rfl rfl)
  have fourth : Multiplex.Step
      ⟨0, 1, [closingCalled "T" 18446744073709551615, closingStarted "U" [answerToZero]]⟩
      twoClosings :=
    @Multiplex.Step.move _ [_] [] (closingStarted "U" [answerToZero]) _ rfl rfl (.call rfl rfl rfl)
  exact .head first (.head second (.head third (.single fourth)))

/-- The run that sent the first call drops the response to the second one. -/
theorem twoClosings_answer_own_frames :
    ReflTransGen Multiplex.Step
        (Multiplex.start 18446744073709551615 [({}, closing "T"), ({}, closing "U")]) twoClosings ∧
      (twoClosings.sent.map Json.callId?).Nodup ∧
      AwaitHandler.offer (.response { extract := [.bare "success"] })
        (closingCalled "T" 18446744073709551615).moment.state
        (.response 0 (some (.object [("success", .bool true)])) none) = .ok .dropped := by
  obtain ⟨_, distinct, own⟩ := multiplexed_responses_answer_own_frames _ (by
    intro run member
    refine ⟨Protocol.closeSession, by simp [Protocol.catalog], none, ?_⟩
    simp only [List.mem_cons, List.not_mem_nil, or_false] at member
    rcases member with rfl | rfl
    · exact ⟨_, rfl⟩
    · exact ⟨_, rfl⟩) _ _ twoClosings_reached
  refine ⟨twoClosings_reached, distinct (by decide), ?_⟩
  refine Classical.byContradiction fun used => ?_
  obtain ⟨⟨frame, sent, carried⟩, _⟩ := own [] _ _ rfl _ _ _ rfl 0 _ _ used
  rw [List.mem_singleton.mp sent, callId?_toFrame] at carried
  cases carried

end Dialogue

import Dialogue.Proofs.Frame
import Dialogue.Proofs.Run.Moment
import Dialogue.Protocol.Session
/-!
# Where the values of a run come from

The state of a run is changed by two kinds of moves only.  A call notes its id, and a message that
satisfies a wait leaves the fields that the wait extracts.  Everything else that happens, whatever
is received, leaves the state as it was.

So at every moment of a run each key but that of the last call's id has the value that it had at the
start, unless a satisfied wait has extracted a field into it; and then it has the value of such a
field in the message that satisfied the wait.  No key ever goes away (`Framed`).
-/

namespace Dialogue

open Relation (ReflTransGen)

/-- A wait has been satisfied by a message between the start and a moment of a run. -/
inductive Satisfied (link : Link) (start moment : Moment) : AwaitHandler → Message → Prop where
  | intro {waiting : Moment} {name : String} {handler : AwaitHandler} {rest : List Step}
      {message : Message} {later : List Arrival} {next : State}
      (before : Reaches link start waiting)
      (pending : waiting.steps = ⟨name, .await handler⟩ :: rest)
      (received : waiting.queue = .message message :: later)
      (offered : handler.offer waiting.state message = .ok (.satisfied next))
      (after : Reaches link { waiting with steps := rest, state := next, queue := later } moment) :
      Satisfied link start moment handler message

/-- A satisfied wait has extracted a field into this key. -/
def Written (link : Link) (start moment : Moment) (key : String) : Prop :=
  ∃ handler message, Satisfied link start moment handler message ∧
    ∃ spec ∈ handler.fields, spec.key = key

/-- The value is at the path of a field for this key in the message that satisfied the wait. -/
def Supplied (link : Link) (start moment : Moment) (key : String) (value : Json) : Prop :=
  ∃ handler message, Satisfied link start moment handler message ∧
    ∃ spec ∈ handler.fields, spec.key = key ∧ message.payload.at? spec.path = some value

variable {link : Link} {start moment next : Moment} {key : String} {value : Json}

/-! ### Satisfied waits -/

/-- What was satisfied in a part of a run was satisfied in the whole. -/
theorem Satisfied.widen {first last : Moment} {handler : AwaitHandler} {message : Message}
    (satisfied : Satisfied link start moment handler message) (early : Reaches link first start)
    (late : Reaches link moment last) : Satisfied link first last handler message := by
  cases satisfied with
  | intro before pending received offered after =>
      exact .intro (early.trans before) pending received offered (after.trans late)

theorem Written.widen {first last : Moment} (written : Written link start moment key)
    (early : Reaches link first start) (late : Reaches link moment last) :
    Written link first last key := by
  obtain ⟨handler, message, satisfied, writes⟩ := written
  exact ⟨handler, message, satisfied.widen early late, writes⟩

theorem Supplied.widen {first last : Moment} (supplied : Supplied link start moment key value)
    (early : Reaches link first start) (late : Reaches link moment last) :
    Supplied link first last key value := by
  obtain ⟨handler, message, satisfied, supplies⟩ := supplied
  exact ⟨handler, message, satisfied.widen early late, supplies⟩

/-- Only a key that is extracted into is supplied. -/
theorem Supplied.written (supplied : Supplied link start moment key value) :
    Written link start moment key := by
  obtain ⟨handler, message, satisfied, spec, member, same, _⟩ := supplied
  exact ⟨handler, message, satisfied, spec, member, same⟩

/-! ### What a move does to the state -/

/-- A move leaves the steps and the state alone, or it does the pending step: then a call has noted
its id, or a message has satisfied a wait and left its fields. -/
theorem Move.state_cases (move : Move link moment next) :
    (next.steps = moment.steps ∧ next.state = moment.state) ∨
      (∃ step, moment.steps = step :: next.steps) ∧
        ((∃ id, next.state = moment.state.insert lastCallIdKey (.word id)) ∨
          ∃ handler message, Satisfied link moment next handler message ∧
            extractFields moment.state message.payload handler.context handler.fields =
              .ok next.state) := by
  cases move with
  | call pending issued listening =>
      obtain ⟨params, _, noted, _⟩ := issue_eq_ok issued
      exact .inr ⟨⟨_, pending⟩, .inl ⟨_, noted⟩⟩
  | skip pending received => exact .inl ⟨rfl, rfl⟩
  | drop pending received offered => exact .inl ⟨rfl, rfl⟩
  | keep pending received offered => exact .inl ⟨rfl, AwaitHandler.eq_of_offer_kept offered⟩
  | satisfy pending received offered =>
      have extracted := AwaitHandler.extractFields_of_offer_satisfied offered
      exact .inr ⟨⟨_, pending⟩, .inr ⟨_, _, .intro .refl pending received offered .refl, extracted⟩⟩

/-- No move takes a key away. -/
theorem Move.contains (move : Move link moment next)
    (known : moment.state.contains key = true) : next.state.contains key = true := by
  rw [State.contains, Table.contains, Option.isSome_iff_ne_none] at known ⊢
  intro missing
  apply known
  rcases move.state_cases with ⟨_, same⟩ | ⟨_, ⟨id, noted⟩ | ⟨handler, message, _, extracted⟩⟩
  · rw [← same]
    exact missing
  · have before : (moment.state.insert lastCallIdKey (.word id)).get? key = none := noted ▸ missing
    rw [State.get?_insert] at before
    split at before
    · cases before
    · exact before
  · exact (get?_eq_none_of_extractFields extracted missing).1

/-- A move changes the value of a key only by satisfying a wait that extracts into it, unless the
key is that of the last call's id. -/
theorem Move.get?_cases (move : Move link moment next) (other : key ≠ lastCallIdKey) :
    next.state.get? key = moment.state.get? key ∨
      ∃ value, Supplied link moment next key value ∧ next.state.get? key = some value := by
  rcases move.state_cases with ⟨_, same⟩ | ⟨_, ⟨id, noted⟩ | ⟨handler, message, sat, extracted⟩⟩
  · exact .inl (by rw [same])
  · exact .inl (by rw [noted, State.get?_insert, if_neg other])
  · by_cases written : ∃ spec ∈ handler.fields, spec.key = key
    · obtain ⟨spec, member, writes, value, found, reads⟩ :=
        exists_spec_of_extractFields_written extracted written
      exact .inr ⟨value, ⟨handler, message, sat, spec, member, writes, found⟩, reads⟩
    · refine .inl (get?_extractFields_of_not_written extracted fun spec member same => ?_)
      exact written ⟨spec, member, same⟩

/-- The steps of a later moment are the last ones of an earlier moment, and while they are the same
the state is. -/
theorem steps_suffix_of_reaches (reached : Reaches link moment next) :
    next.steps <:+ moment.steps ∧ (next.steps = moment.steps → next.state = moment.state) := by
  induction reached with
  | refl => exact ⟨List.suffix_refl _, fun _ => rfl⟩
  | @tail between last _ move inductionHypothesis =>
      obtain ⟨early, unchanged⟩ := inductionHypothesis
      rcases move.state_cases with ⟨sameSteps, sameState⟩ | ⟨⟨step, done⟩, _⟩
      · rw [sameSteps, sameState]
        exact ⟨early, unchanged⟩
      · have late : last.steps <:+ between.steps := done ▸ List.suffix_cons step last.steps
        refine ⟨late.trans early, fun same => ?_⟩
        -- The step that was done is missing, so the steps cannot be the same again.
        have shorter : between.steps.length ≤ moment.steps.length := early.length_le
        rw [done, same, List.length_cons] at shorter
        omega

/-! ### The state at every moment -/

/-- Keys do not go away in a run. -/
theorem contains_of_reaches (reached : Reaches link start moment)
    (known : start.state.contains key = true) : moment.state.contains key = true := by
  induction reached with
  | refl => exact known
  | tail _ move inductionHypothesis => exact move.contains inductionHypothesis

/-- A key that no satisfied wait extracts into keeps its value. -/
theorem get?_eq_of_not_written (reached : Reaches link start moment) (other : key ≠ lastCallIdKey)
    (unwritten : ¬Written link start moment key) :
    moment.state.get? key = start.state.get? key := by
  induction reached with
  | refl => rfl
  | tail early move inductionHypothesis =>
      have before :=
        inductionHypothesis fun written => unwritten (written.widen .refl (.single move))
      rcases move.get?_cases other with same | ⟨value, supplied, _⟩
      · exact same.trans before
      · exact absurd (supplied.written.widen early .refl) unwritten

/-- A value that was supplied for a key stays until another one is supplied for it. -/
theorem exists_supplied_of_reaches {between : Moment} (early : Reaches link start between)
    (late : Reaches link between moment) (other : key ≠ lastCallIdKey)
    (before : ∃ value, Supplied link start between key value ∧
      between.state.get? key = some value) :
    ∃ value, Supplied link start moment key value ∧ moment.state.get? key = some value := by
  induction late with
  | refl => exact before
  | tail passed move inductionHypothesis =>
      obtain ⟨value, supplied, reads⟩ := inductionHypothesis
      rcases move.get?_cases other with same | ⟨newer, replaced, reads⟩
      · exact ⟨value, supplied.widen .refl (.single move), same.trans reads⟩
      · exact ⟨newer, replaced.widen (early.trans passed) .refl, reads⟩

/-- A key that satisfied waits extract into has a value that one of them was supplied with. -/
theorem exists_supplied_of_written (other : key ≠ lastCallIdKey)
    (written : Written link start moment key) :
    ∃ value, Supplied link start moment key value ∧ moment.state.get? key = some value := by
  obtain ⟨handler, message, satisfied, writes⟩ := written
  cases satisfied with
  | intro before pending received offered after =>
      -- The value is there as soon as the wait is satisfied.
      have extracted := AwaitHandler.extractFields_of_offer_satisfied offered
      obtain ⟨spec, member, same, value, found, reads⟩ :=
        exists_spec_of_extractFields_written extracted writes
      have satisfied := Satisfied.intro before pending received offered .refl
      have done := before.tail (.satisfy pending received offered)
      exact exists_supplied_of_reaches done after other
        ⟨value, ⟨handler, message, satisfied, spec, member, same, found⟩, reads⟩

/-- What the state at a moment has to do with the state at the start. -/
structure Framed (link : Link) (start moment : Moment) : Prop where
  /-- Keys do not go away. -/
  kept : ∀ key, start.state.contains key = true → moment.state.contains key = true
  /-- A key that no satisfied wait extracts into is as it was, be it absent. -/
  untouched : ∀ key, key ≠ lastCallIdKey → ¬Written link start moment key →
    moment.state.get? key = start.state.get? key
  /-- A key that satisfied waits extract into has the value of such a field. -/
  written : ∀ key, key ≠ lastCallIdKey → Written link start moment key →
    ∃ value, Supplied link start moment key value ∧ moment.state.get? key = some value
  /-- Since the pending step is pending the state has not changed. -/
  pending : ∀ earlier, Reaches link start earlier → Reaches link earlier moment →
    moment.steps = earlier.steps → moment.state = earlier.state

/-- The state at every moment of a run is framed by the state at the start. -/
theorem framed_of_reaches (reached : Reaches link start moment) : Framed link start moment where
  kept := fun _ known => contains_of_reaches reached known
  untouched := fun _ other unwritten => get?_eq_of_not_written reached other unwritten
  written := fun _ other written => exists_supplied_of_written other written
  pending := fun _ _ late same => (steps_suffix_of_reaches late).2 same

/-- A run writes nothing into its state but the fields of messages that have satisfied a wait, and
the ids of its calls.  At every moment of the run all keys of the initial state are there; a key
that no satisfied wait extracts into is as it was at first, and one that satisfied waits extract
into has the value that such a field has in the message which satisfied its wait, except for the key
of the last call's id.  While a step is pending the state does not change, whatever is received.
The state that is reported in the end is the one of the last moment. -/
theorem run_writes_only_extracted_fields (subject : Instance) (link : Link) (firstId : CallId)
    (queue : List Arrival) :
    (∀ moment, Reaches link (subject.start firstId queue) moment →
      Framed link (subject.start firstId queue) moment) ∧
    ∃ last, Reaches link (subject.start firstId queue) last ∧
      Halt link last (subject.run link firstId queue).finish ∧
      (subject.run link firstId queue).state = last.state := by
  constructor
  · intro moment reached
    exact framed_of_reaches reached
  · obtain ⟨last, finish, reached, halt, rfl, _⟩ := run_halts link subject firstId queue
    obtain ⟨-, -, sameState⟩ := halt.report_eq
    refine ⟨last, reached, halt, ?_⟩
    rw [← sameState, report_of_reaches reached, report_start]

/-- A session that is made blank under options that name another frame than its own. -/
def staleReset : Instance :=
  .forSession Protocol.resetSession "S" (.ofList [("frameId", .str "E")])

/-- What that session has to say: its frame is loaded after an event of the other one. -/
def staleResetArrivals : List Arrival :=
  let stopped (frameId : String) : Arrival :=
    .message (.notification "Page.frameStoppedLoading" (.object [("frameId", .str frameId)])
      (some "S"))
  [stopped "E", .message (.response 1 (some (.object [("frameId", .str "F")])) none), stopped "E",
    stopped "F"]

/-- The frame that the options name is replaced, so a message has supplied another one, and the
session is the one that was given. -/
theorem staleReset_framed :
    ∃ last, Reaches {} (staleReset.start 1 staleResetArrivals) last ∧
      Framed {} (staleReset.start 1 staleResetArrivals) last ∧
      last.state.get? "frameId" = some (.str "F") ∧
      Supplied {} (staleReset.start 1 staleResetArrivals) last "frameId" (.str "F") ∧
      last.state.sessionId? = some "S" := by
  obtain ⟨everywhere, last, reached, _, reported⟩ :=
    run_writes_only_extracted_fields staleReset {} 1 staleResetArrivals
  have framed := everywhere last reached
  have known : last.state.get? "frameId" = some (.str "F") := by
    rw [← reported]
    rfl
  have session : last.state.sessionId? = some "S" := by
    rw [← reported]
    rfl
  -- Nothing else than a satisfied wait could have changed the value.
  have written : Written {} (staleReset.start 1 staleResetArrivals) last "frameId" := by
    refine Classical.byContradiction fun unwritten => ?_
    have same := framed.untouched "frameId" (by decide) unwritten
    have first :
        (staleReset.start 1 staleResetArrivals).state.get? "frameId" = some (.str "E") := rfl
    rw [known, first] at same
    simp at same
  obtain ⟨value, supplied, reads⟩ := framed.written "frameId" (by decide) written
  obtain rfl : Json.str "F" = value := Option.some.inj (known.symm.trans reads)
  exact ⟨last, reached, framed, known, supplied, session⟩

end Dialogue

import Dialogue.Proofs.Run.Completion
import Dialogue.Proofs.Run.Drawing
import Dialogue.Protocol.Session
/-!
# Runs that receive more

A run takes its arrivals one after the other and looks at none before its turn.  So what is queued
behind the arrivals that it has consumed makes no difference to it.  If it has ended for any reason
but that the arrivals were used up, it ends in the same way when more of them are queued, and leaves
those.  And if it is starved, the arrivals that are queued after those it had are what its pending
step receives next: the run goes on from where it was starved.

Both follow from what one move does when more is queued: the same (`Move.withMore`).
-/

namespace Dialogue

/-- The same moment with more arrivals in its queue. -/
def Moment.withMore (moment : Moment) (more : List Arrival) : Moment :=
  { moment with queue := moment.queue ++ more }

variable {link : Link} {moment next : Moment} {finish : Finish}

/-- A move does the same when more arrivals are queued. -/
theorem Move.withMore (move : Move link moment next) (more : List Arrival) :
    Move link (moment.withMore more) (next.withMore more) := by
  -- The arrival that a move consumes is the first one, whatever is queued behind it.
  have received {arrival : Arrival} {later : List Arrival}
      (first : moment.queue = arrival :: later) :
      (moment.withMore more).queue = arrival :: (later ++ more) := by
    rw [Moment.withMore, first, List.cons_append]
  cases move with
  | call pending issued listening => exact .call pending issued listening
  | skip pending first => exact .skip pending (received first)
  | drop pending first offered => exact .drop pending (received first) offered
  | keep pending first offered => exact .keep pending (received first) offered
  | satisfy pending first offered => exact .satisfy pending (received first) offered

/-- The moments that a run comes to are the same when more arrivals are queued. -/
theorem Reaches.withMore (reached : Reaches link moment next) (more : List Arrival) :
    Reaches link (moment.withMore more) (next.withMore more) := by
  refine reached.lift (·.withMore more) fun _ _ move => ?_
  exact move.withMore more

/-- The report of a run that has more arrivals queued is told by each of its moments. -/
theorem run_append_eq (subject : Instance) (firstId : CallId) (queue more : List Arrival)
    (reached : Reaches link (subject.start firstId queue) moment) :
    subject.run link firstId (queue ++ more) = (moment.withMore more).report link := by
  rw [report_of_reaches (reached.withMore more)]
  exact (report_start link subject firstId (queue ++ more)).symm

/-- Steps whose wait in vain ends in the same error have the same name. -/
theorem Link.starved_inj {one other : String} (same : link.starved one = link.starved other) :
    one = other := by
  rw [Link.starved, Link.starved] at same
  cases ended : link.ending <;> simpa [ended] using same

/-- A run is starved only where its arrivals are used up. -/
theorem Halt.exists_waiting (halt : Halt link moment finish) {step : String}
    (starved : finish = .stopped (link.starved step)) :
    ∃ handler rest, moment.steps = ⟨step, .await handler⟩ :: rest ∧ moment.queue = [] := by
  have other {error : RunError} (stopped : .stopped error = Finish.stopped (link.starved step)) :
      error = .closed step ∨ error = .timeout step link.timeout := by
    rw [Finish.stopped.inj stopped, Link.starved]
    cases link.ending with
    | closed => exact .inl rfl
    | silent => exact .inr rfl
  cases halt with
  | starved pending exhausted =>
      obtain rfl := Link.starved_inj (Finish.stopped.inj starved)
      exact ⟨_, _, pending, exhausted⟩
  | done | output => cases starved
  | unprojected | unissued | unsent | rejected | failed =>
      rcases other starved with same | same <;> cases same

/-- A run that halts and is not starved halts in the same way when more arrivals are queued, and
leaves them. -/
theorem Halt.report_withMore (halt : Halt link moment finish)
    (decided : ∀ step, finish ≠ .stopped (link.starved step)) (more : List Arrival) :
    (moment.withMore more).report link =
      { moment.report link with remaining := (moment.report link).remaining ++ more } := by
  cases halt with
  | starved => exact absurd rfl (decided _)
  | done finished => simp [Moment.withMore, Moment.report, finished, execute]
  | output pending projected =>
      simp [Moment.withMore, Moment.report, pending, execute, projected]
  | unprojected pending refused =>
      simp [Moment.withMore, Moment.report, pending, execute, refused]
  | unissued pending refused => simp [Moment.withMore, Moment.report, pending, execute, refused]
  | unsent pending issued deaf =>
      simp [Moment.withMore, Moment.report, pending, execute, issued, deaf]
  | rejected pending received refused =>
      simp [Moment.withMore, Moment.report, pending, execute, received, awaitStep, refused]
  | failed pending received offered =>
      simp [Moment.withMore, Moment.report, pending, execute, received, awaitStep, offered]

/-- The report of a run that goes on after this report with these steps, over these arrivals. -/
def Report.resumed (report : Report) (link : Link) (steps : List Step) (more : List Arrival) :
    Report :=
  let later := execute link steps report.state report.nextId more
  { later with
    sent := report.sent ++ later.sent
    warnings := report.warnings ++ later.warnings }

/-- A run that is starved goes on with the pending step when more arrivals are queued. -/
theorem report_withMore_of_waiting (link : Link) {name : String} {handler : AwaitHandler}
    {rest : List Step} (pending : moment.steps = ⟨name, .await handler⟩ :: rest)
    (exhausted : moment.queue = []) (more : List Arrival) :
    (moment.report link).remaining = [] ∧
      (moment.withMore more).report link =
        (moment.report link).resumed link moment.steps more := by
  constructor
  · simp [Moment.report, pending, execute, exhausted, awaitStep]
  · simp [Moment.withMore, Moment.report, Report.resumed, pending, execute, exhausted, awaitStep]

/-- Runs are stable under more input.  Let more arrivals be queued after those of a run.  If the run
had ended for any reason but that a step waited in vain, it is the same run, and leaves the new
arrivals behind those that it left before.  If a step had waited in vain, all arrivals were used up,
and the steps before it were completed; then the run has sent the same frames up to there, and goes
on from the state and the next id that it had come to, with that step and those after it, over the
new arrivals. -/
theorem decided_run_stable (subject : Instance) (link : Link) (firstId : CallId)
    (queue more : List Arrival) :
    let short := subject.run link firstId queue
    let long := subject.run link firstId (queue ++ more)
    ((∀ step, short.result ≠ .error (link.starved step)) →
        long = { short with remaining := short.remaining ++ more }) ∧
      ∀ step, short.result = .error (link.starved step) →
        short.remaining = [] ∧ short.sent <+: long.sent ∧
          ∃ done handler rest marks,
            subject.steps = done ++ ⟨step, .await handler⟩ :: rest ∧
            Completes done subject.state firstId marks short.state short.nextId ∧
            short.sent = Mark.frames marks ∧
            long = short.resumed link (⟨step, .await handler⟩ :: rest) more := by
  intro short long
  obtain ⟨last, finish, reached, halt, same, sent⟩ := run_halts link subject firstId queue
  have reported : last.report link = short := by
    rw [report_of_reaches reached]
    exact report_start link subject firstId queue
  have extended : long = (last.withMore more).report link :=
    run_append_eq subject firstId queue more reached
  constructor
  · intro decided
    have notStarved : ∀ step, finish ≠ .stopped (link.starved step) := by
      intro step starved
      refine decided step ?_
      rw [Report.result, same, starved]
    rw [extended, halt.report_withMore notStarved more, reported]
  · intro step failed
    have starved : finish = .stopped (link.starved step) := by
      rw [← same]
      exact Report.finish_of_result_error failed
    obtain ⟨handler, rest, pending, exhausted⟩ := halt.exists_waiting starved
    obtain ⟨usedUp, resumed⟩ := report_withMore_of_waiting link pending exhausted more
    rw [reported, pending] at resumed
    have goesOn := extended.trans resumed
    obtain ⟨done, marks, consumed, past⟩ := exists_past_of_reaches reached
    have sameState : short.state = last.state := by
      rw [← reported]
      exact halt.report_eq.2.2
    have sameId : short.nextId = last.nextId := by
      rw [← reported, halt.report_nextId]
      simp [Moment.draws, pending]
    refine ⟨reported ▸ usedUp, ?_, done, handler, rest, marks, ?_, ?_, ?_, goesOn⟩
    · rw [goesOn]
      exact List.prefix_append _ _
    · rw [← pending]
      exact past.steps
    · rw [sameState, sameId]
      exact past.completes
    · exact sent.trans past.sent

/-- A session that is made blank again. -/
def resetting : Instance :=
  .forOptionalSession Protocol.resetSession (some "S") .empty

/-- The frame has gone to the blank page. -/
def blankedArrival : Arrival :=
  .message (.response 1 (some (.object [("frameId", .str "F")])) none)

/-- The blank page is loaded. -/
def blankLoadedArrival : Arrival :=
  .message (.notification "Page.frameStoppedLoading" (.object [("frameId", .str "F")]) (some "S"))

/-- Resetting is starved without the second arrival and goes on with it, and leaves a third. -/
theorem resetting_goes_on :
    let starved := resetting.run {} 1 [blankedArrival]
    let whole := resetting.run {} 1 [blankedArrival, blankLoadedArrival]
    starved.result = .error (.closed "blank_loaded") ∧ starved.sent <+: whole.sent ∧
      whole.result = .ok (.str "F") ∧
      resetting.run {} 1 [blankedArrival, blankLoadedArrival, blankedArrival] =
        { whole with remaining := whole.remaining ++ [blankedArrival] } := by
  intro starved whole
  have failed : starved.result = .error (.closed "blank_loaded") := rfl
  have returned : whole.result = .ok (.str "F") := rfl
  have onStarved := (decided_run_stable resetting {} 1 [blankedArrival] [blankLoadedArrival]).2
  have onDecided :=
    (decided_run_stable resetting {} 1 [blankedArrival, blankLoadedArrival] [blankedArrival]).1
  obtain ⟨_, sentBefore, _⟩ := onStarved "blank_loaded" failed
  refine ⟨failed, sentBefore, returned, onDecided fun step error => ?_⟩
  cases returned.symm.trans error

end Dialogue

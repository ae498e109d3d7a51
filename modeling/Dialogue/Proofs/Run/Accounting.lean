import Dialogue.Proofs.Run.Completion
import Dialogue.Proofs.Run.Drawing
/-!
# Frames and ids of a run

The steps that a run completes are the first ones of its instance, up to an output step at most, and
each call among them has sent one frame.  So the frames of a run are told by how far it has come:
they call the methods of the calls that were completed, in that order, under consecutive ids.  What
ends a run draws no id, except that a call which cannot be resolved has drawn one that is never
sent.
-/

namespace Dialogue

/-- The steps before the first output step. -/
def beforeOutput (steps : List Step) : List Step :=
  steps.takeWhile fun step => step.action.kind != "output"

/-- The next step of the run is a call whose parameters cannot be resolved. -/
def Moment.Unresolved (moment : Moment) : Prop :=
  ∃ name spec rest cause, moment.steps = ⟨name, .call spec⟩ :: rest ∧
    resolveParams moment.state spec.params spec.defaults = .error cause

/-! ### Completed steps -/

namespace Completes

variable {steps : List Step} {state final : State} {nextId finalId : CallId} {marks : List Mark}

/-- The frames of completed steps carry the ids that are drawn from the next one on. -/
theorem map_callId?_frames (completes : Completes steps state nextId marks final finalId) :
    (Mark.frames marks).map Json.callId? =
      (drawnIds nextId (Mark.frames marks).length).map some := by
  induction completes with
  | nil => rfl
  | call issued later inductionHypothesis =>
      rw [Mark.frames, List.map_cons, callId?_toFrame, inductionHypothesis, List.length_cons,
        drawnIds_succ, List.map_cons]
  | await offered later inductionHypothesis => exact inductionHypothesis

/-- Completed steps have drawn one id for each of their frames. -/
theorem finalId_eq (completes : Completes steps state nextId marks final finalId) :
    finalId = nextId + UInt64.ofNat (Mark.frames marks).length := by
  induction completes with
  | nil => simp [Mark.frames]
  | call issued later inductionHypothesis =>
      rw [inductionHypothesis, Mark.frames, List.length_cons, UInt64.ofNat_add,
        UInt64.add_comm (UInt64.ofNat _), ← UInt64.add_assoc]
      rfl
  | await offered later inductionHypothesis => exact inductionHypothesis

/-- An output step ends a run, so it is never among the completed ones. -/
theorem kind_ne_output (completes : Completes steps state nextId marks final finalId) :
    ∀ step ∈ steps, step.action.kind ≠ "output" := by
  induction completes with
  | nil => simp
  | call issued later inductionHypothesis =>
      exact List.forall_mem_cons.mpr ⟨by simp [Action.kind], inductionHypothesis⟩
  | await offered later inductionHypothesis =>
      exact List.forall_mem_cons.mpr ⟨by simp [Action.kind], inductionHypothesis⟩

/-- What comes before the first output step begins with the completed steps. -/
theorem beforeOutput_append (completes : Completes steps state nextId marks final finalId)
    (rest : List Step) : beforeOutput (steps ++ rest) = steps ++ beforeOutput rest := by
  refine List.takeWhile_append_of_pos fun step member => ?_
  simpa using completes.kind_ne_output step member

end Completes

/-! ### The end of a run -/

section
variable {link : Link} {moment : Moment} {finish : Finish}

/-- A run that halts without an error has no steps left before the next output step. -/
theorem Halt.beforeOutput_eq_nil (halt : Halt link moment finish)
    (succeeded : ∀ error, finish ≠ .stopped error) : beforeOutput moment.steps = [] := by
  cases halt with
  | done finished => simp [finished, beforeOutput]
  | output pending projected => simp [pending, beforeOutput, Action.kind]
  | unprojected => exact absurd rfl (succeeded _)
  | unissued => exact absurd rfl (succeeded _)
  | unsent => exact absurd rfl (succeeded _)
  | starved => exact absurd rfl (succeeded _)
  | rejected => exact absurd rfl (succeeded _)
  | failed => exact absurd rfl (succeeded _)

/-- A run that halts with an error halts at a step. -/
theorem Halt.exists_pending {error : RunError} (halt : Halt link moment (.stopped error)) :
    ∃ failing rest, moment.steps = failing :: rest := by
  cases halt with
  | unprojected pending refused => exact ⟨_, _, pending⟩
  | unissued pending refused => exact ⟨_, _, pending⟩
  | unsent pending issued deaf => exact ⟨_, _, pending⟩
  | starved pending exhausted => exact ⟨_, _, pending⟩
  | rejected pending received refused => exact ⟨_, _, pending⟩
  | failed pending received offered => exact ⟨_, _, pending⟩

/-- A run that halts has drawn an id for what ends it exactly if that is a call which cannot be
resolved, where the other side takes all frames. -/
theorem Halt.draws_eq (halt : Halt link moment finish) (listening : link.peerListens = true) :
    (moment.Unresolved → moment.draws = 1) ∧ (¬moment.Unresolved → moment.draws = 0) := by
  constructor
  · rintro ⟨name, spec, rest, cause, pending, _⟩
    simp [Moment.draws, pending]
  · intro resolved
    cases halt with
    | done finished => simp [Moment.draws, finished]
    | output pending projected => simp [Moment.draws, pending]
    | unprojected pending refused => simp [Moment.draws, pending]
    | starved pending exhausted => simp [Moment.draws, pending]
    | rejected pending received refused => simp [Moment.draws, pending]
    | failed pending received offered => simp [Moment.draws, pending]
    | unsent pending issued deaf => simp [listening] at deaf
    | unissued pending refused =>
        exact absurd ⟨_, _, _, _, pending, issue_eq_error_iff.mp refused⟩ resolved

end

/-- What the frames and ids of a run have to do with the steps of its instance, of which some were
done when it came to its last moment. -/
structure Report.Accounted (report : Report) (subject : Instance) (firstId : CallId)
    (done : List Step) (last : Moment) : Prop where
  steps : subject.steps = done ++ last.steps
  early : done <+: beforeOutput subject.steps
  /-- Every call that was done has sent one frame, in the order of the steps. -/
  methods : report.sent.map Json.method? = (calledMethods done).map some
  ids : report.sent.map Json.callId? = (drawnIds firstId report.sent.length).map some
  distinct : report.sent.length ≤ UInt64.size → (report.sent.map Json.callId?).Nodup
  /-- A run with a value has done all that comes before the first output step. -/
  returned : ∀ value, report.result = .ok value → done = beforeOutput subject.steps
  /-- A run without a value has failed at the step after those that were done. -/
  failed : ∀ error, report.result = .error error → ∃ failing rest, last.steps = failing :: rest
  nextId : ¬last.Unresolved → report.nextId = firstId + UInt64.ofNat report.sent.length
  nextId_skips : report.nextId = firstId + UInt64.ofNat (report.sent.length + 1) ↔ last.Unresolved

section
variable {link : Link} {subject : Instance} {firstId : CallId} {queue : List Arrival}
  {last : Moment} {done : List Step} {marks : List Mark} {consumed : List Arrival}

/-- At every moment of a run the next id is the one after those of the frames sent so far. -/
theorem Past.nextId_eq (past : Past (subject.start firstId queue) last done marks consumed) :
    last.nextId = firstId + UInt64.ofNat last.sent.length := by
  have frames : last.sent = Mark.frames marks := past.sent
  rw [frames]
  exact past.completes.finalId_eq

/-- A run that halts draws one more id, or none, for what ends it. -/
theorem nextId_of_halt {finish : Finish}
    (reached : Reaches link (subject.start firstId queue) last) (halt : Halt link last finish) :
    (subject.run link firstId queue).nextId =
      firstId + UInt64.ofNat (last.sent.length + last.draws) := by
  obtain ⟨done, marks, consumed, past⟩ := exists_past_of_reaches reached
  rw [← report_start, ← report_of_reaches reached, halt.report_nextId, past.nextId_eq,
    UInt64.ofNat_add, UInt64.add_assoc]

/-- The last moment of a run accounts for its report. -/
theorem accounted_of_halt (listening : link.peerListens = true)
    (reached : Reaches link (subject.start firstId queue) last)
    (past : Past (subject.start firstId queue) last done marks consumed)
    (halt : Halt link last (subject.run link firstId queue).finish)
    (sent : (subject.run link firstId queue).sent = last.sent) :
    (subject.run link firstId queue).Accounted subject firstId done last := by
  have steps : subject.steps = done ++ last.steps := past.steps
  have frames : (subject.run link firstId queue).sent = Mark.frames marks := sent.trans past.sent
  have ids := past.completes.map_callId?_frames
  rw [← frames] at ids
  have before : beforeOutput subject.steps = done ++ beforeOutput last.steps :=
    steps ▸ past.completes.beforeOutput_append last.steps
  have drawn := nextId_of_halt reached halt
  rw [← sent] at drawn
  obtain ⟨unresolved, resolved⟩ := halt.draws_eq listening
  exact
    { steps
      early := before ▸ List.prefix_append _ _
      methods := frames ▸ past.completes.map_method?_frames
      ids
      distinct := by
        intro bounded
        rw [ids]
        exact (nodup_drawnIds firstId bounded).map fun _ _ => Option.some.inj
      returned := by
        intro value returned
        have succeeded := Report.finish_ne_stopped_of_result_ok returned
        rw [before, halt.beforeOutput_eq_nil succeeded, List.append_nil]
      failed := by
        intro error failed
        have stopped := Report.finish_of_result_error failed
        exact (stopped ▸ halt).exists_pending
      nextId := by
        intro other
        rw [drawn, resolved other, Nat.add_zero]
      nextId_skips := by
        constructor
        · intro skipped
          -- If no id was drawn in vain, the next one would be equal to the one after it.
          refine Classical.byContradiction fun other => ?_
          rw [drawn, resolved other] at skipped
          simp at skipped
        · intro failed
          rw [drawn, unresolved failed] }

end

/-- The frames and ids of a run are accounted for by its steps.  A run whose frames are all taken
comes to a last moment, at which it halts in the way that its report tells.  By then it has
completed some first steps, none of which is an output, and its frames call the methods of the calls
among them, each once and in that order, under consecutive ids from the first one on.  If the run
returned a value these are all steps before the first output step, and else the step at which it
failed comes after them.  The next id is the one after those of the frames, or one more exactly if
the run failed at a call whose parameters could not be resolved. -/
theorem run_accounts_for_frames (subject : Instance) (link : Link)
    (listening : link.peerListens = true) (firstId : CallId) (queue : List Arrival) :
    ∃ done last, Reaches link (subject.start firstId queue) last ∧
      Halt link last (subject.run link firstId queue).finish ∧
      (subject.run link firstId queue).Accounted subject firstId done last := by
  obtain ⟨last, finish, reached, halt, rfl, sent⟩ := run_halts link subject firstId queue
  obtain ⟨done, marks, consumed, past⟩ := exists_past_of_reaches reached
  exact ⟨done, last, reached, halt, accounted_of_halt listening reached past halt sent⟩

/-- Loading a document that the options do not give. -/
def emptyLoading : Instance :=
  .new Protocol.navigate (.ofList [("source_type", .str "html")])

/-- The response that names the frame, to a call with the greatest id. -/
def frameTreeArrivals : List Arrival :=
  [.message (.response 18446744073709551615
    (some (.object [("frameTree", .object [("frame", .object [("id", .str "F")])])])) none)]

/-- The frame is asked for under the greatest id, and the id after it is drawn for the call that
lacks the document. -/
theorem emptyLoading_accounted :
    ((emptyLoading.run {} 18446744073709551615 frameTreeArrivals).sent.map Json.callId?) =
        [some 18446744073709551615] ∧
      (emptyLoading.run {} 18446744073709551615 frameTreeArrivals).nextId = 1 ∧
      ∃ done last,
        (emptyLoading.run {} 18446744073709551615 frameTreeArrivals).Accounted emptyLoading
          18446744073709551615 done last ∧ last.Unresolved := by
  obtain ⟨done, last, _, _, accounted⟩ :=
    run_accounts_for_frames emptyLoading {} rfl 18446744073709551615 frameTreeArrivals
  exact ⟨accounted.ids, rfl, done, last, accounted, accounted.nextId_skips.mp rfl⟩

end Dialogue

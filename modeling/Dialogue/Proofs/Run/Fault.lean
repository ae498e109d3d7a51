import Dialogue.Proofs.Run.Completion
import Dialogue.Proofs.Script.Undefined
/-!
# What fatal errors are about

A run ends with a fatal error at a step that cannot be done in the state that the steps before it
have left (`exists_faults_of_fatal`).  The step lacks a value that it uses, or the rule for its
parameters refuses the state, or the message that it has waited for lacks a field.

Values never go away.  So a value that is lacking at a step was lacking from the start, and no step
before extracts it: it is one of the `undefinedUses` of the steps (`Completes.undefined`).
-/

namespace Dialogue

/-- The step cannot be done in this state, for this cause. -/
inductive Step.Faults (step : Step) (state : State) : ScriptError → Prop where
  /-- A value that the step uses is not there. -/
  | lacks (use : Use) (used : use ∈ step.uses) (missing : state.at? use.path = none) :
      step.Faults state use.cause
  /-- The rule for the parameters of the call refuses the state. -/
  | refuses (rule : ParamRule) {cause : ScriptError} (computes : step.rule? = some rule)
      (refused : rule state = .error cause) : step.Faults state cause
  /-- The message that the step waits for lacks a field. -/
  | unanswered {handler : AwaitHandler} {spec : KeySpec} (awaits : step.action = .await handler)
      (extracts : spec ∈ handler.fields) :
      step.Faults state (.missingPath spec.path handler.context)

/-! ### A step that cannot be done -/

variable {name : String} {state : State} {cause : ScriptError}

/-- A call that cannot be issued lacks a parameter, or its rule refuses the state. -/
theorem faults_of_issue_error {spec : CallSpec} {id : CallId}
    (refused : spec.issue state id = .error cause) :
    Step.Faults ⟨name, .call spec⟩ state cause := by
  have unresolved := resolveParams_eq_error_iff.mp (issue_eq_error_iff.mp refused)
  obtain ⟨method, source, defaults⟩ := spec
  cases source with
  | computed rule => exact .refuses rule rfl unresolved
  | keys specs =>
      obtain ⟨spec, member, missing, rfl⟩ := exists_spec_of_collectParams_error unresolved
      exact .lacks (.parameter spec.path) (List.mem_map_of_mem member) missing

/-- A wait that cannot go on lacks a value to compare with, or has got a message without a field. -/
theorem faults_of_offer_error {handler : AwaitHandler} {message : Message}
    (refused : handler.offer state message = .error cause) :
    Step.Faults ⟨name, .await handler⟩ state cause := by
  rcases AwaitHandler.of_react_error (AwaitHandler.react_eq_of_offer_error refused) with
    ⟨waiting, params, rfl, unmatched⟩ | ⟨spec, extracts, rfl⟩
  · obtain ⟨spec, member, missing, rfl⟩ := exists_spec_of_fieldsMatch_error unmatched
    rw [← State.at?_singleton] at missing
    exact .lacks (.value spec.key) (List.mem_map_of_mem member) missing
  · exact .unanswered rfl extracts

/-- Outputs cannot be collected only for a key that the state lacks. -/
theorem exists_key_of_collectOutputs_error {found : Table Json} {keys : List String}
    (refused : collectOutputs state found keys = .error cause) :
    ∃ key ∈ keys, state.get? key = none ∧ cause = .missingKey key := by
  induction keys generalizing found with
  | nil => cases refused
  | cons key rest inductionHypothesis =>
      rw [collectOutputs, State.fetch] at refused
      cases known : state.get? key with
      | none =>
          simp only [known, bind, Except.bind, Except.error.injEq] at refused
          exact ⟨key, List.mem_cons_self, known, refused.symm⟩
      | some value =>
          simp only [known, bind, Except.bind] at refused
          obtain ⟨missing, member, lacking⟩ := inductionHypothesis refused
          exact ⟨missing, List.mem_cons_of_mem key member, lacking⟩

/-- An output that cannot be projected lacks one of its values. -/
theorem exists_key_of_project_error {spec : OutputSpec}
    (refused : spec.project state = .error cause) :
    ∃ key ∈ spec.keys, state.get? key = none ∧ cause = .missingKey key := by
  cases spec with
  | single key =>
      rw [OutputSpec.project, State.fetch] at refused
      cases known : state.get? key with
      | some value => simp [known] at refused
      | none =>
          simp only [known, Except.error.injEq] at refused
          exact ⟨key, List.mem_cons_self, known, refused.symm⟩
  | many keys =>
      rw [OutputSpec.project] at refused
      cases collected : collectOutputs state .empty keys with
      | ok members => simp [collected, bind, Except.bind, pure, Except.pure] at refused
      | error reason =>
          simp only [collected, bind, Except.bind, Except.error.injEq] at refused
          exact exists_key_of_collectOutputs_error (refused ▸ collected)

theorem faults_of_project_error {spec : OutputSpec} (refused : spec.project state = .error cause) :
    Step.Faults ⟨name, .output spec⟩ state cause := by
  obtain ⟨key, member, missing, rfl⟩ := exists_key_of_project_error refused
  rw [← State.at?_singleton] at missing
  exact .lacks (.value key) (List.mem_map_of_mem member) missing

/-- A run that halts with a fatal error halts at a step that cannot be done. -/
theorem Halt.exists_faults {link : Link} {moment : Moment}
    (halt : Halt link moment (.stopped (.fatal cause))) :
    ∃ step rest, moment.steps = step :: rest ∧ step.Faults moment.state cause := by
  generalize stopped : Finish.stopped (.fatal cause) = finish at halt
  cases halt with
  | done => cases stopped
  | output => cases stopped
  | unsent => cases stopped
  | failed => cases stopped
  | starved =>
      -- A step that waits in vain is no fatal error, however its arrivals end.
      cases ended : link.ending <;> simp [Link.starved, ended] at stopped
  | unprojected pending refused =>
      cases stopped
      exact ⟨_, _, pending, faults_of_project_error refused⟩
  | unissued pending refused =>
      cases stopped
      exact ⟨_, _, pending, faults_of_issue_error refused⟩
  | rejected pending received refused =>
      cases stopped
      exact ⟨_, _, pending, faults_of_offer_error refused⟩

/-- A run that ends with a fatal error has completed some first steps and could not do the next
one. -/
theorem exists_faults_of_fatal {subject : Instance} {link : Link} {firstId : CallId}
    {queue : List Arrival}
    (failed : (subject.run link firstId queue).result = .error (.fatal cause)) :
    ∃ done step rest reached marks nextId, subject.steps = done ++ step :: rest ∧
      Completes done subject.state firstId marks reached nextId ∧ step.Faults reached cause := by
  obtain ⟨last, finish, reached, halt, rfl, _⟩ := run_halts link subject firstId queue
  obtain ⟨done, marks, consumed, past⟩ := exists_past_of_reaches reached
  rw [Report.finish_of_result_error failed] at halt
  obtain ⟨step, rest, pending, faults⟩ := halt.exists_faults
  exact ⟨done, step, rest, last.state, marks, last.nextId, pending ▸ past.steps, past.completes,
    faults⟩

/-! ### Values do not go away -/

namespace Completes

variable {steps done : List Step} {step : Step} {final : State} {nextId finalId : CallId}
  {marks : List Mark}

/-- A key that is missing after some steps was missing before them, and they do not extract it. -/
theorem get?_eq_none {key : String} (completes : Completes steps state nextId marks final finalId)
    (missing : final.get? key = none) : state.get? key = none ∧ Spares key steps := by
  induction completes with
  | nil => exact ⟨missing, by simp [Spares]⟩
  | @call name spec rest state next final nextId finalId call marks issued later
      inductionHypothesis =>
      obtain ⟨before, spared⟩ := inductionHypothesis missing
      obtain ⟨params, _, rfl, _⟩ := issue_eq_ok issued
      rw [State.get?_insert] at before
      split at before
      · cases before
      · exact ⟨before, List.forall_mem_cons.mpr ⟨by simp [Step.fields], spared⟩⟩
  | await offered later inductionHypothesis =>
      obtain ⟨between, spared⟩ := inductionHypothesis missing
      obtain ⟨before, unwritten⟩ := get?_eq_none_of_extractFields
        (AwaitHandler.extractFields_of_offer_satisfied offered) between
      exact ⟨before, List.forall_mem_cons.mpr ⟨unwritten, spared⟩⟩

/-- A value that a step finds missing is undefined in the steps, and missing from the start. -/
theorem undefined {use : Use} (completes : Completes done state nextId marks final finalId)
    (rest : List Step) (used : use ∈ step.uses) (missing : final.at? use.path = none) :
    use ∈ undefinedUses [] (done ++ step :: rest) ∧
      ∀ key, use.path = [key] → state.get? key = none := by
  have absent : ∀ key, use.path = [key] → state.get? key = none ∧ Spares key done := by
    intro key named
    rw [named, State.at?_singleton] at missing
    exact completes.get?_eq_none missing
  constructor
  · exact mem_undefinedUses used fun key named => ⟨by simp, (absent key named).2⟩
  · exact fun key named => (absent key named).1

end Completes

end Dialogue

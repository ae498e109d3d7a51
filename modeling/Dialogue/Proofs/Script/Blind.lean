import Dialogue.Proofs.Offer
import Dialogue.Proofs.Script.Undefined
/-!
# Steps that are blind to the ids of calls

The id of the last call is a value of the state like any other, so options can set it and steps can
read it.  A step that is blind to it does the same in all states that differ in nothing else: its
call has the same parameters, its check has the same verdict whatever the id of the response, it
compares a notification with no such value, and it returns none.  The steps of the built-in scripts
are blind under all options, which can be seen from what their elements declare.
-/

namespace Dialogue

/-- The states have the same values, except that the ids of the last call may differ. -/
def State.SameButCallId (one other : State) : Prop :=
  ∀ key, key ≠ lastCallIdKey → other.get? key = one.get? key

namespace State.SameButCallId

variable {one other : State}

theorem refl (state : State) : state.SameButCallId state :=
  fun _ _ => rfl

/-- The states stay the same when a value is put into both of them. -/
theorem insert (same : one.SameButCallId other) (key : String) (value : Json) :
    (one.insert key value).SameButCallId (other.insert key value) := by
  intro read elsewhere
  rw [get?_insert, get?_insert, same read elsewhere]

/-- The id of the last call may be set in each of the states on its own. -/
theorem insert_lastCallId (same : one.SameButCallId other) (value otherValue : Json) :
    (one.insert lastCallIdKey value).SameButCallId (other.insert lastCallIdKey otherValue) := by
  intro key elsewhere
  rw [get?_insert, get?_insert, if_neg elsewhere, if_neg elsewhere, same key elsewhere]

/-- A path that does not begin at the id of the last call leads to the same value. -/
theorem at?_eq (same : one.SameButCallId other) {path : List String}
    (elsewhere : path.head? ≠ some lastCallIdKey) : other.at? path = one.at? path := by
  cases path with
  | nil => rfl
  | cons key rest =>
      have different : key ≠ lastCallIdKey := fun head => elsewhere (by rw [head]; rfl)
      rw [State.at?, State.at?, same key different]

theorem sessionId?_eq (same : one.SameButCallId other) : other.sessionId? = one.sessionId? := by
  rw [sessionId?, sessionId?, same sessionIdKey (by decide)]

/-- The same messages are events. -/
theorem event_eq (same : one.SameButCallId other) (message : Message) :
    RuntimeEvent.of? other message = RuntimeEvent.of? one message := by
  cases message with
  | response => rfl
  | notification => rw [RuntimeEvent.of?, RuntimeEvent.of?, same.sessionId?_eq]

/-- Events meet the same policies. -/
theorem policy_eq (same : one.SameButCallId other) (event : RuntimeEvent) :
    event.policy other = event.policy one := by
  cases event with
  | exception =>
      rw [RuntimeEvent.policy, RuntimeEvent.policy, Policy.ofState, Policy.ofState,
        same Policy.exceptionKey (by decide)]
  | console =>
      rw [RuntimeEvent.policy, RuntimeEvent.policy, Policy.ofState, Policy.ofState,
        same Policy.consoleKey (by decide)]

theorem interceptionWarnings_eq (same : one.SameButCallId other) (message : Message) :
    interceptionWarnings other message = interceptionWarnings one message := by
  simp only [interceptionWarnings, same.event_eq, same.policy_eq]

/-- Parameters that are collected elsewhere are the same. -/
theorem collectParams_eq (same : one.SameButCallId other) {specs : List KeySpec}
    (elsewhere : ∀ spec ∈ specs, spec.path.head? ≠ some lastCallIdKey) (found : Table Json) :
    collectParams other found specs = collectParams one found specs := by
  induction specs generalizing found with
  | nil => rfl
  | cons spec rest inductionHypothesis =>
      obtain ⟨head, tail⟩ := List.forall_mem_cons.mp elsewhere
      simp only [collectParams, State.fetchAt, same.at?_eq head, inductionHypothesis tail]

/-- A payload that is compared with other values agrees with both states or with none. -/
theorem fieldsMatch_eq (same : one.SameButCallId other) (params : Json) {specs : List KeySpec}
    (elsewhere : ∀ spec ∈ specs, spec.key ≠ lastCallIdKey) :
    fieldsMatch other params specs = fieldsMatch one params specs := by
  induction specs with
  | nil => rfl
  | cons spec rest inductionHypothesis =>
      obtain ⟨head, tail⟩ := List.forall_mem_cons.mp elsewhere
      simp only [fieldsMatch, State.fetch, same spec.key head, inductionHypothesis tail]

theorem collectOutputs_eq (same : one.SameButCallId other) {keys : List String}
    (elsewhere : ∀ key ∈ keys, key ≠ lastCallIdKey) (found : Table Json) :
    collectOutputs other found keys = collectOutputs one found keys := by
  induction keys generalizing found with
  | nil => rfl
  | cons key rest inductionHypothesis =>
      obtain ⟨head, tail⟩ := List.forall_mem_cons.mp elsewhere
      simp only [collectOutputs, State.fetch, same key head, inductionHypothesis tail]

end State.SameButCallId

/-! ### Blind steps -/

/-- The parameters that a rule computes do not depend on the id of the last call. -/
def BlindRule (rule : ParamRule) : Prop :=
  ∀ {one other : State}, one.SameButCallId other → rule other = rule one

/-- The verdict on a response depends neither on its id nor on that of the last call. -/
def BlindCheck (check : ResponseCheck) : Prop :=
  ∀ {one other : State}, one.SameButCallId other → ∀ id otherId result error,
    check other (.response otherId result error) = check one (.response id result error)

/-- The step looks away from the ids of calls. -/
structure Step.Blind (step : Step) : Prop where
  uses : ∀ use ∈ step.uses, use.path.head? ≠ some lastCallIdKey
  rule : ∀ rule, step.rule? = some rule → BlindRule rule
  check : ∀ check, step.check? = some check → BlindCheck check

namespace Step.Blind

variable {one other : State} {name : String}

/-- A blind call has the same parameters. -/
theorem resolve_eq {spec : CallSpec} (blind : Step.Blind ⟨name, .call spec⟩)
    (same : one.SameButCallId other) : spec.params.resolve other = spec.params.resolve one := by
  obtain ⟨method, source, defaults⟩ := spec
  cases source with
  | computed rule => exact blind.rule rule rfl same
  | keys specs =>
      have elsewhere : ∀ spec ∈ specs, spec.path.head? ≠ some lastCallIdKey := fun spec member =>
        blind.uses (.parameter spec.path) (List.mem_map_of_mem member)
      exact same.collectParams_eq elsewhere .empty

/-- A blind wait compares a notification with the same values. -/
theorem fieldsMatch_eq {handler : AwaitNotification}
    (blind : Step.Blind ⟨name, .await (.notification handler)⟩) (same : one.SameButCallId other)
    (params : Json) :
    fieldsMatch other params handler.matchOn = fieldsMatch one params handler.matchOn := by
  refine same.fieldsMatch_eq params fun spec member head => ?_
  exact blind.uses (.value spec.key) (List.mem_map_of_mem member) (congrArg some head)

/-- A blind output returns the same. -/
theorem project_eq {spec : OutputSpec} (blind : Step.Blind ⟨name, .output spec⟩)
    (same : one.SameButCallId other) : spec.project other = spec.project one := by
  have elsewhere : ∀ key ∈ spec.keys, key ≠ lastCallIdKey := fun key member head =>
    blind.uses (.value key) (List.mem_map_of_mem member) (congrArg some head)
  cases spec with
  | single key =>
      have different : key ≠ lastCallIdKey := elsewhere key List.mem_cons_self
      rw [OutputSpec.project, OutputSpec.project, State.fetch, State.fetch, same key different]
  | many keys =>
      have collected : ∀ key ∈ keys, key ≠ lastCallIdKey := elsewhere
      simp only [OutputSpec.project, same.collectOutputs_eq collected]

end Step.Blind

namespace Protocol

/-- Asking for an option is blind, unless the option has the key of the last call's id. -/
theorem blind_objectOption {key : String} (elsewhere : key ≠ lastCallIdKey) :
    BlindRule (objectOption · key) := by
  intro one other same
  simp only [objectOption, same key elsewhere]

theorem blind_printParams : BlindRule printParams := by
  intro one other same
  have option : objectOption other "print_to_pdf" = objectOption one "print_to_pdf" :=
    blind_objectOption (by decide) same
  rw [printParams, printParams, option, same "landscape" (by decide)]

end Protocol

/-- The steps of the built-in scripts are blind, whatever their options say. -/
theorem blind_of_mem_catalog {script : Script} (member : script ∈ Protocol.catalog)
    (options : Options) : ∀ step ∈ script.steps options, step.Blind := by
  have checked : ∀ script ∈ Protocol.catalog, ∀ step ∈ declaredSteps script.elements,
      ∀ use ∈ step.uses, use.path.head? ≠ some lastCallIdKey := by
    decide
  intro step inSteps
  refine
    { uses := checked script member step
        ((steps_sublist_declaredSteps script options).subset inSteps)
      rule := fun rule computes => ?_
      check := fun check checks => ?_ }
  · rcases rule_cases_of_mem_catalog member (mem_rules_of_mem_steps inSteps computes) with
      rfl | rfl | rfl
    · exact Protocol.blind_objectOption (by decide)
    · exact Protocol.blind_printParams
    · exact Protocol.blind_objectOption (by decide)
  · -- Neither kind of check looks at the state or at the id of the response.
    rcases check_cases_of_mem_catalog member (mem_checks_of_mem_steps inSteps checks) with
      rfl | ⟨field, label, rfl⟩
    · exact fun _ _ _ _ _ => rfl
    · exact fun _ _ _ _ _ => rfl

end Dialogue

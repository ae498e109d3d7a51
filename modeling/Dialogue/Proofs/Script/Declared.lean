import Dialogue.Proofs.Script.Correlated
/-!
# What the steps of a script can be

Which steps a script has depends on its options, but none of them is invented: each is declared by
an element of the script or of a script spliced into it.  So the keys that the answers of the other
side can ever be extracted into can be read off the elements, for all options at once, and so can
the methods that are called and the rules and checks that steps bring with them.
-/

namespace Dialogue

/-- The method that a step calls. -/
def Step.method? (step : Step) : Option String :=
  match step.action with
  | .call spec => some spec.method
  | .await _ => none
  | .output _ => none

/-- The keys of the values that an output returns. -/
def OutputSpec.keys : OutputSpec → List String
  | .single key => [key]
  | .many keys => keys

/-- A rule that computes the parameters of a call. -/
abbrev ParamRule := State → Except ScriptError (Table Json)

/-- The rule for the parameters of a step's call, if it has one of its own. -/
def Step.rule? (step : Step) : Option ParamRule :=
  match step.action with
  | .call { params := .computed rule, .. } => some rule
  | _ => none

/-- The check of the response that a step waits for. -/
def Step.check? (step : Step) : Option ResponseCheck :=
  match step.action with
  | .await (.response handler) => some handler.check
  | _ => none

/-- No step extracts into this key. -/
def Spares (key : String) (steps : List Step) : Prop :=
  ∀ step ∈ steps, ∀ spec ∈ step.fields, spec.key ≠ key

mutual

/-- The steps that an element declares, whether or not they apply. -/
def Element.declared : Element → List Step
  | .call name spec => [⟨name, .call spec⟩]
  | .await name handler => [⟨name, .await handler⟩]
  | .output name spec => [⟨name, .output spec⟩]
  | .ifOption _ _ => []
  | .endIf => []
  | .splice _ body => declaredSteps body

/-- The steps that a sequence of elements declares. -/
def declaredSteps : List Element → List Step
  | [] => []
  | element :: rest => element.declared ++ declaredSteps rest

end

/-- The keys that the steps of a script extract into, under whatever options. -/
def Script.writtenKeys (script : Script) : List String :=
  (declaredSteps script.elements).flatMap fun step => step.fields.map KeySpec.key

/-- The rules for parameters in a script. -/
def Script.rules (script : Script) : List ParamRule :=
  (declaredSteps script.elements).filterMap Step.rule?

/-- The checks of responses in a script. -/
def Script.checks (script : Script) : List ResponseCheck :=
  (declaredSteps script.elements).filterMap Step.check?

variable {key : String} {first steps : List Step}

theorem Spares.mono (all : Spares key steps) (subset : first ⊆ steps) : Spares key first :=
  fun step member => all step (subset member)

mutual

theorem steps_sublist_declared (options : Options) :
    ∀ element : Element, (element.steps options).Sublist element.declared
  | .call name spec => by simp [Element.steps, Element.declared]
  | .await name handler => by simp [Element.steps, Element.declared]
  | .output name spec => by simp [Element.steps, Element.declared]
  | .ifOption key allowed => by simp [Element.steps]
  | .endIf => by simp [Element.steps]
  | .splice name body => by
      simpa [Element.steps, Element.declared] using scan_sublist_declared options body false

/-- The scan finds steps that are declared, each as often as it is declared at most, and in that
order. -/
theorem scan_sublist_declared (options : Options) :
    ∀ (elements : List Element) (skipping : Bool),
      (scanElements options skipping elements).Sublist (declaredSteps elements)
  | [], skipping => by simp [scanElements]
  | element :: rest, skipping => by
      have first := steps_sublist_declared options element
      have second := scan_sublist_declared options rest (element.skippingAfter options skipping)
      rw [scan_cons, declaredSteps]
      refine List.Sublist.append ?_ second
      cases skipping with
      | false => simpa using first
      | true => simp

end

theorem steps_sublist_declaredSteps (script : Script) (options : Options) :
    (script.steps options).Sublist (declaredSteps script.elements) :=
  scan_sublist_declared options script.elements false

/-- A key that a script writes nowhere is spared by its steps under all options. -/
theorem spares_of_not_mem_writtenKeys {script : Script} (unwritten : key ∉ script.writtenKeys)
    (options : Options) : Spares key (script.steps options) := by
  intro step member spec extracted same
  have declared := (steps_sublist_declaredSteps script options).subset member
  apply unwritten
  rw [Script.writtenKeys, List.mem_flatMap]
  exact ⟨step, declared, List.mem_map.mpr ⟨spec, extracted, same⟩⟩

theorem mem_rules_of_mem_steps {script : Script} {options : Options} {step : Step}
    (member : step ∈ script.steps options) {rule : ParamRule} (computes : step.rule? = some rule) :
    rule ∈ script.rules :=
  List.mem_filterMap.mpr
    ⟨step, (steps_sublist_declaredSteps script options).subset member, computes⟩

theorem mem_checks_of_mem_steps {script : Script} {options : Options} {step : Step}
    (member : step ∈ script.steps options) {check : ResponseCheck}
    (checks : step.check? = some check) : check ∈ script.checks :=
  List.mem_filterMap.mpr
    ⟨step, (steps_sublist_declaredSteps script options).subset member, checks⟩

/-- The methods that steps call, in order. -/
def calledMethods (steps : List Step) : List String :=
  steps.filterMap Step.method?

/-- No built-in script calls a method twice, under whatever options. -/
theorem nodup_calledMethods_of_mem_catalog {script : Script} (member : script ∈ Protocol.catalog)
    (options : Options) : (calledMethods (script.steps options)).Nodup := by
  have checked : ∀ script ∈ Protocol.catalog,
      (calledMethods (declaredSteps script.elements)).Nodup := by
    decide
  exact (checked script member).sublist
    ((steps_sublist_declaredSteps script options).filterMap Step.method?)

/-- The built-in scripts extract into five keys. -/
theorem writtenKeys_subset_of_mem_catalog {script : Script} (member : script ∈ Protocol.catalog) :
    script.writtenKeys ⊆ ["targetId", "sessionId", "frameId", "data", "success"] := by
  have checked : ∀ script ∈ Protocol.catalog, ∀ key ∈ script.writtenKeys,
      key ∈ ["targetId", "sessionId", "frameId", "data", "success"] := by
    decide
  exact checked script member

/-- The rules in the built-in scripts ask for options that are objects. -/
theorem rule_cases_of_mem_catalog {script : Script} (member : script ∈ Protocol.catalog)
    {rule : ParamRule} (inScript : rule ∈ script.rules) :
    rule = (Protocol.objectOption · "cookie") ∨ rule = Protocol.printParams ∨
      rule = (Protocol.objectOption · "capture_screenshot") := by
  have listed : Protocol.catalog.flatMap Script.rules =
      [(Protocol.objectOption · "cookie"),
        (Protocol.objectOption · "cookie"), Protocol.printParams,
        (Protocol.objectOption · "cookie"), (Protocol.objectOption · "capture_screenshot")] := rfl
  have found := List.mem_flatMap.mpr ⟨script, member, inScript⟩
  rw [listed] at found
  simp only [List.mem_cons, List.not_mem_nil, or_false] at found
  grind

/-- The checks of loading look for an error, and two of them for a member of the result. -/
theorem check_cases_of_navigate {check : ResponseCheck}
    (inScript : check ∈ Protocol.navigate.checks) :
    check = rejectErrors ∨ ∃ field label, check = Protocol.rejectField field label := by
  have listed : Protocol.navigate.checks =
      [rejectErrors, Protocol.rejectField "errorText" "navigation_failed", rejectErrors,
        rejectErrors, Protocol.rejectField "exceptionDetails" "wait_for_failed"] := rfl
  rw [listed] at inScript
  simp only [List.mem_cons, List.not_mem_nil, or_false] at inScript
  rcases inScript with same | same | same | same | same
  · exact .inl same
  · exact .inr ⟨_, _, same⟩
  · exact .inl same
  · exact .inl same
  · exact .inr ⟨_, _, same⟩

/-- The other built-in scripts add nothing but the check that is given none. -/
theorem check_cases_of_mem_catalog {script : Script} (member : script ∈ Protocol.catalog)
    {check : ResponseCheck} (inScript : check ∈ script.checks) :
    check = rejectErrors ∨ ∃ field label, check = Protocol.rejectField field label := by
  have listed : Protocol.catalog.flatMap Script.checks =
      List.replicate 5 rejectErrors ++ Protocol.navigate.checks ++
        (Protocol.navigate.checks ++ [rejectErrors]) ++
        (Protocol.navigate.checks ++ [rejectErrors]) ++ [rejectErrors] ++ [rejectErrors] := rfl
  have found := List.mem_flatMap.mpr ⟨script, member, inScript⟩
  rw [listed] at found
  simp only [List.mem_append, List.mem_singleton, List.mem_replicate] at found
  by_cases loads : check ∈ Protocol.navigate.checks
  · exact check_cases_of_navigate loads
  · exact .inl (by simpa [loads] using found)

end Dialogue

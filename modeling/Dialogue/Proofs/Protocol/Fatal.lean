import Dialogue.Proofs.Protocol.Parts
import Dialogue.Proofs.Run.Fault
/-!
# Fatal errors of the built-in scripts

The built-in scripts use nothing that they have not defined.  What they use is extracted by a step
before, or it is the option that made the part apply in which it is used.  What is left are an
address, a document or a target that is to be loaded or closed and that the options do not give, and
an option that has to be an object and is not.  Everything else that can be missing is missing in
what the other side has answered.
-/

namespace Dialogue

namespace Protocol

/-- The options that have to be objects, or null. -/
def objectOptions : List String :=
  ["cookie", "print_to_pdf", "capture_screenshot"]

/-- The fatal errors of a built-in script under some options. -/
inductive FatalCause (script : Script) (options : Options) : ScriptError → Prop where
  /-- An address is to be loaded, and the options do not give it. -/
  | address (loads : script ∈ loadingScripts)
      (source : options.get? "source_type" = some (.str "url"))
      (missing : options.get? "url" = none) :
      FatalCause script options (.missingPath ["url"] "state")
  /-- A document is to be loaded, and the options do not give it. -/
  | document (loads : script ∈ loadingScripts)
      (source : options.get? "source_type" = some (.str "html"))
      (missing : options.get? "html" = none) :
      FatalCause script options (.missingPath ["html"] "state")
  /-- A target is to be closed, and the options do not say which. -/
  | target (closes : script = closeSession) (missing : options.get? "targetId" = none) :
      FatalCause script options (.missingPath ["targetId"] "state")
  /-- An option that has to be an object is neither that nor null. -/
  | option {key : String} {given : Json} (named : key ∈ objectOptions)
      (present : options.get? key = some given) (notNull : given ≠ .null)
      (notObject : given.asObject? = none) :
      FatalCause script options (.invalidOption key given)
  /-- A response lacks a field that the script extracts from it. -/
  | response {step : Step} {spec : KeySpec} (declared : step ∈ declaredSteps script.elements)
      (awaits : step.AwaitsResponse) (extracts : spec ∈ step.fields) :
      FatalCause script options (.missingPath spec.path "result")

variable {script : Script} {options : Options}

/-! ### Values that are missing -/

/-- A block for one text applies if the option is that text. -/
theorem get?_eq_of_guardHolds {key text : String}
    (applies : guardHolds options key (some [.str text]) = true) :
    options.get? key = some (.str text) := by
  cases given : options.get? key with
  | none => simp [guardHolds, given] at applies
  | some value =>
      rw [guardHolds_single given] at applies
      cases value with
      | str other =>
          have same : text = other := by simpa [BEq.beq, Json.equal] using applies
          rw [same]
      | _ => cases applies

/-- What is left for the options to give when content is loaded. -/
theorem undefinedUse_of_navigate {use : Use}
    (undefined : use ∈ undefinedUses [] (navigate.steps options)) :
    (options.get? "source_type" = some (.str "url") ∧ use = .parameter ["url"]) ∨
      (options.get? "source_type" = some (.str "html") ∧ use = .parameter ["html"]) ∨
      (options.contains "wait_for" = true ∧ use = .parameter ["wait_for"]) := by
  have cookie : undefinedUses [] cookieSteps = [] := by decide
  have address : undefinedUses [] addressSteps = [.parameter ["url"]] := by decide
  have document : undefinedUses [] documentSteps = [.parameter ["html"]] := by decide
  have waiting : undefinedUses [] waitingSteps = [.parameter ["wait_for"]] := by decide
  rw [navigate_steps, sourceSteps] at undefined
  rcases mem_undefinedUses_append undefined with inCookie | later
  · obtain ⟨_, member⟩ := mem_undefinedUses_ite inCookie
    rw [cookie] at member
    cases member
  rcases mem_undefinedUses_append later with inSource | inWaiting
  · rcases mem_undefinedUses_append inSource with inAddress | inDocument
    · obtain ⟨applies, member⟩ := mem_undefinedUses_ite inAddress
      rw [address, List.mem_singleton] at member
      exact .inl ⟨get?_eq_of_guardHolds applies, member⟩
    · obtain ⟨applies, member⟩ := mem_undefinedUses_ite inDocument
      rw [document, List.mem_singleton] at member
      exact .inr (.inl ⟨get?_eq_of_guardHolds applies, member⟩)
  · obtain ⟨given, member⟩ := mem_undefinedUses_ite inWaiting
    rw [waiting, List.mem_singleton] at member
    exact .inr (.inr ⟨given, member⟩)

/-- A session is opened, whether offline or not, without anything that the options have to give. -/
theorem undefinedUses_spawnSession (options : Options) :
    undefinedUses [] (spawnSession.steps options) = [] := by
  rw [Script.steps, spawnSession]
  simp only [scanElements, scan_cons, Element.awaitResponse, Element.outputMany, Element.steps]
  cases guardHolds options "offline" none <;> rfl

/-- What is left for the options to give, whatever built-in script is run. -/
theorem undefinedUse_of_mem_catalog (member : script ∈ catalog) {use : Use}
    (undefined : use ∈ undefinedUses [] (script.steps options)) :
    (script ∈ loadingScripts ∧
        ((options.get? "source_type" = some (.str "url") ∧ use = .parameter ["url"]) ∨
          (options.get? "source_type" = some (.str "html") ∧ use = .parameter ["html"]) ∨
          (options.contains "wait_for" = true ∧ use = .parameter ["wait_for"]))) ∨
      (script = closeSession ∧ use = .parameter ["targetId"]) := by
  have capturing : ∀ script ∈ loadingScripts, undefinedUses [] (script.steps .empty) = [] := by
    decide
  have loading : script ∈ loadingScripts → use ∈ undefinedUses [] (navigate.steps options) := by
    intro loads
    rw [steps_eq_append loads] at undefined
    rcases mem_undefinedUses_append undefined with inLoading | inCapture
    · exact inLoading
    · rw [capturing script loads] at inCapture
      cases inCapture
  by_cases loads : script ∈ loadingScripts
  · exact .inl ⟨loads, undefinedUse_of_navigate (loading loads)⟩
  · simp only [loadingScripts, catalog, List.mem_cons, List.not_mem_nil, or_false] at loads member
    have other : script = spawnSession ∨ script = resetSession ∨ script = closeSession := by
      grind
    rcases other with rfl | rfl | rfl
    · rw [undefinedUses_spawnSession] at undefined
      cases undefined
    · have closed : undefinedUses [] (resetSession.steps options) = [] := rfl
      rw [closed] at undefined
      cases undefined
    · have closed : undefinedUses [] (closeSession.steps options) = [.parameter ["targetId"]] := rfl
      rw [closed, List.mem_singleton] at undefined
      exact .inr ⟨rfl, undefined⟩

/-! ### Options that are no objects -/

/-- Asking for an option fails where it is neither an object nor null. -/
theorem objectOption_eq_error {state : State} {key : String} {cause : ScriptError}
    (refused : objectOption state key = .error cause) :
    ∃ given, state.get? key = some given ∧ given ≠ .null ∧ given.asObject? = none ∧
      cause = .invalidOption key given := by
  rw [objectOption] at refused
  cases present : state.get? key with
  | none => simp [present] at refused
  | some given =>
      rw [present] at refused
      cases given <;> simp_all [Json.asObject?]

/-- Printing fails where its option is neither an object nor null. -/
theorem printParams_eq_error {state : State} {cause : ScriptError}
    (refused : printParams state = .error cause) :
    objectOption state "print_to_pdf" = .error cause := by
  rw [printParams] at refused
  cases asked : objectOption state "print_to_pdf" with
  | error reason => simpa [asked, bind, Except.bind] using refused
  | ok params =>
      simp only [asked, bind, Except.bind] at refused
      split at refused <;> cases refused

/-- A rule in a built-in script refuses nothing but an option that should be an object. -/
theorem exists_option_of_rule_error (member : script ∈ catalog) {rule : ParamRule}
    (inScript : rule ∈ script.rules) {state : State} {cause : ScriptError}
    (refused : rule state = .error cause) :
    ∃ key ∈ objectOptions, ∃ given, state.get? key = some given ∧ given ≠ .null ∧
      given.asObject? = none ∧ cause = .invalidOption key given := by
  rcases rule_cases_of_mem_catalog member inScript with rfl | rfl | rfl
  · exact ⟨"cookie", by decide, objectOption_eq_error refused⟩
  · exact ⟨"print_to_pdf", by decide, objectOption_eq_error (printParams_eq_error refused)⟩
  · exact ⟨"capture_screenshot", by decide, objectOption_eq_error refused⟩

/-! ### Fields that are missing -/

/-- The built-in scripts extract from nothing but responses. -/
theorem context_eq_of_mem_catalog (member : script ∈ catalog) {step : Step}
    (declared : step ∈ declaredSteps script.elements) {handler : AwaitHandler}
    (awaits : step.action = .await handler) {spec : KeySpec} (extracts : spec ∈ handler.fields) :
    step.AwaitsResponse ∧ handler.context = "result" := by
  have checked : ∀ script ∈ catalog, ∀ step ∈ declaredSteps script.elements,
      step.fields = [] ∨ step.check?.isSome = true := by
    decide
  cases handler with
  | response waiting => exact ⟨⟨waiting, awaits⟩, rfl⟩
  | notification waiting =>
      have inFields : spec ∈ step.fields := by
        rw [Step.fields, awaits]
        exact extracts
      rcases checked script member step declared with none | some
      · rw [none] at inFields
        cases inFields
      · simp [Step.check?, awaits] at some

/-! ### All causes -/

/-- An option that has to be an object keeps its value through all steps of a built-in script. -/
theorem get?_option_of_completes (member : script ∈ catalog) {key : String}
    (named : key ∈ objectOptions) {done rest : List Step} {reached : State}
    {firstId nextId : CallId} {marks : List Mark}
    (steps : script.steps options = done ++ rest)
    (completes : Completes done (initialState options) firstId marks reached nextId) :
    reached.get? key = options.get? key := by
  have apart : ∀ key ∈ objectOptions,
      key ∉ ["targetId", "sessionId", "frameId", "data", "success"] ∧ key ≠ lastCallIdKey ∧
        key ≠ Policy.exceptionKey ∧ key ≠ Policy.consoleKey := by
    decide
  obtain ⟨unwritten, noCallId, noException, noConsole⟩ := apart key named
  have spared : Spares key (script.steps options) :=
    spares_of_not_mem_writtenKeys
      (fun written => unwritten (writtenKeys_subset_of_mem_catalog member written)) options
  have sparedDone : Spares key done := spared.mono (steps ▸ List.subset_append_left done rest)
  rw [completes.get?_eq noCallId sparedDone, get?_initialState options noException noConsole]

/-- A value that a built-in script does not find is one of those that the options have to give. -/
theorem fatalCause_of_undefined (member : script ∈ catalog) {use : Use}
    (undefined : use ∈ undefinedUses [] (script.steps options))
    (absent : ∀ key, use.path = [key] → (initialState options).get? key = none) :
    FatalCause script options use.cause := by
  have missing : ∀ key, key ≠ Policy.exceptionKey → key ≠ Policy.consoleKey → use.path = [key] →
      options.get? key = none := by
    intro key noException noConsole named
    rw [← get?_initialState options noException noConsole, absent key named]
  rcases undefinedUse_of_mem_catalog member undefined with
    ⟨loads, ⟨source, rfl⟩ | ⟨source, rfl⟩ | ⟨given, rfl⟩⟩ | ⟨closes, rfl⟩
  · exact .address loads source (missing "url" (by decide) (by decide) rfl)
  · exact .document loads source (missing "html" (by decide) (by decide) rfl)
  · -- The part that awaits an expression applies only if the options give one.
    rw [Table.contains, missing "wait_for" (by decide) (by decide) rfl] at given
    cases given
  · exact .target closes (missing "targetId" (by decide) (by decide) rfl)

/-- A step of a built-in script that cannot be done has one of the causes. -/
theorem fatalCause_of_faults (member : script ∈ catalog) {done rest : List Step} {step : Step}
    {reached : State} {firstId nextId : CallId} {marks : List Mark} {cause : ScriptError}
    (steps : script.steps options = done ++ step :: rest)
    (completes : Completes done (initialState options) firstId marks reached nextId)
    (faults : step.Faults reached cause) : FatalCause script options cause := by
  have inSteps : step ∈ script.steps options := by simp [steps]
  cases faults with
  | lacks use used missing =>
      obtain ⟨undefined, absent⟩ := completes.undefined rest used missing
      rw [← steps] at undefined
      exact fatalCause_of_undefined member undefined absent
  | refuses rule computes refused =>
      obtain ⟨key, named, given, present, notNull, notObject, rfl⟩ :=
        exists_option_of_rule_error member (mem_rules_of_mem_steps inSteps computes) refused
      rw [get?_option_of_completes member named steps completes] at present
      exact .option named present notNull notObject
  | unanswered awaits extracts =>
      have declared := (steps_sublist_declaredSteps script options).subset inSteps
      obtain ⟨response, context⟩ := context_eq_of_mem_catalog member declared awaits extracts
      rw [context]
      refine .response declared response ?_
      rw [Step.fields, awaits]
      exact extracts

/-- The session makes no difference to the causes. -/
theorem FatalCause.congr {effective : Options} {cause : ScriptError}
    (fatal : FatalCause script effective cause)
    (same : ∀ key, key ≠ sessionIdKey → effective.get? key = options.get? key) :
    FatalCause script options cause := by
  cases fatal with
  | address loads source missing =>
      rw [same _ (by decide)] at source missing
      exact .address loads source missing
  | document loads source missing =>
      rw [same _ (by decide)] at source missing
      exact .document loads source missing
  | target closes missing =>
      rw [same _ (by decide)] at missing
      exact .target closes missing
  | option named present notNull notObject =>
      have other : ∀ key ∈ objectOptions, key ≠ sessionIdKey := by decide
      rw [same _ (other _ named)] at present
      exact .option named present notNull notObject
  | response declared awaits extracts => exact .response declared awaits extracts

end Protocol

/-- Built-in scripts use nothing that they have not defined.  Whatever the session, the options and
the arrivals, no run of one ends because a key is missing.  If it ends with another fatal error, the
options lack the address, the document or the target that they have to give, or an option that has
to be an object is neither that nor null, or a response lacks a field that is extracted from it. -/
theorem fatal_errors_of_mem_catalog {script : Script} (member : script ∈ Protocol.catalog)
    (session : Option String) (options : Options) (link : Link) (firstId : CallId)
    (queue : List Arrival) {cause : ScriptError}
    (failed : ((Instance.forOptionalSession script session options).run link firstId queue).result =
      .error (.fatal cause)) :
    (∀ key, cause ≠ .missingKey key) ∧ Protocol.FatalCause script options cause := by
  obtain ⟨effective, made, same⟩ := exists_options_of_session script session options
  rw [made] at failed
  obtain ⟨done, step, rest, reached, marks, nextId, steps, completes, faults⟩ :=
    exists_faults_of_fatal failed
  have fatal := (Protocol.fatalCause_of_faults member steps completes faults).congr same
  refine ⟨?_, fatal⟩
  rintro key rfl
  cases fatal

/-- A document that the options do not give. -/
def absentDocument : Options :=
  .ofList [("source_type", .str "html"), ("cookie", .null)]

/-- The cookie is set and the frame is named, and then the document is lacking. -/
theorem absentDocument_fatal :
    let arrivals : List Arrival :=
      [.message (.response 1 none none), .message (.response 2
        (some (.object [("frameTree", .object [("frame", .object [("id", .str "F")])])])) none)]
    ((Instance.forOptionalSession Protocol.captureScreenshot (some "S") absentDocument).run {} 1
        arrivals).result = .error (.fatal (.missingPath ["html"] "state")) ∧
      Protocol.FatalCause Protocol.captureScreenshot absentDocument
        (.missingPath ["html"] "state") := by
  intro arrivals
  have failed : ((Instance.forOptionalSession Protocol.captureScreenshot (some "S")
      absentDocument).run {} 1 arrivals).result =
      .error (.fatal (.missingPath ["html"] "state")) := rfl
  exact ⟨failed, (fatal_errors_of_mem_catalog (by simp [Protocol.catalog]) (some "S")
    absentDocument {} 1 arrivals failed).2⟩

end Dialogue

import Dialogue.Proofs.Protocol.Parts
import Dialogue.Proofs.Run.Completion
/-!
# One list of steps after another

Executing a list of steps that is put together from two is executing the first and then, unless that
has ended the run, the second: from the state, the next id and the arrivals that the first has left.
A run that has ended is not gone on with, so the second list does not matter to it at all.

Splicing one script after another puts their steps together under all options, so this is what
splicing means.  The scripts that capture content begin with the steps that load it: they fail as
loading fails, and else go on from where loading has come to.
-/

namespace Dialogue

/-- The report of a run that is gone on with after this report, unless it has ended already. -/
def Report.andThen (report : Report) (continued : State → CallId → List Arrival → Report) :
    Report :=
  match report.finish with
  | .done =>
      let later := continued report.state report.nextId report.remaining
      { later with
        sent := report.sent ++ later.sent
        warnings := report.warnings ++ later.warnings }
  | .output _ => report
  | .stopped _ => report

namespace Report

variable {report : Report} {continued : State → CallId → List Arrival → Report}

/-- A run that returned a value is not gone on with. -/
theorem andThen_of_output {value : Json} (returned : report.finish = .output value) :
    report.andThen continued = report := by
  rw [andThen, returned]

/-- A run that was stopped is not gone on with. -/
theorem andThen_of_stopped {error : RunError} (stopped : report.finish = .stopped error) :
    report.andThen continued = report := by
  rw [andThen, stopped]

/-- A run whose steps were all done is gone on with where it has come to. -/
theorem andThen_of_done (done : report.finish = .done) :
    report.andThen continued =
      let later := continued report.state report.nextId report.remaining
      { later with
        sent := report.sent ++ later.sent
        warnings := report.warnings ++ later.warnings } := by
  rw [andThen, done]

/-- The frames of the second part, if it comes to be executed, follow those of the first. -/
theorem sent_andThen (report : Report) (continued : State → CallId → List Arrival → Report) :
    (report.andThen continued).sent = report.sent ∨
      (report.andThen continued).sent =
        report.sent ++ (continued report.state report.nextId report.remaining).sent := by
  rw [andThen]
  cases report.finish with
  | done => exact .inr rfl
  | output value => exact .inl rfl
  | stopped error => exact .inl rfl

/-- Where the first part returns nothing, the value comes from the second one. -/
theorem of_andThen_result_ok {value : Json} (silent : ∀ value, report.finish ≠ .output value)
    (returned : (report.andThen continued).result = .ok value) :
    (continued report.state report.nextId report.remaining).result = .ok value ∧
      (report.andThen continued).sent =
        report.sent ++ (continued report.state report.nextId report.remaining).sent := by
  cases finished : report.finish with
  | output value => exact absurd finished (silent value)
  | stopped error =>
      rw [andThen_of_stopped finished, result, finished] at returned
      cases returned
  | done =>
      rw [andThen_of_done finished] at returned ⊢
      exact ⟨returned, rfl⟩

/-- A frame that was sent before both parts was sent before the first one. -/
theorem andThen_afterSending (report : Report)
    (continued : State → CallId → List Arrival → Report) (frame : Json) :
    (report.afterSending frame).andThen continued =
      (report.andThen continued).afterSending frame := by
  rw [andThen, andThen]
  cases finished : report.finish <;> simp [afterSending, finished]

/-- Warnings that were given before both parts were given before the first one. -/
theorem andThen_afterWarnings (report : Report)
    (continued : State → CallId → List Arrival → Report) (warnings : List Warning) :
    (report.afterWarnings warnings).andThen continued =
      (report.andThen continued).afterWarnings warnings := by
  rw [andThen, andThen]
  cases finished : report.finish <;> simp [afterWarnings, finished]

end Report

/-- Executing steps and then others is executing the others after the report of the first ones. -/
theorem execute_append (link : Link) (first second : List Step) (state : State) (nextId : CallId)
    (queue : List Arrival) :
    execute link (first ++ second) state nextId queue =
      (execute link first state nextId queue).andThen (execute link second) := by
  induction first generalizing state nextId queue with
  | nil => simp [execute, Report.andThen]
  | cons step rest inductionHypothesis =>
      obtain ⟨name, action⟩ := step
      rw [List.cons_append, execute, execute]
      cases action with
      | call spec =>
          simp only [CallId.draw_eq]
          cases issued : spec.issue state nextId with
          | error cause => rfl
          | ok outcome =>
              obtain ⟨next, call⟩ := outcome
              cases listening : link.peerListens with
              | true =>
                  simp only [if_true]
                  rw [inductionHypothesis, Report.andThen_afterSending]
              | false => rfl
      | output spec =>
          cases projected : spec.project state with
          | error cause => simp only [projected]; rfl
          | ok value => simp only [projected]; rfl
      | await handler =>
          cases ended : (awaitStep link name handler state queue).ended with
          | stopped error reached => simp only [ended]; rfl
          | satisfied next =>
              simp only [ended]
              rw [inductionHypothesis, Report.andThen_afterWarnings]

/-- Steps none of which is an output return nothing. -/
theorem finish_ne_output {link : Link} {subject : Instance} {firstId : CallId}
    {queue : List Arrival} (silent : ∀ step ∈ subject.steps, step.action.kind ≠ "output")
    (value : Json) : (subject.run link firstId queue).finish ≠ .output value := by
  obtain ⟨last, finish, reached, halt, same, _⟩ := run_halts link subject firstId queue
  obtain ⟨done, marks, consumed, past⟩ := exists_past_of_reaches reached
  have steps : subject.steps = done ++ last.steps := past.steps
  rw [same]
  rintro rfl
  cases halt with
  | @output name spec rest value pending projected =>
      exact silent ⟨name, .output spec⟩ (by simp [steps, pending]) rfl

/-- A sequence of two scripts is built whatever they are, and has the steps of both. -/
theorem build_two_spliced (name : String) (first second : Script) :
    ∃ both, Script.build name [first.spliced, second.spliced] = .ok both ∧
      ∀ options, both.steps options = first.steps options ++ second.steps options := by
  refine ⟨⟨name, [first.spliced, second.spliced]⟩, rfl, fun options => ?_⟩
  simp [Script.steps, Script.spliced, scan_cons, scanElements, Element.steps, Element.skippingAfter]

section
variable {script : Script} (link : Link) (options : Options) (firstId : CallId)
  (queue : List Arrival)

/-- A script that loads content and more does the rest after loading. -/
theorem run_eq_andThen_of_loads (loads : script ∈ Protocol.loadingScripts) :
    (Instance.new script options).run link firstId queue =
      ((Instance.new Protocol.navigate options).run link firstId queue).andThen
        (execute link (script.steps .empty)) := by
  have steps : (Instance.new script options).steps =
      Protocol.navigate.steps options ++ script.steps .empty :=
    Protocol.steps_eq_append loads options
  rw [Instance.run, steps, execute_append]
  rfl

/-- Loading that ends well has done all its steps, and returns null. -/
theorem finish_of_loaded {value : Json}
    (loaded : ((Instance.new Protocol.navigate options).run link firstId queue).result =
      .ok value) :
    ((Instance.new Protocol.navigate options).run link firstId queue).finish = .done ∧
      value = .null := by
  have silent : ∀ step ∈ (Instance.new Protocol.navigate options).steps,
      step.action.kind ≠ "output" :=
    fun step member => (Protocol.not_captures_of_mem_navigate member).1
  rw [Report.result] at loaded
  cases finished : ((Instance.new Protocol.navigate options).run link firstId queue).finish with
  | output returned => exact absurd finished (finish_ne_output silent returned)
  | stopped error => simp [finished] at loaded
  | done =>
      simp only [finished, Except.ok.injEq] at loaded
      exact ⟨rfl, loaded.symm⟩

end

/-- Executing one script after another is sequential composition.  Two scripts can be spliced into
one whatever they are, and under all options its steps are those of the first and then those of the
second.  Steps that are put together from two lists do exactly what those of the first do if these
return a value or are stopped: the end, the frames, the warnings, the arrivals left and the next id
are the same, and nothing of the second list is executed.  Else the second list is executed from the
state, the next id and the arrivals that the first has left, and its frames follow.  So capturing
content ends as loading does where loading fails, and where loading succeeds, which it does with
null, its frames come first and capturing goes on with the rest. -/
theorem execution_composes :
    (∀ (name : String) (first second : Script),
      ∃ both, Script.build name [first.spliced, second.spliced] = .ok both ∧
        ∀ options, both.steps options = first.steps options ++ second.steps options) ∧
    (∀ (link : Link) (first second : List Step) (state : State) (nextId : CallId)
        (queue : List Arrival),
      let one := execute link first state nextId queue
      let two := execute link second one.state one.nextId one.remaining
      let both := execute link (first ++ second) state nextId queue
      (one.finish ≠ .done → both = one) ∧
        (one.finish = .done →
          both =
            { two with
              sent := one.sent ++ two.sent
              warnings := one.warnings ++ two.warnings })) ∧
    ∀ script ∈ [Protocol.printToPdf, Protocol.captureScreenshot],
      ∀ (session : Option String) (options : Options) (link : Link) (firstId : CallId)
        (queue : List Arrival),
        let loading :=
          (Instance.forOptionalSession Protocol.navigate session options).run link firstId queue
        let capturing :=
          execute link (script.steps .empty) loading.state loading.nextId loading.remaining
        let whole := (Instance.forOptionalSession script session options).run link firstId queue
        (∀ error, loading.result = .error error → whole = loading) ∧
          ∀ value, loading.result = .ok value →
            value = .null ∧
              whole =
                { capturing with
                  sent := loading.sent ++ capturing.sent
                  warnings := loading.warnings ++ capturing.warnings } := by
  refine ⟨build_two_spliced, ?_, ?_⟩
  · intro link first second state nextId queue one two both
    have appended : both = one.andThen (execute link second) :=
      execute_append link first second state nextId queue
    constructor
    · intro ended
      rw [appended]
      cases finished : one.finish with
      | output value => exact Report.andThen_of_output finished
      | stopped error => exact Report.andThen_of_stopped finished
      | done => exact absurd finished ended
    · intro done
      rw [appended]
      exact Report.andThen_of_done done
  · intro script captures session options link firstId queue
    have loads : script ∈ Protocol.loadingScripts := List.mem_cons_of_mem _ captures
    -- A session is one more option, the same one for both scripts.
    obtain ⟨effective, made⟩ : ∃ effective, ∀ script : Script,
        Instance.forOptionalSession script session options = .new script effective := by
      cases session with
      | none => exact ⟨options, fun _ => rfl⟩
      | some session => exact ⟨options.insert sessionIdKey (.str session), fun _ => rfl⟩
    simp only [made]
    rw [run_eq_andThen_of_loads link effective firstId queue loads]
    constructor
    · intro error failed
      exact Report.andThen_of_stopped (Report.finish_of_result_error failed)
    · intro value loaded
      obtain ⟨done, null⟩ := finish_of_loaded link effective firstId queue loaded
      exact ⟨null, Report.andThen_of_done done⟩

/-- Options of a page that is printed. -/
def pageOptions : Options :=
  .ofList [("source_type", .str "url"), ("url", .str "https://example.com")]

/-- The page cannot be found; an arrival is left. -/
def refusedArrivals : List Arrival :=
  [.message (.response 7 (some (.object [("errorText", .str "net::ERR_NAME_NOT_RESOLVED")])) none),
    .message (.response 8 none none)]

/-- The page is loaded and then printed. -/
def printedArrivals : List Arrival :=
  [.message (.response 7 (some (.object [("frameId", .str "F")])) none),
    .message
      (.notification "Page.frameStoppedLoading" (.object [("frameId", .str "F")]) (some "S")),
    .message (.response 8 (some (.object [("data", .str "JVBERg==")])) none)]

/-- Printing fails where loading does, and prints what was loaded where loading succeeds. -/
theorem printing_composes :
    let loading := Instance.forOptionalSession Protocol.navigate (some "S") pageOptions
    let printing := Instance.forOptionalSession Protocol.printToPdf (some "S") pageOptions
    printing.run {} 7 refusedArrivals = loading.run {} 7 refusedArrivals ∧
      (printing.run {} 7 refusedArrivals).remaining.length = 1 ∧
      (printing.run {} 7 printedArrivals).result = .ok (.str "JVBERg==") ∧
      ∃ frame, (printing.run {} 7 printedArrivals).sent =
        (loading.run {} 7 printedArrivals).sent ++ [frame] := by
  have composes :=
    execution_composes.2.2 Protocol.printToPdf (by simp) (some "S") pageOptions {} 7
  obtain ⟨onFailure, _⟩ := composes refusedArrivals
  obtain ⟨_, onSuccess⟩ := composes printedArrivals
  obtain ⟨_, printed⟩ := onSuccess .null rfl
  refine ⟨onFailure _ rfl, rfl, rfl, ?_⟩
  rw [printed]
  exact ⟨_, rfl⟩

end Dialogue

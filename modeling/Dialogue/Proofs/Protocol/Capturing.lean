import Dialogue.Proofs.Protocol.Loading
import Dialogue.Proofs.Run.Sequence
import Dialogue.Proofs.Run.Exchange
import Dialogue.Proofs.Table.Ascending
/-!
# Captures

A script that captures content loads it first and then makes one more call.  The parameters of this
call come from three places: a flag among the options goes before the option that holds parameters,
and that goes before what is given anyway.  Loading writes nothing of what they are taken from, so
they are told by the options alone (`Capture.param?`), whatever is received.

The call is the last one of a run, and it is not made at all where the option holds something that
is no object.  A run returns what the response to this call holds as its data.
-/

namespace Dialogue

namespace Protocol

/-- What is captured by a script after it has loaded content. -/
structure Capture where
  script : Script
  /-- The name of the call, and of the option that holds parameters for it. -/
  name : String
  method : String
  awaiting : String
  /-- A parameter that is given unless the option holds another value for it. -/
  fallback : String × Json
  /-- An option that is given as a parameter of the same name if it is true. -/
  flag? : Option String := none

def printing : Capture where
  script := printToPdf
  name := "print_to_pdf"
  method := "Page.printToPDF"
  awaiting := "printed"
  fallback := ("printBackground", .bool true)
  flag? := some "landscape"

def screenshot : Capture where
  script := captureScreenshot
  name := "capture_screenshot"
  method := "Page.captureScreenshot"
  awaiting := "captured"
  fallback := ("format", .str "png")

/-- What the built-in scripts capture. -/
def captures : List Capture :=
  [printing, screenshot]

namespace Capture

/-- The key is the flag of the capture, and it is set among some values. -/
def Flagged (capture : Capture) (values : Table Json) (key : String) : Prop :=
  capture.flag? = some key ∧ (values.get? key).bind Json.asBool? = some true

instance (capture : Capture) (values : Table Json) (key : String) :
    Decidable (capture.Flagged values key) :=
  inferInstanceAs (Decidable (_ ∧ _))

/-- The parameter of the call at a key, as some values tell it: true for a flag that is set, else
what the option holds, else the fallback. -/
def param? (capture : Capture) (values : Table Json) (key : String) : Option Json :=
  if capture.Flagged values key then some (.bool true)
  else ((values.get? capture.name).bind (·.field? key)).or
    (if key = capture.fallback.1 then some capture.fallback.2 else none)

/-- These parameters, and true for a flag that is set. -/
def flagging (capture : Capture) (values params : Table Json) : Table Json :=
  match capture.flag? with
  | none => params
  | some flag =>
      if capture.Flagged values flag then params.insert flag (.bool true) else params

/-- The rule by which the parameters of the call are computed. -/
def rule (capture : Capture) : ParamRule := fun state =>
  (objectOption state capture.name).map (capture.flagging state.values)

/-- The call of a capture. -/
def spec (capture : Capture) : CallSpec where
  method := capture.method
  params := .computed capture.rule
  defaults := .ofList [capture.fallback]

/-- The steps that follow on loading. -/
def steps (capture : Capture) : List Step :=
  [⟨capture.name, .call capture.spec⟩,
    ⟨capture.awaiting, .await (.response { extract := [.bare "data"] })⟩,
    ⟨"data", .output (.single "data")⟩]

end Capture

/-! ### What the built-in captures do -/

variable {capture : Capture} {state : State} {options : Options} {members params : Table Json}

/-- The parameters of printing are computed by the rule of a capture. -/
theorem printParams_eq_rule : printParams = printing.rule := by
  funext state
  rw [printParams, Capture.rule]
  cases asked : objectOption state "print_to_pdf" with
  | error cause => simp [printing, asked, bind, Except.bind, Except.map]
  | ok members =>
      simp only [printing, asked, bind, Except.bind, pure, Except.pure, Except.map,
        Capture.flagging, Capture.Flagged, true_and]
      cases given : state.get? "landscape" with
      | none =>
          have absent : state.values.get? "landscape" = none := given
          simp [absent]
      | some value =>
          have present : state.values.get? "landscape" = some value := given
          cases value with
          | bool raised => cases raised <;> simp [present, Json.asBool?]
          | _ => simp [present, Json.asBool?]

/-- The parameters of a screenshot are computed by the rule of a capture. -/
theorem objectOption_eq_rule : (objectOption · "capture_screenshot") = screenshot.rule := by
  funext state
  rw [Capture.rule]
  cases asked : objectOption state "capture_screenshot" <;>
    simp [screenshot, asked, Except.map, Capture.flagging]

theorem mem_loadingScripts_of_mem_captures (known : capture ∈ captures) :
    capture.script ∈ loadingScripts := by
  simp only [captures, List.mem_cons, List.not_mem_nil, or_false] at known
  rcases known with rfl | rfl <;> simp [printing, screenshot, loadingScripts]

theorem mem_captureMethods_of_mem_captures (known : capture ∈ captures) :
    capture.method ∈ captureMethods := by
  revert capture
  decide

/-- After loading, the script of a capture has its steps. -/
theorem steps_of_mem_captures (known : capture ∈ captures) :
    capture.script.steps .empty = capture.steps := by
  simp only [captures, List.mem_cons, List.not_mem_nil, or_false] at known
  rcases known with rfl | rfl
  · rw [Capture.steps, Capture.spec, ← printParams_eq_rule]
    rfl
  · rw [Capture.steps, Capture.spec, ← objectOption_eq_rule]
    rfl

/-- Loading writes nothing of what the parameters are taken from. -/
theorem not_mem_writtenKeys_of_mem_captures (known : capture ∈ captures) {key : String}
    (used : key = capture.name ∨ capture.flag? = some key) :
    key ∉ navigate.writtenKeys ∧
      key ∉ [lastCallIdKey, sessionIdKey, Policy.exceptionKey, Policy.consoleKey] := by
  simp only [captures, List.mem_cons, List.not_mem_nil, or_false] at known
  rcases known with rfl | rfl <;> rcases used with rfl | flag
  · decide
  · cases flag
    decide
  · decide
  · cases flag

/-! ### The parameters of a capture -/

/-- An object that is asked for holds what the option holds, in order. -/
theorem of_objectOption_ok {key : String} (asked : objectOption state key = .ok members) :
    ((∀ given, state.get? key = some (.obj given) → given.Ascending) → members.Ascending) ∧
      ∀ name, members.get? name = (state.get? key).bind (·.field? name) := by
  rw [objectOption] at asked
  cases given : state.get? key with
  | none =>
      simp only [given, Except.ok.injEq] at asked
      subst asked
      exact ⟨fun _ => Table.Ascending.empty, fun _ => rfl⟩
  | some value =>
      cases value with
      | null =>
          simp only [given, Except.ok.injEq] at asked
          subst asked
          exact ⟨fun _ => Table.Ascending.empty, fun _ => rfl⟩
      | obj held =>
          simp only [given, Except.ok.injEq] at asked
          subst asked
          exact ⟨fun ascending => ascending held rfl, fun _ => rfl⟩
      | _ => simp [given] at asked

/-- An option that is neither an object nor null is refused. -/
theorem objectOption_of_not_object {key : String} {given : Json}
    (present : state.get? key = some given) (notNull : given ≠ .null)
    (notObject : given.asObject? = none) :
    objectOption state key = .error (.invalidOption key given) := by
  rw [objectOption, present]
  cases given with
  | null => exact absurd rfl notNull
  | obj members => cases notObject
  | _ => rfl

namespace Capture

/-- A flag that is set goes before the parameter that it replaces. -/
theorem get?_flagging (capture : Capture) (values params : Table Json) (key : String) :
    (capture.flagging values params).get? key =
      if capture.Flagged values key then some (.bool true) else params.get? key := by
  rw [flagging]
  cases declared : capture.flag? with
  | none => simp [Flagged, declared]
  | some flag =>
      by_cases named : key = flag
      · subst named
        by_cases set : capture.Flagged values key <;> simp [set]
      · have other : ¬capture.Flagged values key := by
          rintro ⟨same, _⟩
          exact named (Option.some.inj (same.symm.trans declared))
        by_cases set : capture.Flagged values flag <;>
          simp [set, other, Table.get?_insert_of_ne params named]

theorem ascending_flagging (capture : Capture) (values : Table Json)
    (ascending : params.Ascending) : (capture.flagging values params).Ascending := by
  rw [flagging]
  split
  · exact ascending
  · split
    · exact ascending.insert _ _
    · exact ascending

/-- Resolved parameters are those that the values of the state tell. -/
theorem get?_of_resolved
    (resolved : resolveParams state capture.spec.params capture.spec.defaults = .ok params)
    (ascending : ∀ given, state.get? capture.name = some (.obj given) → given.Ascending)
    (key : String) : params.get? key = capture.param? state.values key := by
  obtain ⟨yielded, computed, rfl⟩ := resolveParams_eq_ok resolved
  change capture.rule state = .ok yielded at computed
  rw [rule] at computed
  cases asked : objectOption state capture.name with
  | error cause => simp [asked, Except.map] at computed
  | ok held =>
      simp only [asked, Except.map, Except.ok.injEq] at computed
      subst computed
      obtain ⟨inOrder, holds⟩ := of_objectOption_ok asked
      have fallback : capture.spec.defaults.get? key =
          if key = capture.fallback.1 then some capture.fallback.2 else none :=
        Table.get?_insert .empty _ key _
      rw [Table.Ascending.get?_overlay (capture.ascending_flagging _ (inOrder ascending)),
        get?_flagging, fallback, holds, param?]
      by_cases set : capture.Flagged state.values key
      · rw [if_pos set, if_pos set]
        rfl
      · rw [if_neg set, if_neg set]
        rfl

/-- The parameters are the same where the option and the flag are. -/
theorem param?_congr {one other : Table Json}
    (same : ∀ key, key = capture.name ∨ capture.flag? = some key → one.get? key = other.get? key)
    (key : String) : capture.param? one key = capture.param? other key := by
  have flagged : capture.Flagged one key ↔ capture.Flagged other key := by
    rw [Flagged, Flagged]
    exact and_congr_right fun declared => by rw [same key (.inr declared)]
  rw [param?, param?, same _ (.inl rfl)]
  simp only [flagged]

/-! ### What follows on loading -/

section
variable (link : Link) (nextId : CallId) (queue : List Arrival)

/-- The steps of a capture send its call, with the parameters that the state tells, or nothing. -/
theorem sent_cases
    (ascending : ∀ given, state.get? capture.name = some (.obj given) → given.Ascending) :
    (execute link capture.steps state nextId queue).sent = [] ∨
      ∃ params, (∀ key, params.get? key = capture.param? state.values key) ∧
        (execute link capture.steps state nextId queue).sent =
          [Call.toFrame ⟨capture.method, params, state.sessionId?⟩ nextId] := by
  have silent : calledMethods capture.steps.tail = [] := rfl
  have sends : (execute link capture.steps state nextId queue).sent = [] ∨ _ :=
    sent_of_one_call silent
  rcases sends with nothing | ⟨params, resolved, sent⟩
  · exact .inl nothing
  · exact .inr ⟨params, get?_of_resolved resolved ascending, sent⟩

/-- Nothing is sent and nothing returned where the option is neither an object nor null. -/
theorem refused_of_not_object {given : Json} (present : state.get? capture.name = some given)
    (notNull : given ≠ .null) (notObject : given.asObject? = none) :
    (execute link capture.steps state nextId queue).sent = [] ∧
      ∀ value, (execute link capture.steps state nextId queue).result ≠ .ok value := by
  have refused : capture.rule state = .error (.invalidOption capture.name given) := by
    rw [rule, objectOption_of_not_object present notNull notObject]
    rfl
  have unissued : capture.spec.issue state nextId = .error (.invalidOption capture.name given) := by
    rw [issue_eq_error_iff, resolveParams_eq_error_iff]
    exact refused
  simp [steps, execute, unissued, Report.result]

/-- What is returned is the data that the first response to the call holds. -/
theorem data_of_returned {value : Json}
    (returned : (execute link capture.steps state nextId queue).result = .ok value) :
    ∃ params payload later, Answered nextId (some payload) none queue later ∧
      payload.field? "data" = some value ∧
      (execute link capture.steps state nextId queue).sent =
        [Call.toFrame ⟨capture.method, params, state.sessionId?⟩ nextId] := by
  rw [steps] at returned
  obtain ⟨params, payload, field, later, _, answered, held, continued, sent⟩ :=
    exchange_of_one_field rfl returned
  obtain ⟨projected, nothingMore⟩ := project_of_result_ok continued
  rw [OutputSpec.project, State.fetch, State.get?_insert, if_pos rfl] at projected
  cases projected
  rw [nothingMore] at sent
  exact ⟨params, payload, later, answered, held, sent⟩

end

end Capture

/-! ### What loading leaves -/

/-- What a run that captures has come to by loading: it has returned nothing, has not called for the
capture, and holds what the capture is told by as the options say it. -/
structure Capture.Loaded (capture : Capture) (options : Options) (loading : Report) : Prop where
  silent : ∀ value, loading.finish ≠ .output value
  unsent : ∀ frame ∈ loading.sent, frame.method? ≠ some capture.method
  same : ∀ key, key = capture.name ∨ capture.flag? = some key →
    loading.state.get? key = options.get? key

/-- Loading sends no frame that captures. -/
theorem method?_ne_of_mem_loading (link : Link) (firstId : CallId) (queue : List Arrival)
    {frame : Json} (member : frame ∈ ((Instance.new navigate options).run link firstId queue).sent)
    {method : String} (captures : method ∈ captureMethods) : frame.method? ≠ some method := by
  intro calls
  obtain ⟨last, finish, reached, _, _, sent⟩ :=
    run_halts link (.new navigate options) firstId queue
  obtain ⟨done, marks, consumed, past⟩ := exists_past_of_reaches reached
  have steps : navigate.steps options = done ++ last.steps := past.steps
  obtain ⟨step, inDone, declares⟩ := past.exists_calling_step rfl (sent ▸ member) calls
  have inLoading : step ∈ navigate.steps options :=
    steps ▸ List.mem_append_left last.steps inDone
  exact (not_captures_of_mem_navigate inLoading).2 _ captures declares

/-- Loading leaves all that as it has to be, and the session makes no difference to it. -/
theorem Capture.loaded (known : capture ∈ captures) {effective : Options}
    (sameOptions : ∀ key, key ≠ sessionIdKey → effective.get? key = options.get? key)
    (link : Link) (firstId : CallId) (queue : List Arrival) :
    capture.Loaded options ((Instance.new navigate effective).run link firstId queue) where
  silent := finish_ne_output fun _ member => (not_captures_of_mem_navigate member).1
  unsent := fun _ member =>
    method?_ne_of_mem_loading link firstId queue member (mem_captureMethods_of_mem_captures known)
  same := by
    intro key used
    obtain ⟨unwritten, apart⟩ := not_mem_writtenKeys_of_mem_captures known used
    simp only [List.mem_cons, List.not_mem_nil, or_false, not_or] at apart
    obtain ⟨noCallId, noSession, noException, noConsole⟩ := apart
    rw [get?_state_of_run link _ firstId queue noCallId
      (spares_of_not_mem_writtenKeys unwritten effective), ← sameOptions key noSession]
    exact get?_initialState effective noException noConsole

/-- An element that is not among those before the last one is the last one. -/
theorem eq_nil_of_concat_eq {α : Type} {one other : α} {front before after : List α}
    (same : front ++ [one] = before ++ other :: after) (apart : other ∉ front) :
    after = [] ∧ other = one := by
  rcases List.eq_nil_or_concat after with rfl | ⟨init, last, rfl⟩
  · exact ⟨rfl, (List.singleton_inj.mp (List.append_inj_right' same rfl)).symm⟩
  · rw [List.concat_eq_append, ← List.cons_append, ← List.append_assoc] at same
    refine absurd ?_ apart
    rw [List.append_inj_left' same rfl]
    exact List.mem_append_right before List.mem_cons_self

namespace Capture.Loaded

variable {loading : Report} {link : Link} {frame : Json}

/-- The call of a capture is the last one, and the options tell its parameters. -/
theorem told (loaded : capture.Loaded options loading)
    (ascending : ∀ given, options.get? capture.name = some (.obj given) → given.Ascending)
    {before after : List Json}
    (sent : (loading.andThen (execute link capture.steps)).sent = before ++ frame :: after)
    (calls : frame.method? = some capture.method) :
    after = [] ∧ ∃ params, frame.field? "params" = some (.obj params) ∧
      ∀ key, params.get? key = capture.param? options key := by
  have apart : frame ∉ loading.sent := fun member => loaded.unsent frame member calls
  have member : frame ∈ (loading.andThen (execute link capture.steps)).sent := by
    rw [sent]
    exact List.mem_append_right before List.mem_cons_self
  have inOrder : ∀ given, loading.state.get? capture.name = some (.obj given) →
      given.Ascending := by
    rw [loaded.same _ (.inl rfl)]
    exact ascending
  rcases Report.sent_andThen loading (execute link capture.steps) with unchanged | captured
  · exact absurd (unchanged ▸ member) apart
  · rcases Capture.sent_cases link loading.nextId loading.remaining inOrder with
      nothing | ⟨params, told, once⟩
    · rw [nothing, List.append_nil] at captured
      exact absurd (captured ▸ member) apart
    · rw [once] at captured
      obtain ⟨last, rfl⟩ := eq_nil_of_concat_eq (captured.symm.trans sent) apart
      refine ⟨last, params, field?_params_toFrame _ _, fun key => ?_⟩
      rw [told key]
      exact Capture.param?_congr loaded.same key

/-- Where the option is neither an object nor null, the capture is not called for, and nothing is
returned. -/
theorem refused (loaded : capture.Loaded options loading) {given : Json}
    (present : options.get? capture.name = some given) (notNull : given ≠ .null)
    (notObject : given.asObject? = none) :
    (∀ frame ∈ (loading.andThen (execute link capture.steps)).sent,
        frame.method? ≠ some capture.method) ∧
      ∀ value, (loading.andThen (execute link capture.steps)).result ≠ .ok value := by
  have held := (loaded.same _ (.inl rfl)).trans present
  obtain ⟨nothing, noValue⟩ :=
    Capture.refused_of_not_object link loading.nextId loading.remaining held notNull notObject
  constructor
  · rcases Report.sent_andThen loading (execute link capture.steps) with unchanged | captured
    · rw [unchanged]
      exact loaded.unsent
    · rw [captured, nothing, List.append_nil]
      exact loaded.unsent
  · intro value returned
    exact noValue value (Report.of_andThen_result_ok loaded.silent returned).1

/-- What is returned is the data of the first response to the last frame, which calls for the
capture, after loading. -/
theorem data (loaded : capture.Loaded options loading) {value : Json}
    (returned : (loading.andThen (execute link capture.steps)).result = .ok value) :
    ∃ frame id payload later,
      (loading.andThen (execute link capture.steps)).sent.getLast? = some frame ∧
      frame.method? = some capture.method ∧ frame.callId? = some id ∧
      Answered id (some payload) none loading.remaining later ∧
      payload.field? "data" = some value := by
  obtain ⟨continued, sent⟩ := Report.of_andThen_result_ok loaded.silent returned
  obtain ⟨params, payload, later, answered, held, captured⟩ :=
    Capture.data_of_returned link loading.nextId loading.remaining continued
  rw [sent, captured]
  exact ⟨_, loading.nextId, payload, later, List.getLast?_concat, method?_toFrame _ _,
    callId?_toFrame _ _, answered, held⟩

end Capture.Loaded

end Protocol

/-! ### Whole runs -/

/-- Captures are what the options tell and what the other side answers.  Let content be loaded and
then captured, in any session, under any options and whatever the run receives.  A frame that calls
for the capture is the last one that is sent, and at every key its parameters are what the options
tell: true for a flag that is set, else what the option of the capture holds, else what is given
anyway, else nothing.  If that option is there and is neither null nor an object, no such frame is
sent and no value is returned.  A value that is returned is the data in the result of a response
that has the id of the last frame, which calls for the capture, and no error.  An object that the
option holds has its members in order, as every object has that is read or built. -/
theorem captures_as_told {capture : Protocol.Capture} (known : capture ∈ Protocol.captures)
    (session : Option String) (options : Options) (link : Link) (firstId : CallId)
    (queue : List Arrival)
    (ascending : ∀ given, options.get? capture.name = some (.obj given) → given.Ascending) :
    let report := (Instance.forOptionalSession capture.script session options).run link firstId queue
    (∀ before frame after, report.sent = before ++ frame :: after →
        frame.method? = some capture.method →
        after = [] ∧ ∃ params, frame.field? "params" = some (.obj params) ∧
          ∀ key, params.get? key = capture.param? options key) ∧
      (∀ given, options.get? capture.name = some given → given ≠ .null →
        given.asObject? = none →
        (∀ frame ∈ report.sent, frame.method? ≠ some capture.method) ∧
          ∀ value, report.result ≠ .ok value) ∧
      ∀ value, report.result = .ok value →
        ∃ frame id payload, report.sent.getLast? = some frame ∧
          frame.method? = some capture.method ∧ frame.callId? = some id ∧
          .message (.response id (some payload) none) ∈ queue ∧
          payload.field? "data" = some value := by
  obtain ⟨effective, made, same⟩ := exists_options_of_session capture.script session options
  have loaded := Protocol.Capture.loaded known same link firstId queue
  have left := remaining_suffix_of_run link (.new Protocol.navigate effective) firstId queue
  have composed := run_eq_andThen_of_loads link effective firstId queue
    (Protocol.mem_loadingScripts_of_mem_captures known)
  rw [Protocol.steps_of_mem_captures known] at composed
  rw [made, composed]
  refine ⟨fun _ _ _ sent calls => loaded.told ascending sent calls,
    fun _ present notNull notObject => loaded.refused present notNull notObject, ?_⟩
  intro value returned
  obtain ⟨frame, id, payload, later, last, calls, numbered, ⟨earlier, queued, _⟩, held⟩ :=
    loaded.data returned
  refine ⟨frame, id, payload, last, calls, numbered, left.mem ?_, held⟩
  rw [queued]
  exact List.mem_append_right earlier List.mem_cons_self

/-- Options of a page that is printed in landscape format, although its option says otherwise. -/
def landscapeOptions : Options :=
  (printingOptions.insert "landscape" (.bool true)).insert "print_to_pdf"
    (.object [("landscape", .bool false), ("printBackground", .bool false)])

/-- The flag goes before the option and the option before what is given anyway. -/
theorem landscape_page_printed :
    let report :=
      (Instance.forOptionalSession Protocol.printToPdf (some "S") landscapeOptions).run {} 1
        printingArrivals
    report.result = .ok (.str "JVBERg==") ∧
      ∃ frame params, report.sent.getLast? = some frame ∧
        frame.method? = some "Page.printToPDF" ∧ frame.field? "params" = some (.obj params) ∧
        params.get? "landscape" = some (.bool true) ∧
        params.get? "printBackground" = some (.bool false) ∧ params.get? "scale" = none := by
  intro report
  have ascending : ∀ given, landscapeOptions.get? Protocol.printing.name = some (.obj given) →
      given.Ascending := by
    intro given present
    cases present
    exact (Table.Ascending.empty.insert _ _).insert _ _
  have known : Protocol.printing ∈ Protocol.captures := List.mem_cons_self
  obtain ⟨params, _, data⟩ :=
    captures_as_told known (some "S") landscapeOptions {} 1 printingArrivals ascending
  have returned : report.result = .ok (.str "JVBERg==") := rfl
  obtain ⟨frame, _, _, last, calls, _⟩ := data _ returned
  obtain ⟨before, sent⟩ := List.getLast?_eq_some_iff.mp last
  obtain ⟨_, given, held, told⟩ := params before frame [] sent calls
  exact ⟨returned, frame, given, last, calls, held, told "landscape", told "printBackground",
    told "scale"⟩

end Dialogue

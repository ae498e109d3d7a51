import Dialogue.Proofs.Protocol.Parts
import Dialogue.Proofs.Run.Completion
/-!
# What a successful load shows

A script that loads content succeeds, or goes on to capture it, only after the other side has said
that the content is there.  For an address that is the response to the navigation, which names a
frame and no error, and then the event that this frame of the session has stopped loading.  For a
document it is the response that names the main frame, the response to filling that frame with the
document, and then the event that the session has loaded a page.  An expression that is to be
awaited has been evaluated after that without an exception.

Every wait is satisfied by a message that is tied to the frame sent before it or to the session, so
no reordered, repeated, foreign or failed message stands in for any of these.
-/

namespace Dialogue

/-- Exactly one of the frames calls this method, and it is this one. -/
def SentOnce (sent : List Json) (method : String) (frame : Json) : Prop :=
  sent.filter (fun other => other.method? = some method) = [frame]

/-- The messages that show that an address was loaded in a session. -/
inductive AddressLoaded (session : Option String) (sent : List Json) : List Message → Prop where
  | intro {id : CallId} {frame result params frameId stopped : Json}
      (called : SentOnce sent "Page.navigate" frame)
      (numbered : frame.callId? = some id)
      (named : result.field? "frameId" = some frameId)
      (clean : result.field? "errorText" = none)
      (loaded : params.field? "frameId" = some stopped)
      (same : (stopped == frameId) = true) :
      AddressLoaded session sent
        [.response id (some result) none, .notification "Page.frameStoppedLoading" params session]

/-- The messages that show that a document was loaded in a session. -/
inductive DocumentLoaded (html? : Option Json) (session : Option String) (sent : List Json) :
    List Message → Prop where
  | intro {treeId contentId : CallId} {frame tree frameId html params : Json} {result : Option Json}
      (called : SentOnce sent "Page.getFrameTree" frame)
      (numbered : frame.callId? = some treeId)
      (named : tree.at? ["frameTree", "frame", "id"] = some frameId)
      (given : html? = some html)
      (filled : SentOnce sent "Page.setDocumentContent"
        (Call.toFrame ⟨"Page.setDocumentContent", .ofList [("frameId", frameId), ("html", html)],
          session⟩ contentId)) :
      DocumentLoaded html? session sent
        [.response treeId (some tree) none, .response contentId result none,
          .notification "Page.loadEventFired" params session]

/-- The message that shows that an expression was evaluated. -/
inductive ExpressionAwaited (sent : List Json) : List Message → Prop where
  | intro {id : CallId} {frame : Json} {result : Option Json}
      (called : SentOnce sent "Runtime.evaluate" frame)
      (numbered : frame.callId? = some id)
      (clean : result.bind (·.field? "exceptionDetails") = none) :
      ExpressionAwaited sent [.response id result none]

/-- Some of the arrivals show, in order, that the content which the options name was loaded, and
after that that the expression was evaluated if they name one. -/
def LoadShown (options : Options) (session : Option String) (sent : List Json)
    (arrivals : List Arrival) : Prop :=
  ∃ loaded awaited,
    (options.get? "source_type" = some (.str "url") → AddressLoaded session sent loaded) ∧
    (options.get? "source_type" = some (.str "html") →
      DocumentLoaded (options.get? "html") session sent loaded) ∧
    (options.contains "wait_for" = true → ExpressionAwaited sent awaited) ∧
    ((loaded ++ awaited).map Arrival.message).Sublist arrivals

/-! ### Checks and payloads -/

variable {state final : State} {nextId finalId : CallId} {marks : List Mark} {sent : List Json}
  {options : Options}

/-- The check of a field refuses errors and results that have it. -/
theorem rejectField_eq_ok_iff {field label : String} {id : CallId} {result error : Option Json} :
    Protocol.rejectField field label state (.response id result error) = .ok () ↔
      error = none ∧ result.bind (·.field? field) = none := by
  cases error with
  | some value => simp [Protocol.rejectField, Message.error?]
  | none =>
      cases present : result.bind (·.field? field) <;>
        simp [Protocol.rejectField, Message.error?, Message.result?, present]

/-- Where all frames call different methods, each is the only one to call its own. -/
theorem sentOnce_of_nodup (distinct : (sent.map Json.method?).Nodup) {frame : Json}
    (member : frame ∈ sent) {method : String} (calls : frame.method? = some method) :
    SentOnce sent method frame := by
  obtain ⟨before, after, rfl⟩ := List.append_of_mem member
  have others : ∀ other ∈ before ++ after, other.method? ≠ some method := by
    have apart := ((List.perm_middle.map Json.method?).nodup_iff).mp distinct
    rw [List.map_cons, List.nodup_cons, calls] at apart
    intro other inOthers same
    exact apart.1 (same ▸ List.mem_map_of_mem inOthers)
  have early : before.filter (fun other => other.method? = some method) = [] := by
    simpa using fun other inBefore => others other (List.mem_append_left after inBefore)
  have late : after.filter (fun other => other.method? = some method) = [] := by
    simpa using fun other inAfter => others other (List.mem_append_right before inAfter)
  simp [SentOnce, early, late, calls]

/-- The frames of these marks are the only ones to call their methods. -/
def CalledOnce (sent : List Json) (marks : List Mark) : Prop :=
  ∀ frame ∈ Mark.frames marks, ∀ method, frame.method? = some method → SentOnce sent method frame

theorem CalledOnce.mono {part : List Mark} (once : CalledOnce sent marks)
    (subset : Mark.frames part ⊆ Mark.frames marks) : CalledOnce sent part :=
  fun frame member => once frame (subset member)

/-- Completed steps that call no method twice have frames that do not either. -/
theorem Completes.calledOnce {steps : List Step}
    (completes : Completes steps state nextId marks final finalId)
    (distinct : (calledMethods steps).Nodup) : CalledOnce (Mark.frames marks) marks := by
  have apart : ((Mark.frames marks).map Json.method?).Nodup := by
    rw [completes.map_method?_frames]
    exact List.Pairwise.map some (fun _ _ different same => different (Option.some.inj same))
      distinct
  intro frame member method calls
  exact sentOnce_of_nodup apart member calls

/-! ### The parts -/

namespace Protocol

/-- Noting the id of a call and then a frame leaves the session and the document alone. -/
theorem noted_frameId {noted : State} {payload : Json} {context : String} {id : CallId}
    {frameId : Json}
    (noting : extractFields ((state.insert lastCallIdKey (.word id)).insert "frameId" frameId)
      payload context [] = .ok noted) :
    noted.get? "frameId" = some frameId ∧ noted.get? "html" = state.get? "html" ∧
      noted.sessionId? = state.sessionId? := by
  cases noting
  refine ⟨?_, ?_, ?_⟩
  · simp [State.get?_insert]
  · simp [State.get?_insert, lastCallIdKey]
  · rw [State.sessionId?_insert_of_ne (by decide), State.sessionId?_insert_of_ne (by decide)]

/-- The steps that load an address take the messages that show it. -/
theorem addressLoaded_of_completes
    (completes : Completes addressSteps state nextId marks final finalId)
    (once : CalledOnce sent marks) :
    AddressLoaded state.sessionId? sent (Mark.messages marks) := by
  obtain ⟨_, result, error, noted, _, _, checked, extracted, rfl, stopping⟩ := completes.exchange
  simp only [rejectField_eq_ok_iff] at checked
  obtain ⟨rfl, clean⟩ := checked
  obtain ⟨frameId, found, noting⟩ := extractFields_cons_inv extracted
  obtain ⟨payload, rfl, named⟩ := exists_result_of_at? found
  obtain ⟨known, _, session⟩ := noted_frameId noting
  -- The event has to name the frame that was just noted.
  obtain ⟨params, _, _, agree, _, rfl, finished⟩ := stopping.event
  cases finished
  obtain ⟨expected, stopped, expects, loaded, same, _⟩ := fieldsMatch_cons_inv agree
  obtain rfl : frameId = expected := Option.some.inj (known.symm.trans expects)
  rw [← session]
  refine .intro (once _ List.mem_cons_self _ (method?_toFrame _ _)) (callId?_toFrame _ _) ?_ clean
    ?_ same
  · exact (Json.at?_singleton rfl payload).symm.trans named
  · exact (Json.at?_singleton rfl params).symm.trans loaded

/-- The steps that load a document take the messages that show it. -/
theorem documentLoaded_of_completes
    (completes : Completes documentSteps state nextId marks final finalId)
    (once : CalledOnce sent marks) :
    DocumentLoaded (state.get? "html") state.sessionId? sent (Mark.messages marks) := by
  obtain ⟨_, result, error, noted, _, _, checked, extracted, rfl, filling⟩ := completes.exchange
  simp only [rejectErrors_eq_ok_iff] at checked
  subst checked
  obtain ⟨frameId, found, noting⟩ := extractFields_cons_inv extracted
  obtain ⟨tree, rfl, named⟩ := exists_result_of_at? found
  obtain ⟨known, sameHtml, session⟩ := noted_frameId noting
  -- The frame is filled with what the state holds at both keys.
  obtain ⟨params, content, error, _, _, resolved, checked, extracted, rfl, loading⟩ :=
    filling.exchange
  simp only [rejectErrors_eq_ok_iff] at checked
  subst checked
  cases extracted
  obtain ⟨yielded, collected, rfl⟩ := resolveParams_eq_ok resolved
  obtain ⟨target, foundTarget, collected⟩ := collectParams_cons_inv collected
  obtain ⟨html, foundHtml, collected⟩ := collectParams_cons_inv collected
  cases collected
  obtain rfl : frameId = target :=
    Option.some.inj (known.symm.trans ((noted.at?_singleton _).symm.trans foundTarget))
  have given : noted.get? "html" = some html := (noted.at?_singleton _).symm.trans foundHtml
  obtain ⟨event, _, _, _, _, rfl, finished⟩ := loading.event
  cases finished
  simp only [Mark.messages]
  rw [State.sessionId?_insert_of_ne (by decide), ← session]
  refine .intro (once _ List.mem_cons_self _ (method?_toFrame _ _)) (callId?_toFrame _ _) named
    (sameHtml.symm.trans given) ?_
  exact once _ (List.mem_cons_of_mem _ List.mem_cons_self) _ (method?_toFrame _ _)

/-- The steps that await an expression take the message that shows its evaluation. -/
theorem expressionAwaited_of_completes
    (completes : Completes waitingSteps state nextId marks final finalId)
    (once : CalledOnce sent marks) :
    ExpressionAwaited sent (Mark.messages marks) := by
  obtain ⟨_, result, error, _, _, _, checked, _, rfl, finished⟩ := completes.exchange
  simp only [rejectField_eq_ok_iff] at checked
  obtain ⟨rfl, clean⟩ := checked
  cases finished
  exact .intro (once _ List.mem_cons_self _ (method?_toFrame _ _)) (callId?_toFrame _ _) clean

end Protocol

/-! ### Whole runs -/

/-- Where loading is completed, the messages that completed it show that. -/
theorem loadShown_of_completes {extra : List Step} {arrivals : List Arrival}
    (completes : Completes (Protocol.navigate.steps options ++ extra) state nextId marks final
      finalId)
    (distinct : (calledMethods (Protocol.navigate.steps options ++ extra)).Nodup)
    (html : state.get? "html" = options.get? "html")
    (inOrder : ((Mark.messages marks).map Arrival.message).Sublist arrivals) :
    LoadShown options state.sessionId? (Mark.frames marks) arrivals := by
  have once := completes.calledOnce distinct
  have spared : ∀ key, key ∉ Protocol.navigate.writtenKeys →
      Spares key (Protocol.navigate.steps options) :=
    fun key unwritten => spares_of_not_mem_writtenKeys unwritten options
  rw [Protocol.navigate_steps] at completes spared
  obtain ⟨_, _, loading, others, rfl, completes, _⟩ := completes.split
  obtain ⟨ready, _, cookie, _, rfl, setting, completes⟩ := completes.split
  obtain ⟨_, _, loaded, awaited, rfl, source, waiting⟩ := completes.split
  -- Setting a cookie leaves the session and the document alone.
  have session : ready.sessionId? = state.sessionId? :=
    setting.sessionId?_eq ((spared sessionIdKey (by decide)).mono (List.subset_append_left _ _))
  have sameHtml : ready.get? "html" = options.get? "html" := by
    rw [← html]
    exact setting.get?_eq (by decide)
      ((spared "html" (by decide)).mono (List.subset_append_left _ _))
  have onceLoaded : CalledOnce _ loaded :=
    once.mono fun frame member => by simp [Mark.frames_append, member]
  have onceAwaited : CalledOnce _ awaited :=
    once.mono fun frame member => by simp [Mark.frames_append, member]
  rw [← session]
  refine ⟨Mark.messages loaded, Mark.messages awaited, ?_, ?_, ?_, ?_⟩
  · intro url
    rw [Protocol.sourceSteps_of_url url] at source
    exact Protocol.addressLoaded_of_completes source onceLoaded
  · intro document
    rw [Protocol.sourceSteps_of_html document] at source
    rw [← sameHtml]
    exact Protocol.documentLoaded_of_completes source onceLoaded
  · intro given
    rw [if_pos given] at waiting
    exact Protocol.expressionAwaited_of_completes waiting onceAwaited
  · refine List.Sublist.trans (List.Sublist.map Arrival.message ?_) inOrder
    simp only [Mark.messages_append]
    exact (List.sublist_append_right _ _).trans (List.sublist_append_left _ _)

section
variable {script : Script} {link : Link} {firstId : CallId} {queue : List Arrival}

/-- At a moment at which loading is completed, what was consumed shows that. -/
theorem loadShown_of_past (loads : script ∈ Protocol.loadingScripts) {moment : Moment}
    {done : List Step} {marks : List Mark} {consumed : List Arrival}
    (past : Past ((Instance.new script options).start firstId queue) moment done marks consumed)
    (completed : Protocol.navigate.steps options <+: done) :
    LoadShown options (initialState options).sessionId? moment.sent consumed := by
  have steps : script.steps options = done ++ moment.steps := past.steps
  have frames : moment.sent = Mark.frames marks := past.sent
  obtain ⟨extra, rfl⟩ := completed
  have distinct : (calledMethods (Protocol.navigate.steps options ++ extra)).Nodup := by
    have all := nodup_calledMethods_of_mem_catalog
      (Protocol.mem_catalog_of_mem_loadingScripts loads) options
    rw [steps, calledMethods, List.filterMap_append] at all
    exact (List.nodup_append.mp all).1
  have html : (initialState options).get? "html" = options.get? "html" :=
    get?_initialState options (by decide) (by decide)
  rw [frames]
  exact loadShown_of_completes past.completes distinct html past.inOrder

/-- A run that returns a value has completed loading. -/
theorem navigate_prefix_of_halt (loads : script ∈ Protocol.loadingScripts) {moment : Moment}
    {done : List Step} (steps : script.steps options = done ++ moment.steps) {finish : Finish}
    (halt : Halt link moment finish) (succeeded : ∀ error, finish ≠ .stopped error) :
    Protocol.navigate.steps options <+: done := by
  cases halt with
  | done finished =>
      rw [finished, List.append_nil] at steps
      rw [← steps, Protocol.steps_eq_append loads]
      exact List.prefix_append _ _
  | @output name spec rest value pending projected =>
      -- The output step is no part of loading, so loading comes before it.
      have other : ⟨name, .output spec⟩ ∉ Protocol.navigate.steps options :=
        fun member => (Protocol.not_captures_of_mem_navigate member).1 rfl
      rw [pending, List.append_cons] at steps
      have early := Protocol.navigate_prefix_of_mem loads steps
        (List.mem_append_right done List.mem_cons_self) other
      rcases List.prefix_concat_iff.mp early with last | earlier
      · exact absurd (last ▸ List.mem_append_right done List.mem_cons_self) other
      · exact earlier
  | unprojected => exact absurd rfl (succeeded _)
  | unissued => exact absurd rfl (succeeded _)
  | unsent => exact absurd rfl (succeeded _)
  | starved => exact absurd rfl (succeeded _)
  | rejected => exact absurd rfl (succeeded _)
  | failed => exact absurd rfl (succeeded _)

/-- A run that has sent a frame that captures has completed loading. -/
theorem navigate_prefix_of_captured (loads : script ∈ Protocol.loadingScripts) {moment : Moment}
    {done : List Step} {marks : List Mark} {consumed : List Arrival}
    (past : Past ((Instance.new script options).start firstId queue) moment done marks consumed)
    {frame : Json} (member : frame ∈ moment.sent) {method : String}
    (captures : method ∈ Protocol.captureMethods) (calls : frame.method? = some method) :
    Protocol.navigate.steps options <+: done := by
  have steps : script.steps options = done ++ moment.steps := past.steps
  obtain ⟨step, inDone, declares⟩ := past.exists_calling_step rfl member calls
  exact Protocol.navigate_prefix_of_mem loads steps inDone fun inLoading =>
    (Protocol.not_captures_of_mem_navigate inLoading).2 _ captures declares

end

/-- No reported success without a load.  Let content be loaded, or loaded and captured, in any
session, under any options and whatever the run receives.  If the run returns a value, what it has
received shows that the content was loaded which the options name, for an address as for a document,
and that the expression was evaluated after that if there is one.  And as soon as the run has sent a
frame that captures, what it had consumed by then shows the same. -/
theorem success_shows_load (script : Script) (loads : script ∈ Protocol.loadingScripts)
    (session : Option String) (options : Options) (link : Link) (firstId : CallId)
    (queue : List Arrival) :
    let subject := Instance.forOptionalSession script session options
    let report := subject.run link firstId queue
    (∀ value, report.result = .ok value →
        LoadShown options subject.state.sessionId? report.sent queue) ∧
      ∀ moment, Reaches link (subject.start firstId queue) moment →
        ∀ frame ∈ moment.sent, ∀ method ∈ Protocol.captureMethods, frame.method? = some method →
          ∃ consumed, queue = consumed ++ moment.queue ∧
            LoadShown options subject.state.sessionId? moment.sent consumed := by
  obtain ⟨effective, made, same⟩ := exists_options_of_session script session options
  have shown : ∀ {sent arrivals},
      LoadShown effective (initialState effective).sessionId? sent arrivals →
      LoadShown options (initialState effective).sessionId? sent arrivals := by
    intro sent arrivals shown
    rw [LoadShown, Table.contains, same _ (by decide), same _ (by decide), same _ (by decide)]
      at shown
    exact shown
  simp only [made]
  constructor
  · intro value returned
    obtain ⟨last, finish, reached, halt, sameFinish, sent⟩ :=
      run_halts link (.new script effective) firstId queue
    obtain ⟨done, marks, consumed, past⟩ := exists_past_of_reaches reached
    have succeeded : ∀ error, finish ≠ .stopped error := by
      rintro error rfl
      rw [Report.result, sameFinish] at returned
      cases returned
    have received : queue = consumed ++ last.queue := past.queue
    obtain ⟨loaded, awaited, address, document, expression, inOrder⟩ :=
      shown (loadShown_of_past loads past (navigate_prefix_of_halt loads past.steps halt succeeded))
    rw [sent]
    refine ⟨loaded, awaited, address, document, expression, inOrder.trans ?_⟩
    rw [received]
    exact List.sublist_append_left consumed last.queue
  · intro moment reached frame member method captures calls
    obtain ⟨done, marks, consumed, past⟩ := exists_past_of_reaches reached
    have completed := navigate_prefix_of_captured loads past member captures calls
    exact ⟨consumed, past.queue, shown (loadShown_of_past loads past completed)⟩

/-- Options of a page that is printed once an expression is ready. -/
def printingOptions : Options :=
  .ofList [("source_type", .str "url"), ("url", .str "https://example.com"), ("cookie", .null),
    ("wait_for", .str "document.fonts.ready")]

/-- What the session has to say.  The first two events come too early and from another frame. -/
def printingArrivals : List Arrival :=
  let stopped (frameId : String) : Arrival :=
    .message (.notification "Page.frameStoppedLoading" (.object [("frameId", .str frameId)])
      (some "S"))
  [stopped "F", .message (.response 1 (some (.object [])) none),
    .message (.response 2 (some (.object [("frameId", .str "F")])) none), stopped "G", stopped "F",
    .message (.response 3 (some (.object [])) none),
    .message (.response 4 (some (.object [("data", .str "JVBERg==")])) none)]

/-- The page is printed, and what was consumed until its frame was sent shows that it was loaded. -/
theorem printing_success_shows_load :
    let subject := Instance.forOptionalSession Protocol.printToPdf (some "S") printingOptions
    let report := subject.run {} 1 printingArrivals
    report.result = .ok (.str "JVBERg==") ∧
      LoadShown printingOptions (some "S") report.sent printingArrivals ∧
      ∃ moment, Reaches {} (subject.start 1 printingArrivals) moment ∧
        ∃ consumed, printingArrivals = consumed ++ moment.queue ∧
          LoadShown printingOptions (some "S") moment.sent consumed := by
  obtain ⟨onSuccess, onCapture⟩ := success_shows_load Protocol.printToPdf
    (by simp [Protocol.loadingScripts]) (some "S") printingOptions {} 1 printingArrivals
  obtain ⟨last, finish, reached, _, _, sent⟩ := run_halts {}
    (Instance.forOptionalSession Protocol.printToPdf (some "S") printingOptions) 1 printingArrivals
  refine ⟨rfl, onSuccess _ rfl, last, reached, ?_⟩
  have captured : Call.toFrame
      ⟨"Page.printToPDF", .ofList [("printBackground", .bool true)], some "S"⟩ 4 ∈ last.sent := by
    rw [← sent]
    exact List.mem_of_getLast? rfl
  exact onCapture last reached _ captured "Page.printToPDF" (by simp [Protocol.captureMethods])
    (method?_toFrame _ _)

end Dialogue
